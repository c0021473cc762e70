import Mathlib.Control.Monad.Basic
import FrameChain.Proofs.Comparison
import FrameChain.Proofs.Lockstep
import FrameChain.Trampoline.Analysis

/-!
# Builds without checks

A build that checks stops at a sum that leaves the word range and at a failed
assertion.  The release build goes on there: the sum wraps, and the assertion
gives way to a value with which no walk is corrected.  Nothing else differs.

Which bytes a run reads is said by what it does without them.  A run that
touches a byte is broken off where the byte is not mapped; to any other run of
the computations here it makes no difference.  Where an assertion fails, the
release build touches nothing more before it returns.
-/

namespace FrameChain

/-- How a run without checks ends, by how the run of a checking build ended.
After a failed assertion it returns a harmless value; after a sum that does
not fit it may do anything. -/
inductive Relaxes (harmless : α → Prop) :
    Except Abort α → Except Abort α → Prop where
  | returned (result : α) : Relaxes harmless (.ok result) (.ok result)
  | unread :
      Relaxes harmless (.error .unmappedRead) (.error .unmappedRead)
  | asserted (assertion : Assertion) {result : α} :
      harmless result →
      Relaxes harmless (.error (.failed assertion)) (.ok result)
  | overflowed (plain : Except Abort α) :
      Relaxes harmless (.error .additionOverflow) plain

def Memory.without (memory : Memory) (hidden : Word) : Memory :=
  ⟨fun address => if address = hidden then none else memory.byte? address⟩

/-- The run reads the byte at an address: where that byte is not mapped, it is
broken off. -/
def Touches (run : Memory → Except Abort α) (memory : Memory)
    (address : Word) : Prop :=
  run (memory.without address) = .error .unmappedRead

instance [DecidableEq α] (run : Memory → Except Abort α) (memory : Memory)
    (address : Word) : Decidable (Touches run memory address) :=
  inferInstanceAs (Decidable (_ = _))

/-- A run over a part of a memory ends as the run over the whole does, or at a
byte that the part lacks. -/
def Lacks (whole part : Except Abort α) : Prop :=
  part = whole ∨ part = .error .unmappedRead

/-- A byte that the run does not touch makes no difference to it. -/
def Local (run : Memory → Except Abort α) : Prop :=
  ∀ memory address, Lacks (run memory) (run (memory.without address))

/-- A computation as a build that checks runs it, and as one that does not. -/
structure Unchecked (harmless : α → Prop)
    (checked plain : Memory → Except Abort α) : Prop where
  ends : ∀ memory, Relaxes harmless (checked memory) (plain memory)
  /-- Where an assertion fails, the second run touches no other byte. -/
  touched : ∀ memory assertion,
    checked memory = .error (.failed assertion) →
    ∀ address, Touches plain memory address → Touches checked memory address
  checkedLocal : Local checked
  plainLocal : Local plain

/-- The code at an address, as long as a number of bytes. -/
def Trampoline.Code.stretch (memory : Memory) (address : Word)
    (length : Nat) : Code :=
  fun offset =>
    if offset < length then
      (memory.readByte (address.offset offset)).map some
    else
      .ok none

namespace Relaxes

variable {harmless : α → Prop} {quiet : β → Prop}
  {first second : Except Abort α}

theorem bind {next otherNext : α → Except Abort β}
    (begun : Relaxes (fun _ => False) first second)
    (continued : ∀ result, Relaxes quiet (next result) (otherNext result)) :
    Relaxes quiet (first >>= next) (second >>= otherNext) := by
  cases begun with
  | returned result => exact continued result
  | unread => exact .unread
  | asserted _ harmful => exact harmful.elim
  | overflowed => exact .overflowed _

theorem map {function : α → β} (relaxes : Relaxes harmless first second)
    (kept : ∀ result, harmless result → quiet (function result)) :
    Relaxes quiet (first.map function) (second.map function) := by
  cases relaxes with
  | returned result => exact .returned _
  | unread => exact .unread
  | asserted assertion passed => exact .asserted assertion (kept _ passed)
  | overflowed => exact .overflowed _

theorem refuse (build : Build) (assertion : Assertion) {fallback : α}
    (passed : harmless fallback) :
    Relaxes harmless (build.refuse assertion fallback)
      (Build.release.refuse assertion fallback) := by
  unfold Build.refuse
  split
  · exact .asserted assertion passed
  · exact .returned fallback

theorem add {harmless : Word → Prop} (build : Build) (left right : Word) :
    Relaxes harmless (build.add left right)
      (Build.release.add left right) := by
  have wraps : Build.release.add left right = .ok (left + right) := rfl
  cases sum : build.add left right with
  | error cause =>
      rw [Build.add_eq_error sum]
      exact .overflowed _
  | ok result =>
      rw [Build.add_eq_ok sum, wraps]
      exact .returned _

theorem of_reads {run : Except Abort α}
    (reads : ∀ cause, run = .error cause → cause = .unmappedRead) :
    Relaxes harmless run run := by
  cases ended : run with
  | ok result => exact .returned result
  | error cause =>
      rw [reads cause ended]
      exact .unread

end Relaxes

namespace Lacks

variable {whole part : Except Abort α}

theorem refl (run : Except Abort α) : Lacks run run := .inl rfl

theorem bind {next otherNext : α → Except Abort β} (begun : Lacks whole part)
    (continued : ∀ result, Lacks (next result) (otherNext result)) :
    Lacks (whole >>= next) (part >>= otherNext) := by
  rcases begun with rfl | rfl
  · cases part with
    | ok result => exact continued result
    | error cause => exact .refl _
  · exact .inr rfl

theorem map (function : α → β) (lacks : Lacks whole part) :
    Lacks (whole.map function) (part.map function) := by
  rcases lacks with rfl | rfl
  · exact .refl _
  · exact .inr rfl

end Lacks

def Comparison.relaxes : Comparison where
  Holds := Relaxes fun _ => False
  value := .returned
  bind := .bind

def Comparison.lacks : Comparison where
  Holds := Lacks
  value result := .refl (.ok result)
  bind := .bind

theorem Memory.readBytes_error {memory : Memory} {address : Word}
    {count : Nat} {cause : Abort}
    (failed : memory.readBytes address count = .error cause) :
    cause = .unmappedRead := by
  by_cases mapped : memory.Mapped address count
  · obtain ⟨bytes, bytesRead⟩ := readBytes_of_mapped mapped
    cases bytesRead.symm.trans failed
  · rw [readBytes_of_not_mapped mapped] at failed
    exact (Except.error.inj failed).symm

theorem Memory.readBytes_without (memory : Memory) (hidden address : Word)
    (count : Nat) :
    Lacks (memory.readBytes address count)
      ((memory.without hidden).readBytes address count) := by
  induction count generalizing address with
  | zero => exact .refl _
  | succ count ih =>
      by_cases here : address = hidden
      · apply Or.inr
        simp [readBytes, without, here]
      · have kept : (memory.without hidden).byte? address =
            memory.byte? address := if_neg here
        simp only [readBytes, kept]
        cases memory.byte? address with
        | none => exact .refl _
        | some byte =>
            rcases ih (address + 1) with same | unread
            · simp only [same]
              exact .refl _
            · simp only [unread]
              exact .inr rfl

/-- The release build adds without a check and reads what every build
reads. -/
theorem Comparison.relaxes_covers (build : Build) (memory : Memory) :
    Comparison.relaxes.Covers build .release memory memory where
  add := .add build
  readBytes _ _ := .of_reads fun _ => Memory.readBytes_error

theorem Comparison.lacks_covers (build : Build) (memory : Memory)
    (hidden : Word) :
    Comparison.lacks.Covers build build memory (memory.without hidden) where
  add _ _ := .refl _
  readBytes := memory.readBytes_without hidden

/-- If the release build touched a byte beyond those of the checked run, then
without that byte the assertion would fail as before, and the release build
would not be broken off. -/
theorem Unchecked.of_ends {harmless : α → Prop}
    {checked plain : Memory → Except Abort α}
    (ends : ∀ memory, Relaxes harmless (checked memory) (plain memory))
    (checkedLocal : Local checked) (plainLocal : Local plain) :
    Unchecked harmless checked plain where
  ends := ends
  checkedLocal := checkedLocal
  plainLocal := plainLocal
  touched := by
    intro memory assertion failed address touches
    rcases checkedLocal memory address with same | unread
    · have relaxes := ends (memory.without address)
      rw [same, failed, touches] at relaxes
      cases relaxes
    · exact unread

namespace Image

theorem locate_unchecked (build : Build) (base : Word) :
    Unchecked (fun _ => False) (locate build · base)
      (locate .release · base) :=
  .of_ends
    (fun memory => locate_compared (Comparison.relaxes_covers build memory) base)
    (fun memory hidden =>
      locate_compared (Comparison.lacks_covers build memory hidden) base)
    (fun memory hidden =>
      locate_compared (Comparison.lacks_covers .release memory hidden) base)

theorem lookup_unchecked (build : Build) (image : Image)
    (query : SymbolQuery) :
    Unchecked (fun _ => False) (lookup build · image query)
      (lookup .release · image query) :=
  .of_ends
    (fun memory =>
      lookup_compared (Comparison.relaxes_covers build memory) image query)
    (fun memory hidden =>
      lookup_compared (Comparison.lacks_covers build memory hidden) image query)
    (fun memory hidden =>
      lookup_compared (Comparison.lacks_covers .release memory hidden) image
        query)

end Image

namespace Trampoline

theorem countPushes_eq_bind (build : Build) (code : Code) :
    countPushes build code = scan code 0 0 >>= Ending.pushes build := by
  unfold countPushes
  cases scan code 0 0 <;> rfl

theorem Ending.pushes_relaxes (build : Build) (ending : Ending) :
    Relaxes (· = 0) (ending.pushes build) (ending.pushes .release) := by
  cases ending with
  | kernelEntry pushes => exact .returned pushes
  | framed => exact .returned 0
  | interrupt pushes =>
      unfold Ending.pushes
      dsimp only
      split
      · exact .returned 0
      · exact .refuse build _ rfl
  | unknown opcode => exact .refuse build _ rfl
  | exhausted => exact .refuse build _ rfl

/-- All builds scan alike, and differ in what they make of the ending. -/
theorem countPushes_relaxes (build : Build) {code : Code}
    (reads : ∀ offset cause,
      code offset = .error cause → cause = .unmappedRead) :
    Relaxes (· = 0) (countPushes build code) (countPushes .release code) := by
  rw [countPushes_eq_bind, countPushes_eq_bind]
  have scanned : Relaxes (fun _ => False) (scan code 0 0) (scan code 0 0) :=
    scan_compared .relaxes
      (fun offset => .of_reads (reads offset)) 0 0
  exact scanned.bind (Ending.pushes_relaxes build)

theorem Code.stretch_error {memory : Memory} {address : Word}
    {length offset : Nat} {cause : Abort}
    (failed : Code.stretch memory address length offset = .error cause) :
    cause = .unmappedRead := by
  unfold Code.stretch Memory.readByte at failed
  split at failed
  · cases present : memory.byte? (address.offset offset) with
    | none =>
        rw [present] at failed
        exact (Except.error.inj failed).symm
    | some byte =>
        rw [present] at failed
        cases failed
  · cases failed

theorem Code.stretch_lacks (memory : Memory) (hidden address : Word)
    (length offset : Nat) :
    Lacks (Code.stretch memory address length offset)
      (Code.stretch (memory.without hidden) address length offset) := by
  unfold Code.stretch
  split
  · have covers := Comparison.lacks_covers .release memory hidden
    exact (covers.readByte (address.offset offset)).map some
  · exact .refl _

theorem countPushes_lacks (build : Build) (address : Word) (length : Nat) :
    Local fun memory => countPushes build (.stretch memory address length) := by
  intro memory hidden
  simp only [countPushes_eq_bind]
  have scanned : Lacks (scan (.stretch memory address length) 0 0)
      (scan (.stretch (memory.without hidden) address length) 0 0) :=
    scan_compared .lacks
      (Code.stretch_lacks memory hidden address length) 0 0
  exact scanned.bind fun ending => .refl _

theorem countPushes_unchecked (build : Build) (address : Word)
    (length : Nat) :
    Unchecked (· = 0)
      (fun memory => countPushes build (.stretch memory address length))
      (fun memory => countPushes .release (.stretch memory address length)) :=
  .of_ends
    (fun _ => countPushes_relaxes build fun _ _ => Code.stretch_error)
    (countPushes_lacks build address length)
    (countPushes_lacks .release address length)

theorem Code.ofMemory_eq_stretch (memory : Memory) (address : Word) :
    Code.ofMemory memory address =
      .stretch memory address (scanWindow + 1) := by
  funext offset
  simp only [Code.ofMemory, Code.stretch, Nat.lt_succ_iff]

namespace Analysis

theorem not_needsCorrection_unknown : ¬ unknown.NeedsCorrection := by
  decide

theorem ofAnswers_relaxes (build : Build) (memory : Memory)
    (signalReturn entry : SymbolAnswer) :
    Relaxes (¬ ·.NeedsCorrection) (ofAnswers build memory signalReturn entry)
      (ofAnswers .release memory signalReturn entry) := by
  unfold ofAnswers
  split
  · exact .returned unknown
  · exact .returned unknown
  next signalReturn entry =>
    split
    · exact .refuse build _ not_needsCorrection_unknown
    · rw [Code.ofMemory_eq_stretch]
      have counted := countPushes_unchecked build entry (scanWindow + 1)
      apply (counted.ends memory).map
      intro pushes none needed
      exact needed.1 (congrArg UInt64.ofNat none)
  · exact .refuse build _ not_needsCorrection_unknown

theorem ofAnswers_lacks (build : Build) (memory : Memory) (hidden : Word)
    (signalReturn entry : SymbolAnswer) :
    Lacks (ofAnswers build memory signalReturn entry)
      (ofAnswers build (memory.without hidden) signalReturn entry) := by
  unfold ofAnswers
  split
  · exact .refl _
  · exact .refl _
  next signalReturn entry =>
    split
    · exact .refl _
    · rw [Code.ofMemory_eq_stretch, Code.ofMemory_eq_stretch]
      have counted := countPushes_lacks build entry (scanWindow + 1)
      exact (counted memory hidden).map _
  · exact .refl _

theorem resolve_lacks (build : Build)
    {lookup : Memory → SymbolQuery → Except Abort SymbolAnswer}
    (lookups : ∀ query, Local (lookup · query)) :
    Local fun memory => resolve build memory (lookup memory) := by
  intro memory hidden
  apply (lookups signalReturnQuery memory hidden).bind
  intro signalReturn
  apply (lookups entryQuery memory hidden).bind
  intro entry
  exact ofAnswers_lacks build memory hidden signalReturn entry

theorem resolve_unchecked (build : Build)
    {checked plain : Memory → SymbolQuery → Except Abort SymbolAnswer}
    (lookups : ∀ query,
      Unchecked (fun _ => False) (checked · query) (plain · query)) :
    Unchecked (¬ ·.NeedsCorrection)
      (fun memory => resolve build memory (checked memory))
      (fun memory => resolve .release memory (plain memory)) := by
  apply Unchecked.of_ends
  · intro memory
    apply ((lookups signalReturnQuery).ends memory).bind
    intro signalReturn
    apply ((lookups entryQuery).ends memory).bind
    intro entry
    exact ofAnswers_relaxes build memory signalReturn entry
  · exact resolve_lacks build fun query => (lookups query).checkedLocal
  · exact resolve_lacks .release fun query => (lookups query).plainLocal

end Analysis

end Trampoline

/-- The release build refines a build with checks.  Whenever that one locates
the object, looks a symbol up, counts the pushes of some code or resolves the
trampolines, whatever answers the lookup, the release build does the same.
Where it stops at a failed assertion, the release build counts no pushes, or
knows nothing to correct, and touches no byte that was not touched before. -/
theorem release_refines (build : Build) :
    (∀ base, Unchecked (fun _ => False) (Image.locate build · base)
      (Image.locate .release · base)) ∧
    (∀ image query,
      Unchecked (fun _ => False) (Image.lookup build · image query)
        (Image.lookup .release · image query)) ∧
    (∀ bytes, Relaxes (· = 0)
      (Trampoline.countPushes build (.ofList bytes))
      (Trampoline.countPushes .release (.ofList bytes))) ∧
    (∀ address length, Unchecked (· = 0)
      (fun memory =>
        Trampoline.countPushes build (.stretch memory address length))
      (fun memory =>
        Trampoline.countPushes .release (.stretch memory address length))) ∧
    (∀ lookup : SymbolQuery → SymbolAnswer,
      Unchecked (¬ ·.NeedsCorrection)
        (fun memory => Trampoline.Analysis.resolve build memory
          fun query => (pure (lookup query) : Except Abort SymbolAnswer))
        (fun memory => Trampoline.Analysis.resolve .release memory
          fun query => (pure (lookup query) : Except Abort SymbolAnswer))) ∧
    (∀ image, Unchecked (¬ ·.NeedsCorrection)
      (fun memory => Trampoline.Analysis.resolve build memory
        (Image.lookup build memory image))
      (fun memory => Trampoline.Analysis.resolve .release memory
        (Image.lookup .release memory image))) := by
  refine ⟨Image.locate_unchecked build, Image.lookup_unchecked build, ?_, ?_,
    ?_, ?_⟩
  · intro bytes
    apply Trampoline.countPushes_relaxes build
    intro offset cause failed
    cases failed
  · intro address length
    exact Trampoline.countPushes_unchecked build address length
  · intro lookup
    apply Trampoline.Analysis.resolve_unchecked build
    intro query
    exact .of_ends (fun _ => .returned _) (fun _ _ => .refl _)
      (fun _ _ => .refl _)
  · intro image
    exact Trampoline.Analysis.resolve_unchecked build
      (Image.lookup_unchecked build image)

/-- A push, and a byte that starts no instruction. -/
def Memory.unknownCode : Memory :=
  (Memory.empty.zeroed 0x1000 16).store 0x1000 [0x51, 0x90]

/-- The checked run stops at the second byte.  Both runs look at the byte after
it, and at none further on. -/
theorem release_refines_unknown_code :
    let memory := Memory.unknownCode
    let checked := fun memory => Trampoline.countPushes .development
      (.stretch memory 0x1000 11)
    let plain := fun memory => Trampoline.countPushes .release
      (.stretch memory 0x1000 11)
    checked memory = .error (.failed (.unexpectedInstruction 0x90)) ∧
    plain memory = .ok 0 ∧
    Touches plain memory 0x1002 ∧ Touches checked memory 0x1002 ∧
    ¬ Touches checked memory 0x1003 ∧ ¬ Touches plain memory 0x1003 := by
  intro memory checked plain
  have stopped : checked memory =
      .error (.failed (.unexpectedInstruction 0x90)) := by
    decide +kernel
  have touched : Touches plain memory 0x1002 := by decide +kernel
  have untouched : ¬ Touches checked memory 0x1003 := by decide +kernel
  obtain ⟨_, _, _, counted, _⟩ := release_refines .development
  have unchecked : Unchecked (· = 0) checked plain := counted 0x1000 11
  have none : plain memory = .ok 0 := by
    have relaxes := unchecked.ends memory
    rw [stopped] at relaxes
    generalize plain memory = ended at relaxes
    cases relaxes with
    | asserted _ zero => rw [zero]
  refine ⟨stopped, none, touched, ?_, untouched, ?_⟩
  · exact unchecked.touched memory _ stopped 0x1002 touched
  · exact mt (unchecked.touched memory _ stopped 0x1003) untouched

end FrameChain
