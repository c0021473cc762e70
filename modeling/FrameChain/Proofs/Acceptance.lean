import Mathlib.Control.Monad.Basic
import FrameChain.Transition

/-!
# When a step is accepted

The candidate for the caller of a frame is its link.  Only where the frame and
the registers show that a signal arrived in the trampoline is it looked for
above the interrupted stack pointer, and then the probe decides between what is
saved there and the link.  The candidate is accepted as it is or not at all.

The conditions are put in terms of words in memory and of numbers, apart from
the order in which a transition comes to them.
-/

namespace FrameChain

/-- The same bytes of a word are mapped in two memories, with the same
content. -/
def Memory.SameWord (memory other : Memory) (address : Word) : Prop :=
  ∀ index < Word.size,
    memory.byte? (address.offset index) = other.byte? (address.offset index)

instance (memory other : Memory) (address : Word) :
    Decidable (memory.SameWord other address) :=
  inferInstanceAs (Decidable (∀ index < Word.size, _))

namespace Validator

/-- Where the frame pointer that the trampoline saved is looked for. -/
def savedSlot (validator : Validator) (registers : Registers) : Word :=
  registers.stackPointer + (validator.analysis.pushes - 1) * 8

/-- All that has to hold before a frame pointer is looked for above the
interrupted stack pointer. -/
structure AtTrampoline (validator : Validator) (memory : Memory)
    (options : WalkOptions) (current : Word) (registers : Registers) :
    Prop where
  consulted : options.withContext = true
  context : validator.context = some registers
  pushes : validator.analysis.pushes ≠ 0
  signalReturn : validator.analysis.signalReturn ≠ 0
  returns : memory.readWord (FrameRecord.returnSlot current) =
    .ok validator.analysis.signalReturn
  linked : memory.readWord current = .ok registers.basePointer
  entry : validator.analysis.entry ≠ 0
  fromEntry :
    validator.analysis.entry.toNat ≤ registers.instructionPointer.toNat
  inWindow : registers.instructionPointer.toNat <
    validator.analysis.entry.toNat + scanWindow
  stack : registers.stackPointer ≠ 0
  aligned : registers.stackPointer.Aligned

/-- The word that is found where the trampoline saves a frame pointer, if all
the conditions for looking there hold. -/
def Saves (validator : Validator) (memory : Memory) (options : WalkOptions)
    (current frame : Word) : Prop :=
  ∃ registers, validator.AtTrampoline memory options current registers ∧
    memory.readWord (validator.savedSlot registers) = .ok frame

/-- The candidate for the caller of a frame. -/
inductive Proposes (validator : Validator) (memory : Memory)
    (options : WalkOptions) (current : Word) : Candidate → Prop where
  | saved {frame : Word} :
      validator.Saves memory options current frame →
      validator.probe frame = true →
      Proposes validator memory options current ⟨frame, [frame]⟩
  | refused {frame link : Word} :
      validator.Saves memory options current frame →
      validator.probe frame = false →
      memory.readWord current = .ok link →
      Proposes validator memory options current ⟨link, [frame]⟩
  | link {link : Word} :
      (∀ registers,
        ¬ validator.AtTrampoline memory options current registers) →
      memory.readWord current = .ok link →
      Proposes validator memory options current ⟨link, []⟩

/-- What a caller has to be, strictly or laxly. -/
structure Accepts (validator : Validator) (options : WalkOptions)
    (current next : Word) : Prop where
  nonzero : next ≠ 0
  different : next ≠ current
  aligned : next.Aligned
  placed :
    options.strict = true ∧
        (current.toNat < next.toNat ∧
            next.toNat ≤ current.toNat + maxFrameBytes ∨
          options.withContext = true ∧ ∃ registers,
            validator.context = some registers ∧
              next = registers.frameHint) ∨
      options.strict = false ∧ validator.probe next = true

end Validator

namespace Memory.SameWord

variable {memory other : Memory} {address : Word}

theorem readBytes {count : Nat}
    (same : ∀ index < count, memory.byte? (address.offset index) =
      other.byte? (address.offset index)) :
    memory.readBytes address count = other.readBytes address count := by
  induction count generalizing address with
  | zero => rfl
  | succ count ih =>
      have first : memory.byte? address = other.byte? address := by
        simpa using same 0 (Nat.succ_pos count)
      have rest : memory.readBytes (address + 1) count =
          other.readBytes (address + 1) count := by
        apply ih
        intro index below
        rw [Word.offset_succ]
        exact same (index + 1) (Nat.succ_lt_succ below)
      simp only [Memory.readBytes, first, rest]

theorem readWord (same : memory.SameWord other address) :
    memory.readWord address = other.readWord address := by
  simp only [Memory.readWord, readNat, readBytes same]

end Memory.SameWord

namespace Validator

variable {validator : Validator} {memory other : Memory}
  {options : WalkOptions} {current link : Word} {registers : Registers}

theorem consulted_eq_some_iff :
    validator.consulted options = some registers ↔
      options.withContext = true ∧ validator.context = some registers := by
  unfold consulted
  cases options.withContext <;> simp

theorem anchored_iff {next : Word} :
    validator.Anchored options next ↔
      options.withContext = true ∧ ∃ registers,
        validator.context = some registers ∧ next = registers.frameHint := by
  unfold Anchored
  constructor
  · intro ⟨present, hinted⟩
    obtain ⟨registers, consulted⟩ := Option.isSome_iff_exists.mp present
    obtain ⟨on, context⟩ := consulted_eq_some_iff.mp consulted
    rw [contextFrame, context] at hinted
    exact ⟨on, registers, context, hinted⟩
  · intro ⟨on, registers, context, hinted⟩
    rw [consulted_eq_some_iff.mpr ⟨on, context⟩, contextFrame, context]
    exact ⟨rfl, hinted⟩

theorem Saves.unique {frame another : Word}
    (saves : validator.Saves memory options current frame)
    (also : validator.Saves memory options current another) :
    frame = another := by
  obtain ⟨registers, here, slotRead⟩ := saves
  obtain ⟨one, again, readAgain⟩ := also
  cases here.context.symm.trans again.context
  exact Except.ok.inj (slotRead.symm.trans readAgain)

theorem Saves.not_elsewhere {frame : Word}
    (saves : validator.Saves memory options current frame) :
    ¬ ∀ registers,
      ¬ validator.AtTrampoline memory options current registers := by
  obtain ⟨registers, here, _⟩ := saves
  exact fun elsewhere => elsewhere registers here

theorem Proposes.unique {first second : Candidate}
    (proposes : validator.Proposes memory options current first)
    (also : validator.Proposes memory options current second) :
    first = second := by
  cases proposes with
  | saved saves accepted =>
      cases also with
      | saved again =>
          cases saves.unique again
          rfl
      | refused again refused =>
          cases saves.unique again
          cases accepted.symm.trans refused
      | link elsewhere => exact absurd elsewhere saves.not_elsewhere
  | refused saves refused linkRead =>
      cases also with
      | saved again accepted =>
          cases saves.unique again
          cases accepted.symm.trans refused
      | refused again _ readAgain =>
          cases saves.unique again
          cases linkRead.symm.trans readAgain
          rfl
      | link elsewhere => exact absurd elsewhere saves.not_elsewhere
  | link elsewhere linkRead =>
      cases also with
      | saved again => exact absurd elsewhere again.not_elsewhere
      | refused again => exact absurd elsewhere again.not_elsewhere
      | link _ readAgain =>
          cases linkRead.symm.trans readAgain
          rfl

theorem needsSaved_eq_ok {saved : Bool}
    (consulted : validator.consulted options = some registers)
    (linkRead : memory.readWord current = .ok link)
    (answered : validator.needsSaved memory current link registers =
      .ok saved) :
    saved = true ↔
      validator.AtTrampoline memory options current registers := by
  obtain ⟨on, context⟩ := consulted_eq_some_iff.mp consulted
  unfold needsSaved at answered
  split at answered
  next needed =>
    obtain ⟨returnAddress, returnRead, whole⟩ := bind_eq_ok_iff.mp answered
    cases whole
    rw [decide_eq_true_iff, Interrupted, Trampoline.Analysis.covers_iff]
    constructor
    · rintro ⟨rfl, rfl, ⟨entry, fromEntry, inWindow⟩, stack, aligned⟩
      exact ⟨on, context, needed.1, needed.2, returnRead, linkRead, entry,
        fromEntry, inWindow, stack, aligned⟩
    · intro here
      cases returnRead.symm.trans here.returns
      cases linkRead.symm.trans here.linked
      exact ⟨rfl, rfl, ⟨here.entry, here.fromEntry, here.inWindow⟩, here.stack,
        here.aligned⟩
  next unneeded =>
    cases answered
    constructor
    · intro absurdly
      cases absurdly
    · intro here
      exact absurd ⟨here.pushes, here.signalReturn⟩ unneeded

theorem proposes_of_candidate {found : Candidate}
    (linkRead : memory.readWord current = .ok link)
    (judged : validator.candidate memory options current link = .ok found) :
    validator.Proposes memory options current found := by
  unfold candidate at judged
  split at judged
  next absent =>
    cases judged
    apply Proposes.link _ linkRead
    intro registers here
    cases absent.symm.trans
      (consulted_eq_some_iff.mpr ⟨here.consulted, here.context⟩)
  next registers consulted =>
    obtain ⟨saved, answered, rest⟩ := bind_eq_ok_iff.mp judged
    have here := needsSaved_eq_ok consulted linkRead answered
    cases saved with
    | false =>
        cases rest
        apply Proposes.link _ linkRead
        intro one also
        cases (consulted_eq_some_iff.mp consulted).2.symm.trans also.context
        cases here.mpr also
    | true =>
        obtain ⟨frame, slotRead, whole⟩ := bind_eq_ok_iff.mp rest
        have saves : validator.Saves memory options current frame :=
          ⟨registers, here.mp rfl, slotRead⟩
        cases whole
        cases asked : validator.probe frame with
        | true => exact .saved saves asked
        | false => exact .refused saves asked linkRead

theorem judge_next_iff {candidate next : Word} :
    (validator.judge options current candidate).next = some next ↔
      next = candidate ∧ validator.Accepts options current next := by
  rw [judge_next_eq_some_iff]
  refine and_congr_right fun _ => ?_
  constructor
  · intro ⟨nonzero, different, aligned, placed, asked⟩
    refine ⟨nonzero, different, aligned, ?_⟩
    cases strict : options.strict with
    | true =>
        apply Or.inl
        refine ⟨rfl, ?_⟩
        rcases placed strict with anchored | near
        · exact .inr (anchored_iff.mp anchored)
        · exact .inl ((near_iff different).mp near)
    | false => exact .inr ⟨rfl, asked strict⟩
  · intro ⟨nonzero, different, aligned, placed⟩
    refine ⟨nonzero, different, aligned, ?_, ?_⟩
    · intro strict
      rcases placed with ⟨_, near | anchored⟩ | ⟨lax, _⟩
      · exact .inr ((near_iff different).mpr near)
      · exact .inl (anchored_iff.mpr anchored)
      · cases strict.symm.trans lax
    · intro lax
      rcases placed with ⟨strict, _⟩ | ⟨_, asked⟩
      · cases strict.symm.trans lax
      · exact asked

theorem judge_probed_of_strict (strict : options.strict = true)
    (current candidate : Word) :
    (validator.judge options current candidate).probed = [] := by
  unfold judge
  split
  · rfl
  · split
    · rfl
    · split
      · rfl
      · rfl

theorem nextFrame_eq_ok {transition : Transition}
    (judged : validator.nextFrame memory current options = .ok transition) :
    ∃ candidate, validator.Proposes memory options current candidate ∧
      transition =
        { validator.judge options current candidate.frame with
          probed := candidate.probed ++
            (validator.judge options current candidate.frame).probed } := by
  obtain ⟨link, linkRead, rest⟩ := bind_eq_ok_iff.mp judged
  obtain ⟨found, chosen, whole⟩ := bind_eq_ok_iff.mp rest
  exact ⟨found, proposes_of_candidate linkRead chosen,
    (Except.ok.inj whole).symm⟩

/-- A transition reads the record of its frame, and beyond that only what the
trampoline saved, where all the conditions for that hold. -/
theorem nextFrame_congr (linkSame : memory.SameWord other current)
    (returnSame : memory.SameWord other (FrameRecord.returnSlot current))
    (slotSame : ∀ registers,
      validator.AtTrampoline memory options current registers →
        memory.SameWord other (validator.savedSlot registers)) :
    validator.nextFrame other current options =
      validator.nextFrame memory current options := by
  unfold nextFrame
  rw [← linkSame.readWord]
  cases linkRead : memory.readWord current with
  | error cause => rfl
  | ok link =>
      have candidates : validator.candidate other options current link =
          validator.candidate memory options current link := by
        unfold candidate
        split
        next => rfl
        next registers consulted =>
          have answers : validator.needsSaved other current link registers =
              validator.needsSaved memory current link registers := by
            unfold needsSaved
            rw [returnSame.readWord]
          unfold corrected
          rw [answers]
          cases answered :
              validator.needsSaved memory current link registers with
          | error cause => rfl
          | ok saved =>
              cases saved with
              | false => rfl
              | true =>
                  have here :=
                    (needsSaved_eq_ok consulted linkRead answered).mp rfl
                  have slot : other.readWord (validator.savedSlot registers) =
                      memory.readWord (validator.savedSlot registers) :=
                    (slotSame registers here).readWord.symm
                  simp only [bind, Except.bind, ↓reduceIte, Memory.wordAt]
                  simp only [savedSlot] at slot
                  rw [slot]
      simp only [bind, Except.bind, candidates]

/-- A transition that can be read has one candidate, and accepts exactly that
where it is what a caller has to be.  The word above the stack pointer makes a
difference only where all the conditions hold; where one fails, a strict
transition asks the probe nothing. -/
theorem nextFrame_exact (validator : Validator) (memory : Memory)
    (options : WalkOptions) (current : Word) :
    (∀ transition,
      validator.nextFrame memory current options = .ok transition →
      ∃ candidate : Candidate,
        (∀ proposed, validator.Proposes memory options current proposed ↔
          proposed = candidate) ∧
        ∀ next, transition.next = some next ↔
          next = candidate.frame ∧ validator.Accepts options current next) ∧
    ((∀ registers,
        ¬ validator.AtTrampoline memory options current registers) →
      (∀ other : Memory, memory.SameWord other current →
        memory.SameWord other (FrameRecord.returnSlot current) →
        validator.nextFrame other current options =
          validator.nextFrame memory current options) ∧
      (options.strict = true → ∀ transition,
        validator.nextFrame memory current options = .ok transition →
        transition.probed = [])) := by
  constructor
  · intro transition judged
    obtain ⟨candidate, proposes, rfl⟩ := nextFrame_eq_ok judged
    refine ⟨candidate, ?_, fun next => judge_next_iff⟩
    intro proposed
    constructor
    · exact fun also => also.unique proposes
    · rintro rfl
      exact proposes
  · intro elsewhere
    constructor
    · intro other linkSame returnSame
      apply nextFrame_congr linkSame returnSame
      intro registers here
      exact absurd here (elsewhere registers)
    · intro strict transition judged
      obtain ⟨candidate, proposes, rfl⟩ := nextFrame_eq_ok judged
      cases proposes with
      | saved saves => exact absurd elsewhere saves.not_elsewhere
      | refused saves => exact absurd elsewhere saves.not_elsewhere
      | link => simp [judge_probed_of_strict strict]

end Validator

/-- A handler's frame that returns into the signal trampoline, and the stack
that the signal interrupted, with a word two words up. -/
def Memory.interruptedEntry (saved : Word) : Memory :=
  .page 0x1000 [(0x1100, 0x1500), (0x1108, 0x7000), (0x1210, saved)]

namespace Validator

/-- The saved frame pointer is accepted while the instruction pointer is in the
trampoline.  Past that the link is, whatever is saved. -/
theorem nextFrame_exact_interrupted_entry :
    let memory := Memory.interruptedEntry 0x1300
    let validator (instructionPointer : Word) : Validator :=
      ⟨some ⟨0x1500, 0x1200, instructionPointer⟩, ⟨0x8000, 0x7000, 3⟩,
        .ofMemory memory⟩
    let inside := validator 0x8004
    let past := validator 0x800A
    (inside.nextFrame memory 0x1100 .strictWalk =
        .ok ⟨some 0x1300, [0x1300]⟩ ∧
      ∃ candidate : Candidate, candidate.frame = 0x1300 ∧
        (∀ proposed, inside.Proposes memory .strictWalk 0x1100 proposed ↔
          proposed = candidate) ∧
        inside.Accepts .strictWalk 0x1100 0x1300) ∧
    (∀ registers,
        ¬ past.AtTrampoline memory .strictWalk 0x1100 registers) ∧
      past.nextFrame memory 0x1100 .strictWalk = .ok ⟨some 0x1500, []⟩ ∧
      past.nextFrame (.interruptedEntry 7) 0x1100 .strictWalk =
        .ok ⟨some 0x1500, []⟩ := by
  intro memory validator inside past
  have judged : inside.nextFrame memory 0x1100 .strictWalk =
      .ok ⟨some 0x1300, [0x1300]⟩ := by
    decide +kernel
  obtain ⟨candidate, only, accepted⟩ :=
    (nextFrame_exact inside memory .strictWalk 0x1100).1 _ judged
  obtain ⟨same, accepts⟩ := (accepted 0x1300).mp rfl
  have elsewhere : ∀ registers,
      ¬ past.AtTrampoline memory .strictWalk 0x1100 registers := by
    intro registers here
    cases here.context
    exact absurd here.inWindow (by decide)
  have linked : past.nextFrame memory 0x1100 .strictWalk =
      .ok ⟨some 0x1500, []⟩ := by
    decide +kernel
  have other := ((nextFrame_exact past memory .strictWalk 0x1100).2
    elsewhere).1 (.interruptedEntry 7) (by decide +kernel) (by decide +kernel)
  exact ⟨⟨judged, candidate, same.symm, only, accepts⟩, elsewhere, linked,
    other.trans linked⟩

end Validator

end FrameChain
