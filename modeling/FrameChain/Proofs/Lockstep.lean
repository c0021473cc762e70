import FrameChain.Build
import FrameChain.Memory

/-!
# Two runs in step

The same computation is run over two memories, one of which holds the bytes of
the other a fixed distance further up.  Reads at places that distance apart
agree, also where they fail.  Checked sums need not: one of the two places may
leave the word range where the other does not.  Two runs are therefore in step
when they end alike or when one of them stops at such a sum, and being in step
is what a sequence of reads and sums preserves.
-/

namespace FrameChain

/-- The same cause stops two runs, or both return and their results are
related. -/
inductive Alike (related : α → β → Prop) : Except ε α → Except ε β → Prop where
  | ok {value : α} {other : β} (results : related value other) :
      Alike related (.ok value) (.ok other)
  | error (cause : ε) : Alike related (.error cause) (.error cause)

theorem Alike.map_const {related : α → β → Prop} {first : Except ε α}
    {second : Except ε β} (alike : Alike related first second) (value : γ) :
    first.map (fun _ => value) = second.map (fun _ => value) := by
  cases alike with
  | ok => rfl
  | error => rfl

theorem Alike.bind_eq {related : α → β → Prop} {first : Except ε α}
    {second : Except ε β} {next : α → Except ε γ} {other : β → Except ε γ}
    (alike : Alike related first second)
    (continued : ∀ value further, related value further →
      next value = other further) :
    first.bind next = second.bind other := by
  cases alike with
  | ok results => exact continued _ _ results
  | error => rfl

/-- Two runs end alike, unless a checked sum stops one of them. -/
inductive InStep (related : α → β → Prop) :
    Except Abort α → Except Abort β → Prop where
  | overflows (second : Except Abort β) :
      InStep related (.error .additionOverflow) second
  | otherOverflows (first : Except Abort α) :
      InStep related first (.error .additionOverflow)
  | alike {first : Except Abort α} {second : Except Abort β}
      (ended : Alike related first second) : InStep related first second

namespace InStep

variable {related : α → β → Prop} {following : γ → δ → Prop}
  {first : Except Abort α} {second : Except Abort β}

theorem value {result : α} {other : β} (results : related result other) :
    InStep related (pure result) (pure other) :=
  .alike (.ok results)

theorem refl (run : Except Abort α) : InStep Eq run run := by
  cases run with
  | ok result => exact value rfl
  | error cause => exact .alike (.error cause)

theorem of_eq {run other : Except Abort α} (same : run = other) :
    InStep Eq run other :=
  same ▸ refl run

theorem bind {next : α → Except Abort γ} {otherNext : β → Except Abort δ}
    (begun : InStep related first second)
    (continued : ∀ result other, related result other →
      InStep following (next result) (otherNext other)) :
    InStep following (first >>= next) (second >>= otherNext) := by
  cases begun with
  | overflows => exact .overflows _
  | otherOverflows => exact .otherOverflows _
  | alike ended =>
      cases ended with
      | ok results => exact continued _ _ results
      | error cause => exact .alike (.error cause)

theorem bind_eq {first second : Except Abort α}
    {next : α → Except Abort γ} {otherNext : α → Except Abort δ}
    (begun : InStep Eq first second)
    (continued : ∀ result, InStep following (next result) (otherNext result)) :
    InStep following (first >>= next) (second >>= otherNext) := by
  apply begun.bind
  rintro result _ rfl
  exact continued result

theorem ite {test otherTest : Prop} [Decidable test] [Decidable otherTest]
    {first fallback : Except Abort α} {second otherFallback : Except Abort β}
    (tests : test ↔ otherTest)
    (holds : test → InStep related first second)
    (fails : ¬ test → InStep related fallback otherFallback) :
    InStep related (if test then first else fallback)
      (if otherTest then second else otherFallback) := by
  by_cases passed : test
  · rw [if_pos passed, if_pos (tests.mp passed)]
    exact holds passed
  · rw [if_neg passed, if_neg (passed ∘ tests.mpr)]
    exact fails passed

theorem returned (inStep : InStep related first second) :
    InStep (fun result other => related result other ∧
      first = .ok result ∧ second = .ok other) first second := by
  cases inStep with
  | overflows => exact .overflows _
  | otherOverflows => exact .otherOverflows _
  | alike ended =>
      cases ended with
      | ok results => exact .alike (.ok ⟨results, rfl, rfl⟩)
      | error cause => exact .alike (.error cause)

theorem ends_alike (inStep : InStep related first second)
    (fits : first ≠ .error .additionOverflow)
    (otherFits : second ≠ .error .additionOverflow) :
    Alike related first second := by
  cases inStep with
  | overflows => exact absurd rfl fits
  | otherOverflows => exact absurd rfl otherFits
  | alike ended => exact ended

end InStep

/-- One address lies a distance above another. -/
def Word.Above (distance address other : Word) : Prop :=
  other = address + distance

theorem Word.add_right_comm (address distance step : Word) :
    address + distance + step = address + step + distance := by
  rw [UInt64.add_assoc, UInt64.add_comm distance, ← UInt64.add_assoc]

theorem Word.Above.offset {distance address other : Word}
    (above : Word.Above distance address other) (count : Nat) :
    Word.Above distance (address.offset count) (other.offset count) := by
  rw [Word.Above, above]
  exact Word.add_right_comm address distance (UInt64.ofNat count)

theorem Build.add_eq_error {build : Build} {left right : Word} {cause : Abort}
    (failed : build.add left right = .error cause) :
    cause = .additionOverflow := by
  unfold Build.add at failed
  split at failed
  · exact (Except.error.inj failed).symm
  · cases failed

/-- Places a distance apart stay so when the same is added to both. -/
theorem Build.add_inStep (build : Build) (right : Word)
    {left otherLeft distance : Word}
    (above : Word.Above distance left otherLeft) :
    InStep (Word.Above distance) (build.add left right)
      (build.add otherLeft right) := by
  cases sum : build.add left right with
  | error cause =>
      rw [Build.add_eq_error sum]
      exact .overflows _
  | ok place =>
      cases otherSum : build.add otherLeft right with
      | error cause =>
          rw [Build.add_eq_error otherSum]
          exact .otherOverflows _
      | ok otherPlace =>
          rw [Build.add_eq_ok sum, Build.add_eq_ok otherSum, above]
          exact .value (Word.add_right_comm left distance right)

namespace Memory

/-- One memory holds at each address what the other holds a distance below. -/
def Moved (distance : Word) (memory moved : Memory) : Prop :=
  ∀ address, moved.byte? (address + distance) = memory.byte? address

/-- The memory whose bytes lie a distance further up. -/
def move (memory : Memory) (distance : Word) : Memory :=
  ⟨fun address => memory.byte? (address - distance)⟩

theorem moved_move (memory : Memory) (distance : Word) :
    Moved distance memory (memory.move distance) := by
  intro address
  simp only [move, UInt64.add_sub_cancel]

variable {distance : Word} {memory moved : Memory}

theorem Moved.readBytes (copied : Moved distance memory moved)
    (address : Word) (count : Nat) :
    moved.readBytes (address + distance) count =
      memory.readBytes address count := by
  induction count generalizing address with
  | zero => rfl
  | succ count ih =>
      have above := ih (address + 1)
      rw [Word.add_right_comm] at above
      simp only [Memory.readBytes, copied address, above]

theorem Moved.readNat (copied : Moved distance memory moved) (address : Word)
    (count : Nat) :
    moved.readNat (address + distance) count = memory.readNat address count :=
  congrArg (Except.map littleEndian) (copied.readBytes address count)

theorem Moved.readByte (copied : Moved distance memory moved)
    (address : Word) :
    moved.readByte (address + distance) = memory.readByte address := by
  simp only [Memory.readByte, copied address]

theorem Moved.record_inStep (copied : Moved distance memory moved)
    {address other : Word} (above : Word.Above distance address other)
    (count : Nat) :
    InStep Eq (memory.readBytes address count)
      (moved.readBytes other count) := by
  rw [above]
  exact .of_eq (copied.readBytes address count).symm

theorem Moved.number_inStep (copied : Moved distance memory moved)
    {address other : Word} (above : Word.Above distance address other)
    (count : Nat) :
    InStep Eq (memory.readNat address count) (moved.readNat other count) := by
  rw [above]
  exact .of_eq (copied.readNat address count).symm

end Memory

end FrameChain
