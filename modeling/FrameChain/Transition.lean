import FrameChain.Frame
import FrameChain.Probe
import FrameChain.Registers
import FrameChain.Trampoline.Analysis
/-!
# Transitions between frames

A transition goes from a frame to its caller, or ends the walk there.  The
candidate is the frame's link, unless a signal interrupted the trampoline and
the caller's frame pointer has to be taken from where the trampoline saved
it.  A strict transition asks for a caller a plausible distance above, with
one exemption: the frame that the signal context points at may lie anywhere.
A lax transition asks the probe instead.  Every question to the probe is part
of the result.
-/

namespace FrameChain

structure WalkOptions where
  strict : Bool
  withContext : Bool
deriving DecidableEq, Repr

namespace WalkOptions

def strictWalk : WalkOptions := ⟨true, true⟩

def laxWalk : WalkOptions := ⟨false, true⟩

def relaxed (options : WalkOptions) : WalkOptions :=
  { options with strict := false }

end WalkOptions

structure Validator where
  context : Option Registers
  analysis : Trampoline.Analysis
  probe : Probe

/-- A caller's frame, if the transition is accepted, and the addresses that
the probe was asked about, in order. -/
structure Transition where
  next : Option Word
  probed : List Word
deriving DecidableEq, Repr

/-- A frame to be judged, and what the probe was asked to find it. -/
structure Candidate where
  frame : Word
  probed : List Word
deriving DecidableEq, Repr

namespace Validator

/-- A validator of a build: without the capability the context is ignored. -/
def create (build : Build) (context : Option Registers)
    (analysis : Trampoline.Analysis) (probe : Probe) : Validator :=
  { context := if build.signalContext then context else none
    analysis
    probe }

def contextFrame (validator : Validator) : Word :=
  frameHint validator.context

def consulted (validator : Validator) (options : WalkOptions) :
    Option Registers :=
  if options.withContext then validator.context else none

/-- The registers and the frame show that the signal arrived in the
trampoline, before it kept a frame, and that its stack can be read. -/
def Interrupted (analysis : Trampoline.Analysis) (registers : Registers)
    (link returnAddress : Word) : Prop :=
  returnAddress = analysis.signalReturn ∧
    link = registers.basePointer ∧
    analysis.Covers registers.instructionPointer ∧
    registers.stackPointer ≠ 0 ∧
    registers.stackPointer.Aligned

instance (analysis : Trampoline.Analysis) (registers : Registers)
    (link returnAddress : Word) :
    Decidable (Interrupted analysis registers link returnAddress) :=
  inferInstanceAs (Decidable (_ ∧ _ ∧ _ ∧ _ ∧ _))

/-- Whether the caller's frame pointer is where the trampoline saved it.  The
return address is read only when a correction is possible at all. -/
def needsSaved (validator : Validator) (memory : Memory)
    (current link : Word) (registers : Registers) : Except Abort Bool :=
  if validator.analysis.NeedsCorrection then do
    let returnAddress ← memory.readWord (FrameRecord.returnSlot current)
    pure (decide
      (Interrupted validator.analysis registers link returnAddress))
  else
    .ok false

/-- The candidate when a context is consulted.  A saved frame pointer replaces
the link when the probe accepts it. -/
def corrected (validator : Validator) (memory : Memory)
    (current link : Word) (registers : Registers) :
    Except Abort Candidate := do
  let saved ← validator.needsSaved memory current link registers
  if saved then do
    let frame ← memory.wordAt registers.stackPointer
      (validator.analysis.pushes - 1)
    pure ⟨if validator.probe frame then frame else link, [frame]⟩
  else
    pure ⟨link, []⟩

def candidate (validator : Validator) (memory : Memory)
    (options : WalkOptions) (current link : Word) : Except Abort Candidate :=
  match validator.consulted options with
  | none => .ok ⟨link, []⟩
  | some registers => validator.corrected memory current link registers

/-- The candidate lies above the current frame, and not too far. -/
def Near (current candidate : Word) : Prop :=
  current ≤ candidate ∧ (candidate - current).toNat ≤ maxFrameBytes

instance (current candidate : Word) : Decidable (Near current candidate) :=
  inferInstanceAs (Decidable (_ ∧ _))

theorem near_iff {current candidate : Word} (different : candidate ≠ current) :
    Near current candidate ↔
      current.toNat < candidate.toNat ∧
        candidate.toNat ≤ current.toNat + maxFrameBytes := by
  have apart : candidate.toNat ≠ current.toNat :=
    fun same => different (UInt64.toNat_inj.mp same)
  unfold Near
  rw [UInt64.le_iff_toNat_le]
  constructor
  · intro ⟨above, distance⟩
    rw [UInt64.toNat_sub_of_le _ _ (UInt64.le_iff_toNat_le.mpr above)] at distance
    omega
  · intro ⟨above, distance⟩
    rw [UInt64.toNat_sub_of_le _ _
      (UInt64.le_iff_toNat_le.mpr (Nat.le_of_lt above))]
    omega

/-- The candidate is the frame that a consulted context points at. -/
def Anchored (validator : Validator) (options : WalkOptions)
    (candidate : Word) : Prop :=
  (validator.consulted options).isSome ∧ candidate = validator.contextFrame

instance (validator : Validator) (options : WalkOptions) (candidate : Word) :
    Decidable (validator.Anchored options candidate) :=
  inferInstanceAs (Decidable (_ ∧ _))

/-- Judge a candidate.  Null and self-reference end every chain; distance
matters to a strict transition that is not anchored; only a lax transition
asks the probe, last of all. -/
def judge (validator : Validator) (options : WalkOptions)
    (current candidate : Word) : Transition :=
  if candidate = 0 ∨ candidate = current then
    ⟨none, []⟩
  else if options.strict ∧ ¬ validator.Anchored options candidate ∧
      ¬ Near current candidate then
    ⟨none, []⟩
  else if ¬ candidate.Aligned then
    ⟨none, []⟩
  else if options.strict then
    ⟨some candidate, []⟩
  else
    ⟨if validator.probe candidate then some candidate else none, [candidate]⟩

def nextFrame (validator : Validator) (memory : Memory) (current : Word)
    (options : WalkOptions) : Except Abort Transition := do
  let link ← memory.readWord current
  let found ← validator.candidate memory options current link
  let transition := validator.judge options current found.frame
  pure { transition with probed := found.probed ++ transition.probed }

theorem judge_next_eq_some_iff {validator : Validator} {options : WalkOptions}
    {current candidate next : Word} :
    (validator.judge options current candidate).next = some next ↔
      next = candidate ∧ next ≠ 0 ∧ next ≠ current ∧ next.Aligned ∧
        (options.strict = true →
          validator.Anchored options next ∨ Near current next) ∧
        (options.strict = false → validator.probe next = true) := by
  unfold judge
  split
  next ending =>
    simp only [reduceCtorEq, false_iff]
    rintro ⟨rfl, nonzero, different, _⟩
    exact ending.elim nonzero different
  next going =>
    obtain ⟨nonzero, different⟩ := not_or.mp going
    split
    next far =>
      simp only [reduceCtorEq, false_iff]
      rintro ⟨rfl, _, _, _, placed, _⟩
      exact (placed far.1).elim far.2.1 far.2.2
    next placed =>
      split
      next misaligned =>
        simp only [reduceCtorEq, false_iff]
        rintro ⟨rfl, _, _, aligned, _⟩
        exact misaligned aligned
      next aligned =>
        have word : candidate.Aligned := Decidable.not_not.mp aligned
        split
        next strict =>
          simp only [Option.some.injEq]
          constructor
          · rintro rfl
            refine ⟨rfl, nonzero, different, word, ?_, by simp [strict]⟩
            intro _
            apply Decidable.or_iff_not_imp_left.mpr
            intro loose
            apply Decidable.byContradiction
            intro far
            exact placed ⟨strict, loose, far⟩
          · rintro ⟨rfl, _⟩
            rfl
        next lax =>
          cases probed : validator.probe candidate with
          | false =>
              simp only [Bool.false_eq_true, ↓reduceIte, reduceCtorEq,
                false_iff]
              rintro ⟨rfl, _, _, _, _, accepted⟩
              rw [accepted (Bool.not_eq_true _ ▸ lax)] at probed
              cases probed
          | true =>
              simp only [↓reduceIte, Option.some.injEq]
              constructor
              · rintro rfl
                exact ⟨rfl, nonzero, different, word,
                  fun strict => absurd strict lax, fun _ => probed⟩
              · rintro ⟨rfl, _⟩
                rfl

theorem candidate_of_uncorrected {validator : Validator} {memory : Memory}
    {options : WalkOptions} {current link : Word}
    (uncorrected : ¬ validator.analysis.NeedsCorrection) :
    validator.candidate memory options current link = .ok ⟨link, []⟩ := by
  unfold candidate
  split
  · rfl
  · simp [corrected, needsSaved, uncorrected, bind, Except.bind, pure,
      Except.pure]

/-- Without a correction a transition reads the link and nothing else. -/
theorem nextFrame_of_uncorrected {validator : Validator} {memory : Memory}
    {options : WalkOptions} {current : Word}
    (uncorrected : ¬ validator.analysis.NeedsCorrection) :
    validator.nextFrame memory current options =
      (memory.readWord current).map (validator.judge options current) := by
  unfold nextFrame
  cases memory.readWord current with
  | error cause => rfl
  | ok link =>
      simp [candidate_of_uncorrected uncorrected, bind, Except.bind, pure,
        Except.pure, Except.map]

end Validator

end FrameChain
