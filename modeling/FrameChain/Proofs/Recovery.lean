import FrameChain.Proofs.Acceptance

/-!
# Callers recovered from the trampoline

Where a signal arrived in the trampoline, the caller's frame pointer is taken
from the interrupted stack.  A lax transition goes there wherever the handler
runs.  A strict one still measures the distance from the handler's frame,
because the exemption for the interrupted frame is granted to the frame that
the context points at, and that is the very base pointer which the saved frame
pointer replaces.  So the caller is reached from a handler that runs near below
it, and lost to a handler on a stack of its own.
-/

namespace FrameChain

namespace Validator

/-- All that a saved frame pointer needs to be taken for the caller, apart from
where it lies. -/
structure Recovers (validator : Validator) (memory : Memory)
    (options : WalkOptions) (current : Word) (registers : Registers)
    (frame : Word) : Prop where
  here : validator.AtTrampoline memory options current registers
  saved : memory.readWord (validator.savedSlot registers) = .ok frame
  nonzero : frame ≠ 0
  aligned : frame.Aligned
  different : frame ≠ current
  accepted : validator.probe frame = true

/-- A frame lies near above another one, or where the registers point. -/
def InReach (registers : Registers) (current frame : Word) : Prop :=
  current.toNat < frame.toNat ∧
      frame.toNat ≤ current.toNat + maxFrameBytes ∨
    frame = registers.frameHint

instance (registers : Registers) (current frame : Word) :
    Decidable (InReach registers current frame) :=
  inferInstanceAs (Decidable (_ ∨ _))

variable {validator : Validator} {memory : Memory} {options : WalkOptions}
  {current frame : Word} {registers : Registers}

theorem AtTrampoline.interrupted
    (here : validator.AtTrampoline memory options current registers) :
    Interrupted validator.analysis registers registers.basePointer
      validator.analysis.signalReturn :=
  ⟨rfl, rfl, Trampoline.Analysis.covers_iff.mpr
    ⟨here.entry, here.fromEntry, here.inWindow⟩, here.stack, here.aligned⟩

theorem Recovers.candidate
    (recovers :
      validator.Recovers memory options current registers frame) :
    validator.candidate memory options current registers.basePointer =
      .ok ⟨frame, [frame]⟩ := by
  have here := recovers.here
  have consulted : validator.consulted options = some registers :=
    consulted_eq_some_iff.mpr ⟨here.consulted, here.context⟩
  have needed : validator.analysis.NeedsCorrection :=
    ⟨here.pushes, here.signalReturn⟩
  have saves : validator.needsSaved memory current registers.basePointer
      registers = .ok true := by
    rw [needsSaved, if_pos needed, here.returns]
    exact congrArg Except.ok (decide_eq_true here.interrupted)
  have slot : memory.wordAt registers.stackPointer
      (validator.analysis.pushes - 1) = .ok frame :=
    recovers.saved
  unfold Validator.candidate
  rw [consulted]
  dsimp only
  rw [corrected, saves]
  simp only [bind, Except.bind, if_true, slot, recovers.accepted]
  rfl

theorem Recovers.nextFrame
    (recovers :
      validator.Recovers memory options current registers frame) :
    validator.nextFrame memory current options =
      .ok { validator.judge options current frame with
        probed := frame :: (validator.judge options current frame).probed } := by
  rw [Validator.nextFrame, recovers.here.linked]
  change Except.bind (validator.candidate memory options current
    registers.basePointer) _ = _
  rw [recovers.candidate]
  rfl

theorem Recovers.inReach_iff
    (recovers :
      validator.Recovers memory options current registers frame) :
    InReach registers current frame ↔
      Near current frame ∨ validator.Anchored options frame := by
  rw [InReach, near_iff recovers.different, anchored_iff]
  apply or_congr_right
  constructor
  · intro hinted
    exact ⟨recovers.here.consulted, registers, recovers.here.context, hinted⟩
  · rintro ⟨_, found, context, hinted⟩
    cases recovers.here.context.symm.trans context
    exact hinted

theorem Recovers.judge_of_strict
    (recovers :
      validator.Recovers memory options current registers frame)
    (strict : options.strict = true) :
    validator.judge options current frame =
      ⟨if InReach registers current frame then some frame else none, []⟩ := by
  have going : ¬ (frame = 0 ∨ frame = current) :=
    not_or.mpr ⟨recovers.nonzero, recovers.different⟩
  rw [judge, if_neg going]
  by_cases reach : InReach registers current frame
  · have placed : ¬ (options.strict ∧ ¬ validator.Anchored options frame ∧
        ¬ Near current frame) := by
      rintro ⟨_, loose, far⟩
      exact (recovers.inReach_iff.mp reach).elim far loose
    rw [if_neg placed, if_neg (not_not_intro recovers.aligned), if_pos strict,
      if_pos reach]
  · have far := not_or.mp (mt recovers.inReach_iff.mpr reach)
    rw [if_pos ⟨strict, far.2, far.1⟩, if_neg reach]

theorem Recovers.judge_of_lax
    (recovers :
      validator.Recovers memory options current registers frame)
    (lax : options.strict = false) :
    validator.judge options current frame = ⟨some frame, [frame]⟩ := by
  have going : ¬ (frame = 0 ∨ frame = current) :=
    not_or.mpr ⟨recovers.nonzero, recovers.different⟩
  simp [judge, going, lax, recovers.aligned, recovers.accepted]

/-- A strict transition takes the saved frame pointer for the caller exactly
when that is in reach of the handler's frame, and ends the walk otherwise.  A
lax one takes it wherever it lies. -/
theorem nextFrame_recovers
    (recovers :
      validator.Recovers memory options current registers frame) :
    (options.strict = true →
      (InReach registers current frame →
        validator.nextFrame memory current options =
          .ok ⟨some frame, [frame]⟩) ∧
      (¬ InReach registers current frame →
        validator.nextFrame memory current options =
          .ok ⟨none, [frame]⟩)) ∧
    (options.strict = false →
      validator.nextFrame memory current options =
        .ok ⟨some frame, [frame, frame]⟩) := by
  rw [recovers.nextFrame]
  constructor
  · intro strict
    rw [recovers.judge_of_strict strict]
    constructor
    · intro reach
      rw [if_pos reach]
    · intro far
      rw [if_neg far]
  · intro lax
    rw [recovers.judge_of_lax lax]

end Validator

/-- A handler's frame on a stack above the interrupted one, where the
trampoline pushed two registers: the frame pointer of its caller, and below it
another one. -/
def Memory.alternateStack : Memory :=
  .page 0x1000
    [(0x1800, 0x1500), (0x1808, 0x7000), (0x1200, 0x5555), (0x1208, 0x1300)]

/-- The same, but the handler's frame lies on the interrupted stack. -/
def Memory.sharedStack : Memory :=
  .page 0x1000
    [(0x1100, 0x1500), (0x1108, 0x7000), (0x1200, 0x5555), (0x1208, 0x1300)]

namespace Validator

/-- A walk that was interrupted in the trampoline, after two pushes. -/
def interruptedOn (memory : Memory) : Validator :=
  ⟨some ⟨0x1500, 0x1200, 0x8003⟩, ⟨0x8000, 0x7000, 2⟩, .ofMemory memory⟩

theorem interruptedOn_recovers
    (returns : memory.readWord (FrameRecord.returnSlot current) = .ok 0x7000)
    (linked : memory.readWord current = .ok 0x1500)
    (saved : memory.readWord 0x1208 = .ok 0x1300)
    (different : 0x1300 ≠ current)
    (accepted : Probe.ofMemory memory 0x1300 = true) (strict : Bool) :
    (interruptedOn memory).Recovers memory ⟨strict, true⟩ current
      ⟨0x1500, 0x1200, 0x8003⟩ 0x1300 := by
  have slot :
      (interruptedOn memory).savedSlot ⟨0x1500, 0x1200, 0x8003⟩ = 0x1208 := by
    change (0x1200 : Word) + (2 - 1) * 8 = 0x1208
    decide
  exact {
    here :=
      { consulted := rfl
        context := rfl
        pushes := show (2 : Word) ≠ 0 by decide
        signalReturn := show (0x7000 : Word) ≠ 0 by decide
        returns
        linked
        entry := show (0x8000 : Word) ≠ 0 by decide
        fromEntry := show (0x8000 : Word).toNat ≤ (0x8003 : Word).toNat by decide
        inWindow := show
          (0x8003 : Word).toNat < (0x8000 : Word).toNat + scanWindow by decide
        stack := by decide
        aligned := by decide }
    saved := by rw [slot, saved]
    nonzero := by decide
    aligned := by decide
    different
    accepted }

theorem alternateStack_recovers (strict : Bool) :
    (interruptedOn .alternateStack).Recovers .alternateStack ⟨strict, true⟩
      0x1800 ⟨0x1500, 0x1200, 0x8003⟩ 0x1300 :=
  interruptedOn_recovers (by decide +kernel) (by decide +kernel)
    (by decide +kernel) (by decide) (by decide +kernel) strict

theorem sharedStack_recovers (strict : Bool) :
    (interruptedOn .sharedStack).Recovers .sharedStack ⟨strict, true⟩ 0x1100
      ⟨0x1500, 0x1200, 0x8003⟩ 0x1300 :=
  interruptedOn_recovers (by decide +kernel) (by decide +kernel)
    (by decide +kernel) (by decide) (by decide +kernel) strict

/-- The caller lies below the handler's frame on a stack of its own, so a strict
walk ends there and a lax one goes on.  Near above a handler's frame on the same
stack both go on. -/
theorem nextFrame_recovers_across_stacks :
    let registers : Registers := ⟨0x1500, 0x1200, 0x8003⟩
    (let memory := Memory.alternateStack
     let validator := interruptedOn memory
     validator.Recovers memory .strictWalk 0x1800 registers 0x1300 ∧
      validator.Recovers memory .laxWalk 0x1800 registers 0x1300 ∧
      ¬ InReach registers 0x1800 0x1300 ∧
      validator.nextFrame memory 0x1800 .strictWalk = .ok ⟨none, [0x1300]⟩ ∧
      validator.nextFrame memory 0x1800 .laxWalk =
        .ok ⟨some 0x1300, [0x1300, 0x1300]⟩) ∧
    (let memory := Memory.sharedStack
     let validator := interruptedOn memory
     validator.Recovers memory .strictWalk 0x1100 registers 0x1300 ∧
      validator.Recovers memory .laxWalk 0x1100 registers 0x1300 ∧
      InReach registers 0x1100 0x1300 ∧
      validator.nextFrame memory 0x1100 .strictWalk =
        .ok ⟨some 0x1300, [0x1300]⟩ ∧
      validator.nextFrame memory 0x1100 .laxWalk =
        .ok ⟨some 0x1300, [0x1300, 0x1300]⟩) := by
  intro registers
  constructor
  · have strictly := alternateStack_recovers true
    have laxly := alternateStack_recovers false
    have far : ¬ InReach registers 0x1800 0x1300 := by decide
    exact ⟨strictly, laxly, far, ((nextFrame_recovers strictly).1 rfl).2 far,
      (nextFrame_recovers laxly).2 rfl⟩
  · have strictly := sharedStack_recovers true
    have laxly := sharedStack_recovers false
    have near : InReach registers 0x1100 0x1300 := by decide
    exact ⟨strictly, laxly, near, ((nextFrame_recovers strictly).1 rfl).1 near,
      (nextFrame_recovers laxly).2 rfl⟩

/-- A strict transition can lose the caller that the trampoline saved: the
handler runs on a stack above the interrupted one. -/
theorem exists_saved_caller_lost :
    ∃ (validator : Validator) (memory : Memory) (current : Word)
      (registers : Registers) (frame : Word),
      validator.Recovers memory .strictWalk current registers frame ∧
      validator.nextFrame memory current .strictWalk =
        .ok ⟨none, [frame]⟩ := by
  have ended : (interruptedOn .alternateStack).nextFrame .alternateStack 0x1800
      .strictWalk = .ok ⟨none, [0x1300]⟩ := by
    decide +kernel
  exact ⟨_, .alternateStack, 0x1800, _, 0x1300, alternateStack_recovers true,
    ended⟩

end Validator

end FrameChain
