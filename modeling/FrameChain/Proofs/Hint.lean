import FrameChain.Capture
import FrameChain.Proofs.Crossing

/-!
# What a walk learns from a context

Where the trampoline's correction does not apply, a context tells a walk one
thing: the frame that was interrupted.  Contexts that point at the same frame
lead to the same walk, down to the probe's questions and to what breaks it
off, and a context that points at no frame leads to the walk without one.

Only a strict transition has a use for that frame.  A lax walk goes the same
way whatever the context says.
-/

namespace FrameChain

/-- In either leg of a walk two validators take every frame alike. -/
structure WalkPlan.Agree (plan : WalkPlan) (memory : Memory)
    (first second : Validator) : Prop where
  recording : ∀ cursor,
    first.visit memory (plan.options first) cursor =
      second.visit memory (plan.options second) cursor
  counting : ∀ cursor,
    first.visit memory (plan.options first).relaxed cursor =
      second.visit memory (plan.options second).relaxed cursor

variable {first second : Validator} {memory : Memory}
  {options others : WalkOptions} {plan : WalkPlan}

namespace Validator

theorem record_congr
    (visits : ∀ cursor, first.visit memory options cursor =
      second.visit memory others cursor) (depth : Nat) (state : Recording) :
    first.record memory options depth state =
      second.record memory others depth state := by
  fun_induction Validator.record first memory options depth state with
  | case1 state going cause visited =>
      rw [visits] at visited
      rw [Validator.record, if_pos going, visited]
  | case2 state going visited =>
      rw [visits] at visited
      rw [Validator.record, if_pos going, visited]
  | case3 state going visit visited remaining ih =>
      rw [visits] at visited
      rw [ih]
      conv => rhs; rw [Validator.record, if_pos going, visited]
      simp only [if_pos remaining]
  | case4 state going visit visited done cause broken =>
      rw [visits] at visited
      rw [Validator.record, if_pos going, visited]
      simp only [if_neg done, broken]
  | case5 state going visit visited done output written ih =>
      rw [visits] at visited
      rw [ih]
      conv => rhs; rw [Validator.record, if_pos going, visited]
      simp only [if_neg done, written]
  | case6 state ended => rw [Validator.record, if_neg ended]

theorem count_congr
    (visits : ∀ cursor, first.visit memory options cursor =
      second.visit memory others cursor) (state : Counting) :
    first.count memory options state = second.count memory others state := by
  fun_induction Validator.count first memory options state with
  | case1 state going cause visited =>
      rw [visits] at visited
      rw [Validator.count, if_pos going, visited]
  | case2 state going visited =>
      rw [visits] at visited
      rw [Validator.count, if_pos going, visited]
  | case3 state going visit visited ih =>
      rw [visits] at visited
      rw [ih]
      conv => rhs; rw [Validator.count, if_pos going, visited]
  | case4 state ended => rw [Validator.count, if_neg ended]

end Validator

theorem unwind_congr (agree : plan.Agree memory first second) (start : Word)
    (output : Output) :
    unwind first memory start output plan =
      unwind second memory start output plan := by
  have recording := Validator.record_congr agree.recording
    (plan.effectiveDepth output) (plan.initial start output)
  have counting := Validator.count_congr agree.counting
  simp only [unwind, recording, Validator.conclude, counting]

namespace Validator

theorem anchored_plan_iff {candidate : Word} (nonzero : candidate ≠ 0)
    (validator : Validator) (plan : WalkPlan) :
    validator.Anchored (plan.options validator) candidate ↔
      candidate = frameHint validator.context := by
  rw [Anchored, consulted_plan, contextFrame]
  cases validator.context with
  | none =>
      -- The hint of no context is 0, and that is never judged.
      simp [frameHint, nonzero]
  | some registers => simp

theorem create_hint (build : Build) {one other : Option Registers}
    (hints : frameHint one = frameHint other)
    (analysis : Trampoline.Analysis) (probe : Probe) :
    frameHint (create build one analysis probe).context =
      frameHint (create build other analysis probe).context := by
  unfold create
  cases build.signalContext with
  | false => rfl
  | true => exact hints

theorem create_agree (build : Build) {analysis : Trampoline.Analysis}
    (uncorrected : ¬ analysis.NeedsCorrection) (probe : Probe)
    (memory : Memory) {one other : Option Registers}
    (hints : plan.strict = true → frameHint one = frameHint other) :
    plan.Agree memory (create build one analysis probe)
      (create build other analysis probe) := by
  have plain (context : Option Registers) :
      ¬ (create build context analysis probe).analysis.NeedsCorrection :=
    uncorrected
  constructor
  case recording =>
    refine visit_congr (plain one) (plain other) (judge_congr rfl ?_ ?_) memory
    · rfl
    · intro strict candidate nonzero
      rw [anchored_plan_iff nonzero, anchored_plan_iff nonzero,
        create_hint build (hints strict)]
  case counting =>
    refine visit_congr (plain one) (plain other) (judge_congr rfl ?_ ?_) memory
    · rfl
    · intro strict
      cases strict

end Validator

theorem CaptureSite.walk_lax (site : CaptureSite) (build : Build)
    (lax : plan.strict = false) (one other : Option Registers)
    (output : Output) :
    site.walk build one output plan = site.walk build other output plan := by
  have uncorrected : ¬ Trampoline.Analysis.unknown.NeedsCorrection := by
    decide
  have hints (strict : plan.strict = true) :
      frameHint one = frameHint other :=
    absurd (lax.symm.trans strict) Bool.false_ne_true
  have agree := Validator.create_agree build uncorrected
    (.ofMemory site.memory) site.memory hints
  simp only [walk, unwind_congr agree]

/-- Where no correction applies, contexts that point at the same frame lead to
the same walk, one that points at no frame to the walk without a context, and
any two to the same lax walk.  So the frames that a signal handler asks for do
not depend on its context. -/
theorem unwind_of_frameHint (build : Build)
    {analysis : Trampoline.Analysis}
    (uncorrected : analysis.pushes = 0 ∨ analysis.signalReturn = 0)
    (probe : Probe) (memory : Memory) (start : Word) (output : Output)
    (plan : WalkPlan) :
    let run (context : Option Registers) : WalkResult :=
      unwind (.create build context analysis probe) memory start output plan
    (∀ one other : Registers, one.frameHint = other.frameHint →
      run (some one) = run (some other)) ∧
    (∀ registers : Registers, registers.frameHint = 0 →
      run (some registers) = run none) ∧
    (plan.strict = false → ∀ one other, run one = run other) ∧
    ∀ site addresses sizes skip one other dropped,
      Capture.framesWithContext build site addresses sizes skip one dropped =
        Capture.framesWithContext build site addresses sizes skip other
          dropped := by
  intro run
  have plain : ¬ analysis.NeedsCorrection := by
    intro needed
    exact uncorrected.elim needed.1 needed.2
  have same (one other : Option Registers)
      (hints : plan.strict = true → frameHint one = frameHint other) :
      run one = run other := by
    apply unwind_congr
    exact Validator.create_agree build plain probe memory hints
  refine ⟨?_, ?_, ?_, ?_⟩
  · intro one other hints
    exact same (some one) (some other) fun _ => hints
  · intro registers nowhere
    exact same (some registers) none fun _ => nowhere
  · intro lax one other
    apply same
    intro strict
    exact absurd (lax.symm.trans strict) Bool.false_ne_true
  · intro site addresses sizes skip one other dropped
    have lax : (Capture.framesPlan addresses skip dropped.isSome).strict =
        false := rfl
    have walks := site.walk_lax build lax one other
      (.withSizes build addresses sizes)
    simp only [Capture.framesWithContext, walks]

/-- The base pointer of one context and the stack pointer of the other point at
the interrupted frame, and the walk crosses to it with either. -/
theorem unwind_of_frameHint_far_apart :
    let memory := Memory.farApart
    let run (context : Option Registers) : WalkResult :=
      unwind (.create .development context .unknown (.ofMemory memory)) memory
        0x7F0000000000 (.addressesOnly [7, 7, 7, 7, 7]) ⟨5, 0, true, true⟩
    let one : Registers := ⟨0x1000, 0xFF0, 0⟩
    let other : Registers := ⟨7, 0x1000, 0x77⟩
    (Trampoline.Analysis.unknown.pushes = 0 ∧
      one.frameHint = other.frameHint) ∧
    run (some one) = run (some other) ∧
    (run (some one)).frames = 4 ∧ (run none).frames = 2 := by
  intro memory run one other
  have hints : one.frameHint = other.frameHint := by decide
  have uncorrected : Trampoline.Analysis.unknown.pushes = 0 := rfl
  obtain ⟨same, _⟩ := unwind_of_frameHint .development (.inl uncorrected)
    (.ofMemory memory) memory 0x7F0000000000 (.addressesOnly [7, 7, 7, 7, 7])
    ⟨5, 0, true, true⟩
  have four : (run (some one)).frames = 4 := by decide +kernel
  have two : (run none).frames = 2 := by decide +kernel
  exact ⟨⟨uncorrected, hints⟩, same one other hints, four, two⟩

end FrameChain
