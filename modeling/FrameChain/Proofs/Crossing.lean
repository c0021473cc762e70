import Mathlib.Data.List.Chain
import FrameChain.Proofs.Step

/-!
# Walks from a handler's stack into the interrupted one

A signal handler may run on a stack of its own.  Its last frame links to the
frame that was interrupted, which can lie anywhere; within a stack the frames
go up by plausible distances.  A strict walk takes that one step because the
context points at the frame, and every other one because it is near, so it
goes through both stacks.  The frames that do not fit are counted laxly, and
there the probe has to accept them.
-/

namespace FrameChain

/-- A memory holds the record of a frame that no chain ends at. -/
structure Memory.Stores (memory : Memory) (record : FrameRecord) : Prop where
  read : FrameRecord.read memory record.framePointer = .ok record
  nonzero : record.framePointer ≠ 0
  aligned : record.framePointer.Aligned
  returns : record.returnAddress ≠ 0

/-- Where some frames begin, or what lies beyond them where there are none. -/
def firstFrame (beyond : Word) : List FrameRecord → Word
  | [] => beyond
  | record :: _ => record.framePointer

/-- Each frame links to the next one, and the last one to what lies beyond. -/
inductive Memory.Linked (memory : Memory) (beyond : Word) :
    List FrameRecord → Prop where
  | nil : memory.Linked beyond []
  | cons {record : FrameRecord} {callers : List FrameRecord} :
      memory.Stores record →
      record.link = firstFrame beyond callers →
      memory.Linked beyond callers →
      memory.Linked beyond (record :: callers)

/-- The frames of one stack, the innermost first. -/
structure Memory.HoldsStack (memory : Memory) (beyond : Word)
    (frames : List FrameRecord) : Prop where
  linked : memory.Linked beyond frames
  ascending : frames.IsChain fun record caller =>
    record.framePointer < caller.framePointer ∧
      (caller.framePointer - record.framePointer).toNat ≤ maxFrameBytes

/-- The step from a frame to its caller is accepted. -/
def Validator.StepsTo (validator : Validator) (options : WalkOptions)
    (record caller : FrameRecord) : Prop :=
  (validator.judge options record.framePointer caller.framePointer).next =
    some caller.framePointer

namespace Memory.Linked

variable {memory : Memory} {beyond : Word}

theorem stores {frames : List FrameRecord}
    (linked : memory.Linked beyond frames) :
    ∀ record ∈ frames, memory.Stores record := by
  induction linked with
  | nil => simp
  | cons stored _ _ ih =>
      intro record member
      rcases List.mem_cons.mp member with rfl | later
      · exact stored
      · exact ih record later

theorem append {first second : List FrameRecord}
    (linked : memory.Linked (firstFrame beyond second) first)
    (further : memory.Linked beyond second) :
    memory.Linked beyond (first ++ second) := by
  induction linked with
  | nil => exact further
  | @cons record callers stored link _ ih =>
      apply Memory.Linked.cons stored _ ih
      rw [link]
      cases callers <;> rfl

theorem drop {frames : List FrameRecord}
    (linked : memory.Linked beyond frames) (count : Nat) :
    memory.Linked beyond (frames.drop count) := by
  induction linked generalizing count with
  | nil =>
      rw [List.drop_nil]
      exact .nil
  | cons stored link linked ih =>
      cases count with
      | zero => exact .cons stored link linked
      | succ count => exact ih count

end Memory.Linked

namespace Validator

variable {validator : Validator} {memory : Memory} {options : WalkOptions}
  {frames : List FrameRecord}

theorem onward_next_or (record : FrameRecord) :
    (validator.onward options record).next = 0 ∨
      (validator.onward options record).next = record.link := by
  rw [onward_next]
  cases judged :
      (validator.judge options record.framePointer record.link).next with
  | none => exact .inl rfl
  | some caller => exact .inr (judge_next_eq_some_iff.mp judged).1

theorem onward_next_of_steps {record : FrameRecord}
    {callers : List FrameRecord} (link : record.link = firstFrame 0 callers)
    (steps : (record :: callers).IsChain (validator.StepsTo options)) :
    (validator.onward options record).next = firstFrame 0 callers := by
  cases callers with
  | nil =>
      have null : record.link = 0 := link
      rcases validator.onward_next_or record with ended | linked
      · exact ended
      · exact linked.trans null
  | cons caller _ =>
      have step := (List.isChain_cons_cons.mp steps).1
      apply onward_next_of_judge
      rw [link]
      exact step

theorem trail_completes_of_linked (linked : memory.Linked 0 frames)
    (plain : ∀ record ∈ frames, ¬ validator.Corrects record) (budget : Nat) :
    (validator.trail memory options budget (firstFrame 0 frames)).Completes := by
  induction linked generalizing budget with
  | nil => exact ⟨0, by simp [firstFrame]⟩
  | @cons record callers stored link _ ih =>
      cases budget with
      | zero => exact ⟨record.framePointer, rfl⟩
      | succ budget =>
          have visited := visit_of_not_corrects options stored.read
            stored.returns (plain record List.mem_cons_self)
          rw [firstFrame, trail_some stored.nonzero visited]
          change (validator.trail memory options budget
            (validator.onward options record).next).Completes
          rcases validator.onward_next_or record with ended | linked
          · rw [ended, trail_null]
            exact ⟨0, rfl⟩
          · rw [linked, link]
            apply ih
            intro caller member
            exact plain caller (List.mem_cons_of_mem record member)

/-- Where each step is accepted, a trail takes the stored frames in order. -/
theorem trail_of_linked (linked : memory.Linked 0 frames)
    (plain : ∀ record ∈ frames, ¬ validator.Corrects record)
    (steps : frames.IsChain (validator.StepsTo options)) (budget : Nat) :
    let trail :=
      validator.trail memory options budget (firstFrame 0 frames)
    trail.visits.map (·.record) = frames.take budget ∧
      trail.stop = .ok (firstFrame 0 (frames.drop budget)) := by
  induction linked generalizing budget with
  | nil => simp [firstFrame]
  | @cons record callers stored link _ ih =>
      cases budget with
      | zero => simp
      | succ budget =>
          have visited := visit_of_not_corrects options stored.read
            stored.returns (plain record List.mem_cons_self)
          have next := onward_next_of_steps link steps
          have further : ∀ caller ∈ callers, ¬ validator.Corrects caller := by
            intro caller member
            exact plain caller (List.mem_cons_of_mem record member)
          obtain ⟨records, stop⟩ := ih further steps.tail budget
          rw [firstFrame, trail_some stored.nonzero visited, next]
          constructor
          · simp only [Trail.after_visits, List.map_cons, records,
              List.take_succ_cons, onward_record]
          · simpa only [Trail.after_stop, List.drop_succ_cons] using stop

theorem stepsTo_of_above {record caller : FrameRecord}
    (stored : memory.Stores caller)
    (above : record.framePointer < caller.framePointer ∧
      (caller.framePointer - record.framePointer).toNat ≤ maxFrameBytes)
    (probed : options.strict = false →
      validator.probe caller.framePointer = true) :
    validator.StepsTo options record caller := by
  have near : Near record.framePointer caller.framePointer :=
    ⟨UInt64.le_of_lt above.1, above.2⟩
  have different : caller.framePointer ≠ record.framePointer :=
    Ne.symm (UInt64.ne_of_lt above.1)
  exact judge_next_eq_some_iff.mpr
    ⟨rfl, stored.nonzero, different, stored.aligned, fun _ => .inr near,
      probed⟩

theorem stepsTo_of_anchored {record caller : FrameRecord}
    (stored : memory.Stores caller)
    (apart : record.framePointer ≠ caller.framePointer)
    (anchored : options.strict = true →
      validator.Anchored options caller.framePointer)
    (probed : options.strict = false →
      validator.probe caller.framePointer = true) :
    validator.StepsTo options record caller :=
  judge_next_eq_some_iff.mpr
    ⟨rfl, stored.nonzero, Ne.symm apart, stored.aligned,
      fun strict => .inl (anchored strict), probed⟩

theorem stepsTo_within {beyond : Word}
    (stack : memory.HoldsStack beyond frames)
    (probed : options.strict = false →
      ∀ record ∈ frames, validator.probe record.framePointer = true) :
    frames.IsChain (validator.StepsTo options) := by
  apply stack.ascending.imp_of_mem_imp
  intro record caller _ member above
  apply stepsTo_of_above (stack.linked.stores caller member) above
  intro lax
  exact probed lax caller member

theorem stepsTo_across {handler interrupted : List FrameRecord}
    {beyond : Word}
    (handlerStack :
      memory.HoldsStack (firstFrame beyond interrupted) handler)
    (interruptedStack : memory.HoldsStack beyond interrupted)
    (apart : ∀ record ∈ handler, ∀ other ∈ interrupted,
      record.framePointer ≠ other.framePointer)
    (anchored : options.strict = true → ∀ record ∈ interrupted.head?,
      validator.Anchored options record.framePointer)
    (probed : options.strict = false →
      ∀ record ∈ handler ++ interrupted,
        validator.probe record.framePointer = true) :
    (handler ++ interrupted).IsChain (validator.StepsTo options) := by
  apply List.isChain_append.mpr
  refine ⟨?_, ?_, ?_⟩
  · apply stepsTo_within handlerStack
    intro lax record member
    exact probed lax record (List.mem_append_left interrupted member)
  · apply stepsTo_within interruptedStack
    intro lax record member
    exact probed lax record (List.mem_append_right handler member)
  · intro last lastMember first firstMember
    have member := List.mem_of_mem_head? firstMember
    apply stepsTo_of_anchored (interruptedStack.linked.stores first member)
    · exact apart last (List.mem_of_getLast? lastMember) first member
    · intro strict
      exact anchored strict first firstMember
    · intro lax
      exact probed lax first (List.mem_append_right handler member)

end Validator

variable {validator : Validator} {memory : Memory}

theorem unwind_of_linked {frames : List FrameRecord} {output : Output}
    {plan : WalkPlan} (linked : memory.Linked 0 frames)
    (plain : ∀ record ∈ frames, ¬ validator.Corrects record)
    (steps : frames.IsChain (validator.StepsTo (plan.options validator)))
    (recording : 0 < plan.effectiveDepth output) :
    let result := unwind validator memory (firstFrame 0 frames) output plan
    let kept := (frames.drop plan.skip).take (plan.effectiveDepth output)
    result.frames = kept.length ∧
      result.output.addresses =
        overwrite output.addresses (kept.map (·.returnAddress)) := by
  intro result kept
  obtain ⟨_, written, outcome⟩ := unwind_recording validator memory
    (firstFrame 0 frames) output plan
  obtain ⟨records, _⟩ := Validator.trail_of_linked linked plain steps
    (plan.budget output)
  have budget : plan.budget output =
      plan.skip + plan.effectiveDepth output := if_pos recording
  have keptRecords :
      ((plan.recording validator memory (firstFrame 0 frames) output).visits.drop
        plan.skip).map (·.record) = kept := by
    change ((validator.trail memory (plan.options validator)
      (plan.budget output) (firstFrame 0 frames)).visits.drop
        plan.skip).map (·.record) = kept
    rw [List.map_drop, records, budget, List.drop_take,
      Nat.add_sub_cancel_left]
  constructor
  · rw [← keptRecords, List.length_map, List.length_drop]
    exact written
  · rw [← keptRecords, List.map_map]
    exact congrArg Output.addresses outcome

theorem unwind_completes_of_linked {frames : List FrameRecord}
    {output : Output} {plan : WalkPlan} (linked : memory.Linked 0 frames)
    (plain : ∀ record ∈ frames, ¬ validator.Corrects record)
    (steps : frames.IsChain (validator.StepsTo (plan.options validator))) :
    (unwind validator memory (firstFrame 0 frames) output plan).Completes := by
  obtain ⟨_, stop⟩ := Validator.trail_of_linked linked plain steps
    (plan.budget output)
  refine unwind_completes_iff.mpr ⟨_, stop, fun _ => ?_⟩
  apply Validator.trail_completes_of_linked (linked.drop _)
  intro record member
  exact plain record (List.mem_of_mem_drop member)

theorem unwind_counts_of_linked {frames : List FrameRecord}
    {output : Output} {plan : WalkPlan} (linked : memory.Linked 0 frames)
    (plain : ∀ record ∈ frames, ¬ validator.Corrects record)
    (steps : frames.IsChain (validator.StepsTo (plan.options validator)))
    (laxSteps :
      frames.IsChain (validator.StepsTo (plan.options validator).relaxed))
    (counts : plan.countDropped = true) :
    (unwind validator memory (firstFrame 0 frames) output plan).outcome =
      .ok (some (min maxDroppedFrames
        (frames.length - plan.budget output))) := by
  obtain ⟨_, stop⟩ := Validator.trail_of_linked linked plain steps
    (plan.budget output)
  have furtherPlain : ∀ record ∈ frames.drop (plan.budget output),
      ¬ validator.Corrects record := by
    intro record member
    exact plain record (List.mem_of_mem_drop member)
  obtain ⟨records, counted⟩ := Validator.trail_of_linked
    (linked.drop (plan.budget output)) furtherPlain (laxSteps.drop _)
    maxDroppedFrames
  refine unwind_ok_iff.mpr
    ⟨_, stop, .inr ⟨counts, ⟨_, counted⟩, congrArg some ?_⟩⟩
  have length := congrArg List.length records
  rw [List.length_map, List.length_take, List.length_drop] at length
  exact length.symm

theorem Validator.consulted_plan (validator : Validator) (plan : WalkPlan) :
    validator.consulted (plan.options validator) = validator.context := by
  unfold Validator.consulted WalkPlan.options
  split
  next => rfl
  next absent => exact (Option.not_isSome_iff_eq_none.mp absent).symm

theorem Validator.anchored_of_hint {registers : Registers} {address : Word}
    (context : validator.context = some registers)
    (hint : registers.frameHint = address) (plan : WalkPlan) :
    validator.Anchored (plan.options validator) address := by
  rw [Validator.Anchored, consulted_plan, contextFrame, context]
  exact ⟨rfl, hint.symm⟩

/-- A strict walk that starts at a handler's first frame records the return
addresses of the handler's stack and the interrupted one, wherever the two lie,
when the context points at the first interrupted frame and the correction
applies to none of the frames.  It completes, and counts the frames past those
that it may skip and record, when the probe accepts them. -/
theorem unwind_crosses_stacks {handler interrupted : List FrameRecord}
    {output : Output} {plan : WalkPlan} (strict : plan.strict = true)
    (recording : 0 < plan.effectiveDepth output) (present : handler ≠ [])
    (handlerStack : memory.HoldsStack (firstFrame 0 interrupted) handler)
    (interruptedStack : memory.HoldsStack 0 interrupted)
    (apart : ∀ record ∈ handler, ∀ other ∈ interrupted,
      record.framePointer ≠ other.framePointer)
    (anchored : interrupted = [] ∨ ∃ registers,
      validator.context = some registers ∧
        registers.frameHint = firstFrame 0 interrupted)
    (plain : ∀ record ∈ handler ++ interrupted,
      ¬ validator.Corrects record) :
    let result :=
      unwind validator memory (firstFrame 0 handler) output plan
    let kept := ((handler ++ interrupted).drop plan.skip).take
      (plan.effectiveDepth output)
    result.Completes ∧ result.frames = kept.length ∧
      result.output.addresses =
        overwrite output.addresses (kept.map (·.returnAddress)) ∧
      (plan.countDropped = false → result.outcome = .ok none) ∧
      (plan.countDropped = true →
        (∀ record ∈ handler ++ interrupted,
          validator.probe record.framePointer = true) →
        result.outcome = .ok (some (min maxDroppedFrames
          (handler.length + interrupted.length - plan.skip -
            plan.effectiveDepth output)))) := by
  intro result kept
  have linked := handlerStack.linked.append interruptedStack.linked
  have start : firstFrame 0 handler = firstFrame 0 (handler ++ interrupted) := by
    cases handler with
    | nil => exact absurd rfl present
    | cons => rfl
  -- Only the hint bridges the gap, for the stacks may lie any distance apart.
  have across : ∀ record ∈ interrupted.head?,
      validator.Anchored (plan.options validator) record.framePointer := by
    intro record member
    rcases anchored with none | ⟨registers, context, hint⟩
    · simp [none] at member
    · have first : firstFrame 0 interrupted = record.framePointer := by
        rw [← List.cons_head?_tail member]
        rfl
      exact Validator.anchored_of_hint context (hint.trans first) plan
  have steps := Validator.stepsTo_across handlerStack interruptedStack apart
    (fun _ => across)
    (fun lax => absurd (lax.symm.trans strict) Bool.false_ne_true)
  obtain ⟨frames, addresses⟩ := unwind_of_linked linked plain steps recording
  have completes : (unwind validator memory
      (firstFrame 0 (handler ++ interrupted)) output plan).Completes :=
    unwind_completes_of_linked linked plain steps
  simp only [result, start]
  refine ⟨completes, frames, addresses, ?_, ?_⟩
  · intro off
    obtain ⟨dropped, completed⟩ := completes
    rw [completed]
    obtain ⟨_, _, ⟨_, none⟩ | ⟨on, _⟩⟩ := unwind_ok_iff.mp completed
    · rw [none]
    · cases off.symm.trans on
  · intro counts accepted
    -- The counting leg is lax: distances do not matter to it, the probe does.
    have laxSteps : (handler ++ interrupted).IsChain
        (validator.StepsTo (plan.options validator).relaxed) :=
      Validator.stepsTo_across handlerStack interruptedStack apart
        (fun strict => by cases strict) (fun _ => accepted)
    have budget : plan.budget output =
        plan.skip + plan.effectiveDepth output := if_pos recording
    have counted : (unwind validator memory
        (firstFrame 0 (handler ++ interrupted)) output plan).outcome =
          .ok (some (min maxDroppedFrames
            ((handler ++ interrupted).length - plan.budget output))) :=
      unwind_counts_of_linked linked plain steps laxSteps counts
    rw [counted, budget, List.length_append, Nat.sub_sub]

/-- Two frames of a handler, far above the two that were interrupted. -/
def Memory.farApart : Memory :=
  [(0x7F0000000000, 0x7F0000000020), (0x7F0000000008, 0x51),
    (0x7F0000000020, 0x1000), (0x7F0000000028, 0x52), (0x1000, 0x1040),
    (0x1008, 0x53), (0x1040, 0), (0x1048, 0x54)].foldl
      (fun memory word => memory.storeWord word.1 word.2) .empty

/-- Of four frames one is skipped, the last of the handler's and the first of
the interrupted ones are recorded, and one is counted. -/
theorem unwind_crosses_stacks_far_apart :
    let memory := Memory.farApart
    let validator : Validator :=
      ⟨some ⟨0x1000, 0xFF0, 0⟩, .unknown, .ofMemory memory⟩
    let handler : List FrameRecord :=
      [⟨0x7F0000000000, 0x7F0000000020, 0x51⟩,
        ⟨0x7F0000000020, 0x1000, 0x52⟩]
    let interrupted : List FrameRecord :=
      [⟨0x1000, 0x1040, 0x53⟩, ⟨0x1040, 0, 0x54⟩]
    let output : Output := .addressesOnly [7, 7, 7]
    let plan : WalkPlan := ⟨2, 1, true, true⟩
    let result := unwind validator memory 0x7F0000000000 output plan
    (0 < plan.effectiveDepth output ∧
      memory.HoldsStack 0x1000 handler ∧ memory.HoldsStack 0 interrupted ∧
      (∀ record ∈ handler, ∀ other ∈ interrupted,
        record.framePointer ≠ other.framePointer) ∧
      (∀ record ∈ handler ++ interrupted, ¬ validator.Corrects record) ∧
      ∀ record ∈ handler ++ interrupted,
        validator.probe record.framePointer = true) ∧
    result.frames = 2 ∧ result.output.addresses = [0x52, 0x53, 7] ∧
      result.outcome = .ok (some 1) := by
  intro memory validator handler interrupted output plan result
  have recording : 0 < plan.effectiveDepth output := by decide
  have handlerStack : memory.HoldsStack 0x1000 handler :=
    { linked :=
        .cons ⟨by decide +kernel, by decide, by decide, by decide⟩ rfl
          (.cons ⟨by decide +kernel, by decide, by decide, by decide⟩ rfl .nil)
      ascending := by decide }
  have interruptedStack : memory.HoldsStack 0 interrupted :=
    { linked :=
        .cons ⟨by decide +kernel, by decide, by decide, by decide⟩ rfl
          (.cons ⟨by decide +kernel, by decide, by decide, by decide⟩ rfl .nil)
      ascending := by decide }
  have apart : ∀ record ∈ handler, ∀ other ∈ interrupted,
      record.framePointer ≠ other.framePointer := by
    decide
  have uncorrected : ¬ validator.analysis.NeedsCorrection := by decide
  have plain : ∀ record ∈ handler ++ interrupted,
      ¬ validator.Corrects record :=
    fun _ _ => Validator.not_corrects_of_uncorrected uncorrected
  have accepted : ∀ record ∈ handler ++ interrupted,
      validator.probe record.framePointer = true := by
    decide +kernel
  obtain ⟨_, frames, addresses, _, counted⟩ :=
    unwind_crosses_stacks rfl recording (List.cons_ne_nil _ _) handlerStack
      interruptedStack apart (.inr ⟨_, rfl, rfl⟩) plain
  exact ⟨⟨recording, handlerStack, interruptedStack, apart, plain, accepted⟩,
    frames, addresses, counted rfl accepted⟩

end FrameChain
