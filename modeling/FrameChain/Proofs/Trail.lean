import FrameChain.Walk

/-!
# Trails

The two legs of a walk take frames for different purposes.  A trail keeps only
what they share: the frames that are taken one after the other from a cursor
on, within a budget, and how that ends.  It recurs on the budget, so facts
about walks are inductions on trails.

The legs are shown to follow trails.  For the recording leg an invariant ties
what it has skipped and written to the frames it has taken; its budget is the
number of frames it may still skip or write.
-/

namespace FrameChain

structure Trail where
  visits : List Visit
  /-- The cursor that is left, 0 where the chain has ended. -/
  stop : Except Abort Word

def Trail.Completes (trail : Trail) : Prop :=
  ∃ cursor, trail.stop = .ok cursor

def WalkResult.Completes (result : WalkResult) : Prop :=
  ∃ dropped, result.outcome = .ok dropped

/-- The trail of which a frame is taken first. -/
def Trail.after (visit : Visit) (trail : Trail) : Trail :=
  { trail with visits := visit :: trail.visits }

/-- Take frames from a cursor on, at most as many as the budget. -/
def Validator.trail (validator : Validator) (memory : Memory)
    (options : WalkOptions) : Nat → Word → Trail
  | 0, cursor => ⟨[], .ok cursor⟩
  | budget + 1, cursor =>
      if cursor = 0 then
        ⟨[], .ok 0⟩
      else
        match validator.visit memory options cursor with
        | .error cause => ⟨[], .error cause⟩
        | .ok none => ⟨[], .ok 0⟩
        | .ok (some visit) =>
            (validator.trail memory options budget visit.next).after visit

def Trail.broken (trail : Trail) : Option Abort :=
  match trail.stop with
  | .error cause => some cause
  | .ok _ => none

/-- Go on from where a trail stopped, unless it was broken off. -/
def Trail.andThen (trail : Trail) (further : Word → Trail) : Trail :=
  match trail.stop with
  | .error _ => trail
  | .ok cursor =>
      { visits := trail.visits ++ (further cursor).visits
        stop := (further cursor).stop }

/-- How a leg ended, as trails say it. -/
def Leg.stop (leg : Leg State) (cursor : State → Word) : Except Abort Word :=
  match leg.broken with
  | some cause => .error cause
  | none => .ok (cursor leg.last)

/-- The buffers after some frames were written. -/
def Output.holding (output : Output) (recorded : List Visit) : Output :=
  output.write (recorded.map (·.returnAddress)) (recorded.map (·.size))

def Recording.budget (depth : Nat) (state : Recording) : Nat :=
  if state.frames < depth then state.skip + (depth - state.frames) else 0

def WalkPlan.budget (plan : WalkPlan) (output : Output) : Nat :=
  if 0 < plan.effectiveDepth output then
    plan.skip + plan.effectiveDepth output
  else 0

def WalkPlan.recording (plan : WalkPlan) (validator : Validator)
    (memory : Memory) (start : Word) (output : Output) : Trail :=
  validator.trail memory (plan.options validator) (plan.budget output) start

/-- The frames that the counting leg of a walk takes from a cursor on. -/
def WalkPlan.counting (plan : WalkPlan) (validator : Validator)
    (memory : Memory) (cursor : Word) : Trail :=
  validator.trail memory (plan.options validator).relaxed maxDroppedFrames
    cursor

/-- A recording leg, told to skip some frames, has taken a list of frames. -/
structure Recording.Took (toSkip : Nat) (untouched : Output)
    (taken : List Visit) (state : Recording) : Prop where
  visits : state.visits = taken.reverse
  skip : state.skip = toSkip - taken.length
  frames : state.frames = taken.length - toSkip
  output : state.output = untouched.holding (taken.drop toSkip)

variable {validator : Validator} {memory : Memory} {options : WalkOptions}

@[simp] theorem Trail.after_visits (visit : Visit) (trail : Trail) :
    (trail.after visit).visits = visit :: trail.visits := rfl

@[simp] theorem Trail.after_stop (visit : Visit) (trail : Trail) :
    (trail.after visit).stop = trail.stop := rfl

@[simp] theorem Validator.trail_zero (cursor : Word) :
    validator.trail memory options 0 cursor = ⟨[], .ok cursor⟩ := rfl

@[simp] theorem Validator.trail_null (budget : Nat) :
    validator.trail memory options budget 0 = ⟨[], .ok 0⟩ := by
  cases budget <;> simp [Validator.trail]

theorem Validator.trail_error {budget : Nat} {cursor : Word} {cause : Abort}
    (nonzero : cursor ≠ 0)
    (visited : validator.visit memory options cursor = .error cause) :
    validator.trail memory options (budget + 1) cursor =
      ⟨[], .error cause⟩ := by
  simp [Validator.trail, nonzero, visited]

theorem Validator.trail_none {budget : Nat} {cursor : Word}
    (nonzero : cursor ≠ 0)
    (visited : validator.visit memory options cursor = .ok none) :
    validator.trail memory options (budget + 1) cursor = ⟨[], .ok 0⟩ := by
  simp [Validator.trail, nonzero, visited]

theorem Validator.trail_some {budget : Nat} {cursor : Word} {visit : Visit}
    (nonzero : cursor ≠ 0)
    (visited : validator.visit memory options cursor = .ok (some visit)) :
    validator.trail memory options (budget + 1) cursor =
      (validator.trail memory options budget visit.next).after visit := by
  simp [Validator.trail, nonzero, visited]

theorem Trail.andThen_of_ok {trail : Trail} {further : Word → Trail}
    {cursor : Word} (stopped : trail.stop = .ok cursor) :
    trail.andThen further =
      ⟨trail.visits ++ (further cursor).visits, (further cursor).stop⟩ := by
  simp [andThen, stopped]

theorem Trail.andThen_completes_iff {trail : Trail}
    {further : Word → Trail} :
    (trail.andThen further).Completes ↔
      ∃ cursor, trail.stop = .ok cursor ∧ (further cursor).Completes := by
  cases stopped : trail.stop with
  | error cause => simp [Completes, andThen, stopped]
  | ok cursor => simp [Completes, andThen, stopped]

theorem Trail.after_andThen (visit : Visit) (trail : Trail)
    (further : Word → Trail) :
    (trail.after visit).andThen further =
      (trail.andThen further).after visit := by
  cases stopped : trail.stop with
  | error cause => simp [andThen, stopped]
  | ok cursor => simp [andThen, stopped, after]

/-- A trail with a larger budget goes on where a smaller one stopped. -/
theorem Validator.trail_add (validator : Validator) (memory : Memory)
    (options : WalkOptions) (first second : Nat) (cursor : Word) :
    validator.trail memory options (first + second) cursor =
      (validator.trail memory options first cursor).andThen
        (validator.trail memory options second) := by
  induction first generalizing cursor with
  | zero => simp [Trail.andThen]
  | succ first ih =>
      rw [Nat.succ_add]
      by_cases null : cursor = 0
      · simp [null, Trail.andThen]
      · cases visited : validator.visit memory options cursor with
        | error cause =>
            simp [trail_error null visited, Trail.andThen]
        | ok found =>
            cases found with
            | none => simp [trail_none null visited, Trail.andThen]
            | some visit =>
                rw [trail_some null visited, trail_some null visited, ih,
                  Trail.after_andThen]

theorem WalkPlan.options_relaxed {plan : WalkPlan}
    (lax : plan.strict = false) :
    (plan.options validator).relaxed = plan.options validator := by
  simp [options, WalkOptions.relaxed, lax]

/-- The two legs of a lax walk go along one trail. -/
theorem WalkPlan.lax_trail {plan : WalkPlan} (lax : plan.strict = false)
    (validator : Validator) (memory : Memory) (start : Word)
    (output : Output) :
    validator.trail memory (plan.options validator)
        (plan.budget output + maxDroppedFrames) start =
      (plan.recording validator memory start output).andThen
        (plan.counting validator memory) := by
  have counting : plan.counting validator memory =
      validator.trail memory (plan.options validator) maxDroppedFrames := by
    funext cursor
    rw [WalkPlan.counting, options_relaxed lax]
  rw [Validator.trail_add, counting]
  rfl

theorem Recording.budget_succ {depth : Nat} (state : Recording)
    (going : state.frames < depth) :
    ∃ rest, state.budget depth = rest + 1 := by
  rw [Recording.budget, if_pos going]
  exact ⟨state.skip + (depth - state.frames) - 1, by omega⟩

theorem Recording.budget_skipped {depth : Nat} {state : Recording}
    (going : state.frames < depth) (remaining : 0 < state.skip)
    (visit : Visit) :
    state.budget depth =
      Recording.budget depth
        { state with
          cursor := visit.next
          skip := state.skip - 1
          visits := visit :: state.visits } + 1 := by
  simp only [Recording.budget, if_pos going]
  omega

theorem Recording.budget_recorded {depth : Nat} {state : Recording}
    (going : state.frames < depth) (done : ¬ 0 < state.skip) (visit : Visit)
    (output : Output) :
    state.budget depth =
      Recording.budget depth
        { state with
          cursor := visit.next
          frames := state.frames + 1
          output
          visits := visit :: state.visits } + 1 := by
  simp only [Recording.budget, if_pos going]
  split <;> omega

theorem Recording.Took.skipped {toSkip : Nat} {untouched : Output}
    {taken : List Visit} {state : Recording}
    (took : state.Took toSkip untouched taken) (visit : Visit)
    (remaining : 0 < state.skip) :
    Recording.Took toSkip untouched (taken ++ [visit])
      { state with
        cursor := visit.next
        skip := state.skip - 1
        visits := visit :: state.visits } := by
  have early : taken.length < toSkip := by
    have skip := took.skip
    omega
  have none_recorded : (taken ++ [visit]).drop toSkip = [] := by
    rw [List.drop_eq_nil_iff]
    simp
    omega
  constructor
  · simp [took.visits]
  · simp [took.skip]
    omega
  · simp [took.frames]
    omega
  · rw [none_recorded, took.output, List.drop_eq_nil_of_le (by omega)]

theorem Recording.Took.recorded {toSkip : Nat} {untouched : Output}
    {taken : List Visit} {state : Recording}
    (took : state.Took toSkip untouched taken) (visit : Visit)
    (done : ¬ 0 < state.skip) (room : state.frames < untouched.capacity) :
    ∃ output,
      state.output.record state.frames visit.returnAddress visit.size =
        .ok output ∧
      Recording.Took toSkip untouched (taken ++ [visit])
        { state with
          cursor := visit.next
          frames := state.frames + 1
          output
          visits := visit :: state.visits } := by
  have late : toSkip ≤ taken.length := by
    have skip := took.skip
    omega
  have one_more : (taken ++ [visit]).drop toSkip = taken.drop toSkip ++ [visit] :=
    List.drop_append_of_le_length late
  have position : state.frames = (taken.drop toSkip).length := by
    rw [took.frames, List.length_drop]
  refine ⟨untouched.holding ((taken ++ [visit]).drop toSkip), ?_, ?_⟩
  · rw [took.output, position, one_more]
    simp only [Output.holding, List.map_append, List.map_cons, List.map_nil]
    rw [← List.length_map (·.returnAddress)]
    apply Output.record_write
    · simp
    · rw [List.length_map, ← position]
      exact room
  · constructor
    · simp [took.visits]
    · simp [took.skip]
      omega
    · simp [took.frames]
      omega
    · rfl

/-- The recording leg follows the trail within its budget. -/
theorem Validator.record_trail {depth toSkip : Nat} {untouched : Output}
    {taken : List Visit} {state : Recording}
    (room : depth ≤ untouched.capacity)
    (took : state.Took toSkip untouched taken) :
    let leg := validator.record memory options depth state
    let trail :=
      validator.trail memory options (state.budget depth) state.cursor
    leg.last.Took toSkip untouched (taken ++ trail.visits) ∧
      leg.stop (·.cursor) = trail.stop := by
  fun_induction Validator.record validator memory options depth state
      generalizing taken with
  | case1 state going cause visited =>
      obtain ⟨rest, budget⟩ := state.budget_succ going.2
      rw [budget, trail_error going.1 visited]
      simpa [Leg.stop] using took
  | case2 state going visited =>
      obtain ⟨rest, budget⟩ := state.budget_succ going.2
      rw [budget, trail_none going.1 visited]
      refine ⟨?_, rfl⟩
      rw [List.append_nil]
      exact ⟨took.visits, took.skip, took.frames, took.output⟩
  | case3 state going visit visited remaining ih =>
      rw [Recording.budget_skipped going.2 remaining visit,
        trail_some going.1 visited]
      simpa using ih (took.skipped visit remaining)
  | case4 state going visit visited done cause broken =>
      -- There is room for each frame below the depth, so no write is refused.
      obtain ⟨output, written, _⟩ :=
        took.recorded visit done (Nat.lt_of_lt_of_le going.2 room)
      rw [written] at broken
      cases broken
  | case5 state going visit visited done output written ih =>
      obtain ⟨same, rewritten, next⟩ :=
        took.recorded visit done (Nat.lt_of_lt_of_le going.2 room)
      have outputs : same = output :=
        Except.ok.inj (rewritten.symm.trans written)
      subst same
      rw [Recording.budget_recorded going.2 done visit output,
        trail_some going.1 visited]
      simpa using ih next
  | case6 state ended =>
      have stopped : validator.trail memory options (state.budget depth)
          state.cursor = ⟨[], .ok state.cursor⟩ := by
        by_cases null : state.cursor = 0
        · rw [null, trail_null]
        · have full : ¬ state.frames < depth := fun room => ended ⟨null, room⟩
          rw [Recording.budget, if_neg full, trail_zero]
      rw [stopped]
      simpa [Leg.stop] using took

/-- The counting leg follows the trail within the frames it may still
count. -/
theorem Validator.count_trail (validator : Validator) (memory : Memory)
    (options : WalkOptions) (state : Counting) :
    let leg := validator.count memory options state
    let trail := validator.trail memory options
      (maxDroppedFrames - state.dropped) state.cursor
    leg.last.visits = trail.visits.reverse ++ state.visits ∧
      leg.last.dropped = state.dropped + trail.visits.length ∧
      leg.broken = trail.broken := by
  fun_induction Validator.count validator memory options state with
  | case1 state going cause visited =>
      obtain ⟨rest, budget⟩ := Nat.exists_eq_add_of_lt going.2
      have budget : maxDroppedFrames - state.dropped = rest + 1 := by omega
      rw [budget, trail_error going.1 visited]
      simp [Trail.broken]
  | case2 state going visited =>
      obtain ⟨rest, budget⟩ := Nat.exists_eq_add_of_lt going.2
      have budget : maxDroppedFrames - state.dropped = rest + 1 := by omega
      rw [budget, trail_none going.1 visited]
      simp [Trail.broken]
  | case3 state going visit visited ih =>
      have budget : maxDroppedFrames - state.dropped =
          maxDroppedFrames - (state.dropped + 1) + 1 := by omega
      rw [budget, trail_some going.1 visited]
      simp at ih ⊢
      refine ⟨ih.1, ?_, ih.2.2⟩
      rw [ih.2.1]
      omega
  | case4 state ended =>
      have stopped : validator.trail memory options
          (maxDroppedFrames - state.dropped) state.cursor =
            ⟨[], .ok state.cursor⟩ := by
        by_cases null : state.cursor = 0
        · rw [null, trail_null]
        · have full : ¬ state.dropped < maxDroppedFrames :=
            fun room => ended ⟨null, room⟩
          rw [Nat.sub_eq_zero_of_le (Nat.not_lt.mp full), trail_zero]
      rw [stopped]
      simp [Trail.broken]

theorem Validator.count_from (validator : Validator) (memory : Memory)
    (options : WalkOptions) (cursor : Word) :
    let leg := validator.count memory options
      { cursor, dropped := 0, visits := [] }
    let trail := validator.trail memory options maxDroppedFrames cursor
    leg.last.visits.reverse = trail.visits ∧
      leg.last.dropped = trail.visits.length ∧
      leg.broken = trail.broken := by
  obtain ⟨visits, dropped, broken⟩ := validator.count_trail memory options
    { cursor, dropped := 0, visits := [] }
  refine ⟨?_, ?_, broken⟩
  · simp [visits]
  · simp [dropped]

theorem Output.holding_nil (output : Output) : output.holding [] = output := by
  simp [Output.holding, Output.write, overwrite]

theorem WalkPlan.initial_took (plan : WalkPlan) (start : Word)
    (output : Output) :
    (plan.initial start output).Took plan.skip output [] := by
  constructor
  · rfl
  · simp [initial]
  · simp [initial]
  · simp [initial, Output.holding_nil]

theorem WalkPlan.record_initial (plan : WalkPlan) (validator : Validator)
    (memory : Memory) (start : Word) (output : Output) :
    let leg := validator.record memory (plan.options validator)
      (plan.effectiveDepth output) (plan.initial start output)
    let trail := plan.recording validator memory start output
    leg.last.Took plan.skip output trail.visits ∧
      leg.stop (·.cursor) = trail.stop := by
  have room : plan.effectiveDepth output ≤ output.capacity :=
    Nat.min_le_right _ _
  exact Validator.record_trail room (plan.initial_took start output)

theorem Validator.conclude_eq (validator : Validator) (memory : Memory)
    (options : WalkOptions) (countDropped : Bool) (leg : Leg Recording) :
    ∃ counted outcome,
      validator.conclude memory options countDropped leg =
        leg.last.result counted outcome := by
  unfold Validator.conclude
  split
  · exact ⟨_, _, rfl⟩
  · split
    · exact ⟨_, _, rfl⟩
    · exact ⟨_, _, rfl⟩

theorem Validator.conclude_outcome (countDropped : Bool)
    (leg : Leg Recording) :
    (validator.conclude memory options countDropped leg).outcome =
      (leg.stop (·.cursor)).bind fun cursor =>
        if countDropped then
          let counting :=
            validator.trail memory options.relaxed maxDroppedFrames cursor
          counting.stop.map fun _ => some counting.visits.length
        else .ok none := by
  obtain ⟨last, broken⟩ := leg
  cases broken with
  | some cause => rfl
  | none =>
      cases countDropped with
      | false => rfl
      | true =>
          obtain ⟨_, dropped, broken⟩ :=
            validator.count_from memory options.relaxed last.cursor
          simp only [Validator.conclude, Recording.result, dropped, broken,
            Trail.broken, Leg.stop, Except.bind]
          cases (validator.trail memory options.relaxed
            maxDroppedFrames last.cursor).stop <;> rfl

theorem Validator.conclude_counted (countDropped : Bool)
    (leg : Leg Recording) :
    (validator.conclude memory options countDropped leg).counted =
      match countDropped, leg.stop (·.cursor) with
      | true, .ok cursor =>
          (validator.trail memory options.relaxed maxDroppedFrames
            cursor).visits
      | _, _ => [] := by
  obtain ⟨last, broken⟩ := leg
  cases broken with
  | some cause => cases countDropped <;> rfl
  | none =>
      cases countDropped with
      | false => rfl
      | true =>
          exact (validator.count_from memory options.relaxed last.cursor).1

/-- A walk reports and writes the frames that its recording leg takes. -/
theorem unwind_recording (validator : Validator) (memory : Memory)
    (start : Word) (output : Output) (plan : WalkPlan) :
    let result := unwind validator memory start output plan
    let trail := plan.recording validator memory start output
    result.visits = trail.visits ∧
      result.frames = trail.visits.length - plan.skip ∧
      result.output = output.holding (trail.visits.drop plan.skip) := by
  obtain ⟨took, _⟩ := plan.record_initial validator memory start output
  obtain ⟨counted, outcome, equality⟩ :=
    validator.conclude_eq memory (plan.options validator) plan.countDropped
      (validator.record memory (plan.options validator)
        (plan.effectiveDepth output) (plan.initial start output))
  rw [unwind, equality]
  refine ⟨?_, took.frames, took.output⟩
  simp [Recording.result, took.visits]

/-- A walk is broken off where one of its legs is.  The counting leg goes on
from the cursor that the recording leg leaves. -/
theorem unwind_outcome (validator : Validator) (memory : Memory)
    (start : Word) (output : Output) (plan : WalkPlan) :
    (unwind validator memory start output plan).outcome =
      (plan.recording validator memory start output).stop.bind fun cursor =>
        if plan.countDropped then
          let counting := plan.counting validator memory cursor
          counting.stop.map fun _ => some counting.visits.length
        else .ok none := by
  obtain ⟨_, stopped⟩ := plan.record_initial validator memory start output
  rw [unwind, Validator.conclude_outcome, stopped]
  rfl

theorem unwind_counted (validator : Validator) (memory : Memory)
    (start : Word) (output : Output) (plan : WalkPlan) :
    (unwind validator memory start output plan).counted =
      match plan.countDropped,
        (plan.recording validator memory start output).stop with
      | true, .ok cursor => (plan.counting validator memory cursor).visits
      | _, _ => [] := by
  obtain ⟨_, stopped⟩ := plan.record_initial validator memory start output
  rw [unwind, Validator.conclude_counted, stopped]
  rfl

theorem unwind_ok_iff {start : Word} {output : Output} {plan : WalkPlan}
    {dropped : Option Nat} :
    (unwind validator memory start output plan).outcome = .ok dropped ↔
      ∃ cursor,
        (plan.recording validator memory start output).stop = .ok cursor ∧
        ((plan.countDropped = false ∧ dropped = none) ∨
          plan.countDropped = true ∧
            (∃ last,
              (plan.counting validator memory cursor).stop = .ok last) ∧
            dropped =
              some (plan.counting validator memory cursor).visits.length) := by
  rw [unwind_outcome]
  refine bind_eq_ok_iff.trans (exists_congr fun cursor => and_congr_right ?_)
  intro _
  cases plan.countDropped with
  | false => simp [eq_comm]
  | true =>
      cases stopped : (plan.counting validator memory cursor).stop with
      | error cause => simp [stopped, Except.map]
      | ok last => simp [stopped, Except.map, eq_comm]

theorem unwind_completes_iff {start : Word} {output : Output}
    {plan : WalkPlan} :
    (unwind validator memory start output plan).Completes ↔
      ∃ cursor,
        (plan.recording validator memory start output).stop = .ok cursor ∧
        (plan.countDropped = true →
          (plan.counting validator memory cursor).Completes) := by
  simp only [WalkResult.Completes, unwind_ok_iff]
  rw [exists_comm]
  refine exists_congr fun cursor => ?_
  rw [exists_and_left]
  refine and_congr_right fun _ => ?_
  cases plan.countDropped with
  | false => simp
  | true => simp [Trail.Completes]

end FrameChain
