import FrameChain.Proofs.Fault
import FrameChain.Proofs.Rounds

/-!
# How much a walk does

The two legs of a walk are loops.  What counts down in the recording leg is the
number of frames that may still be skipped or written: a skipped frame does not
bring the walk closer to its depth, but it uses up one that was to be skipped.
In the counting leg it is the number of frames that may still be counted.
-/

namespace FrameChain

def Recording.skipped (state : Recording) (visit : Visit) : Recording :=
  { state with
    cursor := visit.next
    skip := state.skip - 1
    visits := visit :: state.visits }

def Recording.written (state : Recording) (visit : Visit) (output : Output) :
    Recording :=
  { state with
    cursor := visit.next
    frames := state.frames + 1
    output
    visits := visit :: state.visits }

/-- A frame is skipped or written. -/
def Recording.take (state : Recording) (visit : Visit) :
    Except Abort Recording :=
  if 0 < state.skip then
    .ok (state.skipped visit)
  else do
    let output ← state.output.record state.frames visit.returnAddress visit.size
    pure (state.written visit output)

def Counting.counted (state : Counting) (visit : Visit) : Counting :=
  { cursor := visit.next
    dropped := state.dropped + 1
    visits := visit :: state.visits }

theorem Recording.take_eq_ok {state next : Recording} {visit : Visit}
    (taken : state.take visit = .ok next) :
    (0 < state.skip ∧ next = state.skipped visit) ∨
      ¬ 0 < state.skip ∧ ∃ output,
        state.output.record state.frames visit.returnAddress visit.size =
          .ok output ∧
        next = state.written visit output := by
  unfold take at taken
  split at taken
  next remaining =>
    cases taken
    exact .inl ⟨remaining, rfl⟩
  next done =>
    obtain ⟨output, written, whole⟩ := bind_eq_ok_iff.mp taken
    cases whole
    exact .inr ⟨done, output, written, rfl⟩

theorem Recording.take_error {state : Recording} {visit : Visit}
    {cause : Abort} (refused : state.take visit = .error cause) :
    cause ≠ .unmappedRead := by
  unfold take at refused
  split at refused
  · cases refused
  · rcases bind_eq_error_iff.mp refused with past | ⟨_, _, whole⟩
    · obtain ⟨length, rfl⟩ := Output.record_error past
      intro same
      cases same
    · cases whole

theorem Recording.take_visits {state next : Recording} {visit : Visit}
    (taken : state.take visit = .ok next) :
    next.visits = visit :: state.visits := by
  rcases take_eq_ok taken with ⟨_, rfl⟩ | ⟨_, _, _, rfl⟩
  · rfl
  · rfl

/-- Whether it is skipped or written, a frame uses up one of those that the leg
may still take. -/
theorem Recording.take_budget {depth : Nat} {state next : Recording}
    {visit : Visit} (going : state.frames < depth)
    (taken : state.take visit = .ok next) :
    state.budget depth = next.budget depth + 1 := by
  rcases take_eq_ok taken with ⟨remaining, rfl⟩ | ⟨done, output, _, rfl⟩
  · exact budget_skipped going remaining visit
  · exact budget_recorded going done visit output

namespace Loop

def recording (depth : Nat) : Loop Recording where
  cursor := (·.cursor)
  visits := (·.visits)
  Goes state := state.cursor ≠ 0 ∧ state.frames < depth
  take := Recording.take
  close state := { state with cursor := 0 }
  remaining := Recording.budget depth
  positive := by
    intro state going
    obtain ⟨rest, budget⟩ := state.budget_succ going.2
    omega
  descends := by
    intro state next visit going taken
    rw [Recording.take_budget going.2 taken]
    exact Nat.lt_succ_self _
  refuses := Recording.take_error
  keeps := Recording.take_visits
  closed _ := rfl

def counting : Loop Counting where
  cursor := (·.cursor)
  visits := (·.visits)
  Goes state := state.cursor ≠ 0 ∧ state.dropped < maxDroppedFrames
  take state visit := .ok (state.counted visit)
  close := id
  remaining state := maxDroppedFrames - state.dropped
  refuses := by
    intro state visit cause refused
    cases refused
  positive going := Nat.sub_pos_of_lt going.2
  descends := by
    intro state next visit going taken
    cases taken
    exact Nat.sub_succ_lt_self _ _ going.2
  keeps := by
    intro state next visit taken
    cases taken
    rfl
  closed _ := rfl

end Loop

/-- A walk, leg after leg, with the frames from which transitions are made in
either. -/
inductive WalkPlan.Walks (plan : WalkPlan) (validator : Validator)
    (memory : Memory) (start : Word) (output : Output) :
    List Word → List Word → WalkResult → Prop where
  | broken {recording : List Word} {last : Recording} {cause : Abort} :
      (Loop.recording (plan.effectiveDepth output)).Runs validator memory
        (plan.options validator) (plan.initial start output) recording
        ⟨last, some cause⟩ →
      Walks plan validator memory start output recording []
        (last.result [] (.error cause))
  | uncounted {recording : List Word} {last : Recording} :
      (Loop.recording (plan.effectiveDepth output)).Runs validator memory
        (plan.options validator) (plan.initial start output) recording
        ⟨last, none⟩ →
      plan.countDropped = false →
      Walks plan validator memory start output recording []
        (last.result [] (.ok none))
  | lost {recording counting : List Word} {last : Recording}
      {reached : Counting} {cause : Abort} :
      (Loop.recording (plan.effectiveDepth output)).Runs validator memory
        (plan.options validator) (plan.initial start output) recording
        ⟨last, none⟩ →
      plan.countDropped = true →
      Loop.counting.Runs validator memory (plan.options validator).relaxed
        { cursor := last.cursor, dropped := 0, visits := [] } counting
        ⟨reached, some cause⟩ →
      Walks plan validator memory start output recording counting
        (last.result reached.visits.reverse (.error cause))
  | counted {recording counting : List Word} {last : Recording}
      {reached : Counting} :
      (Loop.recording (plan.effectiveDepth output)).Runs validator memory
        (plan.options validator) (plan.initial start output) recording
        ⟨last, none⟩ →
      plan.countDropped = true →
      Loop.counting.Runs validator memory (plan.options validator).relaxed
        { cursor := last.cursor, dropped := 0, visits := [] } counting
        ⟨reached, none⟩ →
      Walks plan validator memory start output recording counting
        (last.result reached.visits.reverse (.ok (some reached.dropped)))

/-- How much a walk does: the transitions of its legs, and what they ask the
probe. -/
structure WalkPlan.Effort (plan : WalkPlan) (validator : Validator)
    (memory : Memory) (output : Output) (recording counting : List Word)
    (result : WalkResult) : Prop where
  recorded : recording.length ≤ plan.skip + min plan.depth output.capacity
  counted : counting.length ≤ 1000
  uncounted : plan.countDropped = false → counting = []
  probed : result.probed =
    recording.flatMap (validator.asked memory (plan.options validator)) ++
      counting.flatMap
        (validator.asked memory (plan.options validator).relaxed)
  quiet : plan.strict = true → plan.countDropped = false →
    (∀ current ∈ recording, ∀ registers,
      ¬ validator.AtTrampoline memory (plan.options validator) current
        registers) →
    result.probed = []

namespace Loop

theorem record_runBy (validator : Validator) (memory : Memory)
    (options : WalkOptions) (depth : Nat) :
    (recording depth).RunBy validator memory options
      (validator.record memory options depth) := by
  constructor
  case finished =>
    intro state finished
    rw [Validator.record]
    exact if_neg finished
  case round =>
    intro state going
    rw [Validator.record]
    refine (if_pos going).trans ?_
    simp only [recording]
    cases validator.visit memory options state.cursor with
    | error cause => rfl
    | ok found =>
        cases found with
        | none => rfl
        | some visit =>
            simp only [settle, Recording.take]
            split
            · rfl
            · cases state.output.record state.frames visit.returnAddress
                visit.size <;> rfl

theorem count_runBy (validator : Validator) (memory : Memory)
    (options : WalkOptions) :
    counting.RunBy validator memory options
      (validator.count memory options) := by
  constructor
  case finished =>
    intro state finished
    rw [Validator.count]
    exact if_neg finished
  case round =>
    intro state going
    rw [Validator.count]
    refine (if_pos going).trans ?_
    simp only [counting]
    cases validator.visit memory options state.cursor with
    | error cause => rfl
    | ok found => cases found <;> rfl

end Loop

namespace WalkPlan

variable {plan : WalkPlan} {validator : Validator} {memory : Memory}
  {start : Word} {output : Output} {recording counting : List Word}
  {result : WalkResult}

theorem exists_walks (plan : WalkPlan) (validator : Validator)
    (memory : Memory) (start : Word) (output : Output) :
    ∃ recording counting result,
      plan.Walks validator memory start output recording counting result := by
  obtain ⟨recording, ⟨last, broken⟩, recorded⟩ :=
    (Loop.recording (plan.effectiveDepth output)).exists_runs validator memory
      (plan.options validator) (plan.initial start output)
  cases broken with
  | some cause => exact ⟨_, _, _, .broken recorded⟩
  | none =>
      cases wanted : plan.countDropped with
      | false => exact ⟨_, _, _, .uncounted recorded wanted⟩
      | true =>
          obtain ⟨counting, ⟨reached, broken⟩, counted⟩ :=
            Loop.counting.exists_runs validator memory
              (plan.options validator).relaxed
              { cursor := last.cursor, dropped := 0, visits := [] }
          cases broken with
          | some cause => exact ⟨_, _, _, .lost recorded wanted counted⟩
          | none => exact ⟨_, _, _, .counted recorded wanted counted⟩

/-- The walk that is followed is the one that runs. -/
theorem Walks.eq_unwind
    (walks : plan.Walks validator memory start output recording counting
      result) :
    result = unwind validator memory start output plan := by
  have records := Loop.record_runBy validator memory (plan.options validator)
    (plan.effectiveDepth output)
  have counts := Loop.count_runBy validator memory
    (plan.options validator).relaxed
  simp only [unwind, Validator.conclude]
  cases walks with
  | broken recorded => rw [← recorded.eq_run records]
  | uncounted recorded unwanted =>
      rw [← recorded.eq_run records, unwanted]
      rfl
  | lost recorded wanted counted =>
      rw [← recorded.eq_run records, wanted]
      simp only [↓reduceIte, ← counted.eq_run counts]
  | counted recorded wanted counted =>
      rw [← recorded.eq_run records, wanted]
      simp only [↓reduceIte, ← counted.eq_run counts]

theorem Walks.recording_runs
    (walks : plan.Walks validator memory start output recording counting
      result) :
    ∃ leg, (Loop.recording (plan.effectiveDepth output)).Runs validator memory
        (plan.options validator) (plan.initial start output) recording leg ∧
      result.visits = leg.last.visits.reverse ∧
      ∀ cause, leg.broken = some cause → result.outcome = .error cause := by
  cases walks with
  | broken recorded =>
      refine ⟨_, recorded, rfl, ?_⟩
      rintro cause ⟨⟩
      rfl
  | uncounted recorded => exact ⟨_, recorded, rfl, by simp⟩
  | lost recorded => exact ⟨_, recorded, rfl, by simp⟩
  | counted recorded => exact ⟨_, recorded, rfl, by simp⟩

theorem Walks.counting_runs
    (walks : plan.Walks validator memory start output recording counting
      result) :
    (counting = [] ∧ result.counted = []) ∨
      plan.countDropped = true ∧ ∃ cursor leg,
        Loop.counting.Runs validator memory (plan.options validator).relaxed
          { cursor, dropped := 0, visits := [] } counting leg ∧
        result.counted = leg.last.visits.reverse ∧
        ∀ cause, leg.broken = some cause → result.outcome = .error cause := by
  cases walks with
  | broken => exact .inl ⟨rfl, rfl⟩
  | uncounted => exact .inl ⟨rfl, rfl⟩
  | lost _ wanted counted =>
      refine .inr ⟨wanted, _, _, counted, rfl, ?_⟩
      rintro cause ⟨⟩
      rfl
  | counted _ wanted counted =>
      exact .inr ⟨wanted, _, _, counted, rfl, by simp⟩

theorem initial_budget_le (plan : WalkPlan) (start : Word) (output : Output) :
    (plan.initial start output).budget (plan.effectiveDepth output) ≤
      plan.skip + min plan.depth output.capacity := by
  unfold Recording.budget
  split
  · exact Nat.le_refl _
  · exact Nat.zero_le _

theorem Walks.unmapped {cause : Abort}
    (walks : plan.Walks validator memory start output recording counting
      result) (broken : result.outcome = .error cause) :
    cause = .unmappedRead := by
  rw [walks.eq_unwind] at broken
  exact unwind_error broken

theorem Walks.recording_asked
    (walks : plan.Walks validator memory start output recording counting
      result) :
    result.visits.flatMap (·.probed) =
      recording.flatMap
        (validator.asked memory (plan.options validator)) := by
  obtain ⟨leg, recorded, visits, broken⟩ := walks.recording_runs
  rw [visits]
  exact recorded.probed fun cause off => walks.unmapped (broken cause off)

theorem Walks.counting_asked
    (walks : plan.Walks validator memory start output recording counting
      result) :
    result.counted.flatMap (·.probed) =
      counting.flatMap
        (validator.asked memory (plan.options validator).relaxed) := by
  rcases walks.counting_runs with
    ⟨rfl, nothing⟩ | ⟨_, cursor, leg, counted, visits, broken⟩
  · rw [nothing]
    rfl
  · rw [visits]
    exact counted.probed fun cause off => walks.unmapped (broken cause off)

theorem Walks.counting_eq_nil
    (walks : plan.Walks validator memory start output recording counting
      result) (unwanted : plan.countDropped = false) : counting = [] := by
  rcases walks.counting_runs with ⟨nothing, _⟩ | ⟨wanted, _⟩
  · exact nothing
  · cases unwanted.symm.trans wanted

theorem Walks.probed
    (walks : plan.Walks validator memory start output recording counting
      result) :
    result.probed =
      recording.flatMap (validator.asked memory (plan.options validator)) ++
        counting.flatMap
          (validator.asked memory (plan.options validator).relaxed) := by
  rw [WalkResult.probed, List.flatMap_append, walks.recording_asked,
    walks.counting_asked]

theorem Walks.effort
    (walks : plan.Walks validator memory start output recording counting
      result) :
    plan.Effort validator memory output recording counting result := by
  constructor
  case recorded =>
    obtain ⟨leg, recorded, _⟩ := walks.recording_runs
    exact Nat.le_trans recorded.length_le (plan.initial_budget_le start output)
  case counted =>
    rcases walks.counting_runs with ⟨rfl, _⟩ | ⟨_, _, _, counted, _⟩
    · exact Nat.zero_le _
    · exact counted.length_le
  case uncounted => exact walks.counting_eq_nil
  case probed => exact walks.probed
  case quiet =>
    intro strict unwanted elsewhere
    rw [walks.probed, walks.counting_eq_nil unwanted, List.flatMap_nil,
      List.append_nil, List.flatMap_eq_nil_iff]
    intro current member
    exact (validator.asks memory (plan.options validator) current).never strict
      (elsewhere current member)

end WalkPlan

/-- Every walk ends, on every chain.  Its recording leg makes no more transitions
than there are frames to skip and to write, its counting leg at most 1000.  A
transition asks the probe at most twice.  Away from the trampoline, as it always
is when the analysis needs no correction, it asks at most once, and nothing if it
is strict, so a strict walk that stays away from there and counts nothing does
not ask the probe at all. -/
theorem unwind_bounded (validator : Validator) (memory : Memory)
    (start : Word) (output : Output) (plan : WalkPlan) :
    (∃ recording counting,
      plan.Walks validator memory start output recording counting
        (unwind validator memory start output plan)) ∧
    (∀ recording counting result,
      plan.Walks validator memory start output recording counting result →
        result = unwind validator memory start output plan ∧
        plan.Effort validator memory output recording counting result) ∧
    ∀ options current,
      validator.Asks memory options current
        (validator.asked memory options current) := by
  refine ⟨?_, ?_, validator.asks memory⟩
  · obtain ⟨recording, counting, result, walks⟩ :=
      plan.exists_walks validator memory start output
    exact ⟨recording, counting, walks.eq_unwind ▸ walks⟩
  · intro recording counting result walks
    exact ⟨walks.eq_unwind, walks.effort⟩

/-- Two frames that are linked to each other. -/
def Memory.roundabout : Memory :=
  .page 0x1000
    [(0x1000, 0x1010), (0x1008, 1), (0x1010, 0x1000), (0x1018, 2)]

/-- The context frame is passed again and again, until all is skipped and written
that may be.  The trampoline is known, but the signal did not arrive there. -/
theorem unwind_bounded_roundabout :
    let memory := Memory.roundabout
    let validator : Validator :=
      ⟨some ⟨0x1000, 0x1000, 0x800A⟩, ⟨0x8000, 0x7000, 3⟩, .ofMemory memory⟩
    let output : Output := .addressesOnly [0, 0, 0, 0]
    let plan : WalkPlan := ⟨4, 2, true, false⟩
    let result := unwind validator memory 0x1000 output plan
    (plan.strict = true ∧ plan.countDropped = false ∧
      ∀ current registers, ¬ validator.AtTrampoline memory
        (plan.options validator) current registers) ∧
    result.visits.length = 6 ∧ result.probed = [] ∧
    ∃ recording counting,
      plan.Walks validator memory 0x1000 output recording counting result ∧
      recording.length ≤ 6 ∧ counting = [] := by
  intro memory validator output plan result
  have elsewhere : ∀ current registers, ¬ validator.AtTrampoline memory
      (plan.options validator) current registers := by
    intro current registers here
    cases here.context
    exact absurd here.inWindow (by decide)
  have six : result.visits.length = 6 := by decide +kernel
  obtain ⟨ends, bounded, _⟩ :=
    unwind_bounded validator memory 0x1000 output plan
  obtain ⟨recording, counting, walks⟩ := ends
  obtain ⟨_, effort⟩ := bounded recording counting result walks
  have quiet := effort.quiet rfl rfl fun current _ => elsewhere current
  exact ⟨⟨rfl, rfl, elsewhere⟩, six, quiet, recording, counting, walks,
    effort.recorded, effort.uncounted rfl⟩

end FrameChain
