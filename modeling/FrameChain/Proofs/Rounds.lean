import FrameChain.Proofs.Chain
import FrameChain.Proofs.Questions

/-!
# Rounds of a leg

Both legs of a walk are loops of one form: a frame is taken where the cursor
stands, something is done with it, and the cursor moves on.  Here such a loop
is followed round by round, together with the frames from which a transition is
made, one that a failed read breaks off included.

A run is a finite description, so a loop that has one ends.  On a cyclic chain
the cursor says nothing about how much is left, so a loop comes with a number
that each round brings down.
-/

namespace FrameChain

/-- What comes of looking at a frame, and the frames from which a transition is
made for it.  A transition that cannot be read was made all the same. -/
inductive Validator.Meets (validator : Validator) (memory : Memory)
    (options : WalkOptions) (cursor : Word) :
    List Word → Except Abort (Option Visit) → Prop where
  | unread {cause : Abort} :
      FrameRecord.read memory cursor = .error cause →
      Meets validator memory options cursor [] (.error cause)
  | noReturn {record : FrameRecord} :
      FrameRecord.read memory cursor = .ok record →
      record.returnAddress = 0 →
      Meets validator memory options cursor [] (.ok none)
  | unjudged {record : FrameRecord} {cause : Abort} :
      FrameRecord.read memory cursor = .ok record →
      record.returnAddress ≠ 0 →
      validator.nextFrame memory cursor options = .error cause →
      Meets validator memory options cursor [cursor] (.error cause)
  | taken {record : FrameRecord} {transition : Transition} :
      FrameRecord.read memory cursor = .ok record →
      record.returnAddress ≠ 0 →
      validator.nextFrame memory cursor options = .ok transition →
      Meets validator memory options cursor [cursor]
        (.ok (some ⟨record, transition.next.getD 0, transition.probed⟩))

/-- A leg of a walk as a loop, with what counts down in it. -/
structure Loop (State : Type) where
  cursor : State → Word
  /-- The frames that were taken, the latest first. -/
  visits : State → List Visit
  Goes : State → Prop
  /-- What is done with a frame that was taken. -/
  take : State → Visit → Except Abort State
  /-- What is left where the chain ends. -/
  close : State → State
  remaining : State → Nat
  /-- Whatever keeps a frame from being taken in, it is not a read. -/
  refuses : ∀ {state : State} {visit : Visit} {cause : Abort},
    take state visit = .error cause → cause ≠ .unmappedRead
  positive : ∀ {state : State}, Goes state → 0 < remaining state
  descends : ∀ {state next : State} {visit : Visit}, Goes state →
    take state visit = .ok next → remaining next < remaining state
  keeps : ∀ {state next : State} {visit : Visit},
    take state visit = .ok next → visits next = visit :: visits state
  closed : ∀ state : State, visits (close state) = visits state

/-- The rounds of a loop from a state on, and the frames from which transitions
are made in them. -/
inductive Loop.Runs {State : Type} (loop : Loop State) (validator : Validator)
    (memory : Memory) (options : WalkOptions) :
    State → List Word → Leg State → Prop where
  | ended {state : State} :
      ¬ loop.Goes state →
      Runs loop validator memory options state [] ⟨state, none⟩
  | broken {state : State} {made : List Word} {cause : Abort} :
      loop.Goes state →
      validator.Meets memory options (loop.cursor state) made
        (.error cause) →
      Runs loop validator memory options state made ⟨state, some cause⟩
  | last {state : State} {made : List Word} :
      loop.Goes state →
      validator.Meets memory options (loop.cursor state) made (.ok none) →
      Runs loop validator memory options state made ⟨loop.close state, none⟩
  | untaken {state : State} {made : List Word} {visit : Visit}
      {cause : Abort} :
      loop.Goes state →
      validator.Meets memory options (loop.cursor state) made
        (.ok (some visit)) →
      loop.take state visit = .error cause →
      Runs loop validator memory options state made ⟨state, some cause⟩
  | taken {state next : State} {made more : List Word} {visit : Visit}
      {leg : Leg State} :
      loop.Goes state →
      validator.Meets memory options (loop.cursor state) made
        (.ok (some visit)) →
      loop.take state visit = .ok next →
      Runs loop validator memory options next more leg →
      Runs loop validator memory options state (made ++ more) leg

/-- What a run that goes on with a function leaves after it has looked at a
frame. -/
def Loop.settle {State : Type} (loop : Loop State) (run : State → Leg State)
    (state : State) : Except Abort (Option Visit) → Leg State
  | .error cause => ⟨state, some cause⟩
  | .ok none => ⟨loop.close state, none⟩
  | .ok (some visit) =>
      match loop.take state visit with
      | .error cause => ⟨state, some cause⟩
      | .ok next => run next

/-- A function that does what a loop does, round by round. -/
structure Loop.RunBy {State : Type} (loop : Loop State) (validator : Validator)
    (memory : Memory) (options : WalkOptions) (run : State → Leg State) :
    Prop where
  finished : ∀ {state : State}, ¬ loop.Goes state → run state = ⟨state, none⟩
  round : ∀ {state : State}, loop.Goes state →
    run state = loop.settle run state
      (validator.visit memory options (loop.cursor state))

namespace Validator

variable {validator : Validator} {memory : Memory} {options : WalkOptions}

namespace Meets

variable {cursor : Word} {made : List Word}
  {found : Except Abort (Option Visit)} {visit : Visit}

theorem visit_eq (meets : validator.Meets memory options cursor made found) :
    validator.visit memory options cursor = found := by
  cases meets with
  | unread unread => simp [Validator.visit, unread, bind, Except.bind]
  | noReturn recordRead null =>
      exact visit_eq_none_iff.mpr ⟨_, recordRead, null⟩
  | unjudged recordRead returns failed =>
      simp [Validator.visit, recordRead, returns, failed, bind, Except.bind]
  | taken recordRead returns judged =>
      exact visit_eq_some_iff.mpr
        ⟨_, recordRead, returns, judged, rfl, rfl⟩

theorem length_le (meets : validator.Meets memory options cursor made found) :
    made.length ≤ 1 := by
  cases meets with
  | unread => exact Nat.zero_le 1
  | noReturn => exact Nat.zero_le 1
  | unjudged => exact Nat.le_refl 1
  | taken => exact Nat.le_refl 1

theorem asked_of_taken
    (meets : validator.Meets memory options cursor made (.ok (some visit))) :
    made.flatMap (validator.asked memory options) = visit.probed := by
  cases meets with
  | taken recordRead returns judged => simp [asked, judged]

theorem asked_of_not_taken
    (meets : validator.Meets memory options cursor made found)
    (nothing : ∀ visit, found ≠ .ok (some visit)) :
    made.flatMap (validator.asked memory options) = [] := by
  cases meets with
  | unread => rfl
  | noReturn => rfl
  | unjudged recordRead returns failed => simp [asked, failed]
  | taken => exact absurd rfl (nothing _)

end Meets

theorem exists_meets (validator : Validator) (memory : Memory)
    (options : WalkOptions) (cursor : Word) :
    ∃ made found, validator.Meets memory options cursor made found := by
  cases recordRead : FrameRecord.read memory cursor with
  | error cause => exact ⟨_, _, .unread recordRead⟩
  | ok record =>
      by_cases null : record.returnAddress = 0
      · exact ⟨_, _, .noReturn recordRead null⟩
      · cases judged : validator.nextFrame memory cursor options with
        | error cause => exact ⟨_, _, .unjudged recordRead null judged⟩
        | ok transition => exact ⟨_, _, .taken recordRead null judged⟩

end Validator

namespace Loop

variable {State : Type} {loop : Loop State} {validator : Validator}
  {memory : Memory} {options : WalkOptions} {state : State}
  {made : List Word} {leg : Leg State}

/-- Every loop ends, whatever the chain: the induction is on what counts down
in it. -/
theorem exists_runs (loop : Loop State) (validator : Validator)
    (memory : Memory) (options : WalkOptions) (state : State) :
    ∃ made leg, loop.Runs validator memory options state made leg := by
  induction bound : loop.remaining state using Nat.strongRecOn
      generalizing state with
  | ind bound ih =>
      subst bound
      by_cases going : loop.Goes state
      · obtain ⟨made, found, meets⟩ :=
          validator.exists_meets memory options (loop.cursor state)
        cases found with
        | error cause => exact ⟨_, _, .broken going meets⟩
        | ok found =>
            cases found with
            | none => exact ⟨_, _, .last going meets⟩
            | some visit =>
                cases taken : loop.take state visit with
                | error cause => exact ⟨_, _, .untaken going meets taken⟩
                | ok next =>
                    obtain ⟨more, leg, runs⟩ :=
                      ih _ (loop.descends going taken) next rfl
                    exact ⟨_, _, .taken going meets taken runs⟩
      · exact ⟨_, _, .ended going⟩

theorem made_le {found : Except Abort (Option Visit)}
    (going : loop.Goes state)
    (meets : validator.Meets memory options (loop.cursor state) made found) :
    made.length ≤ loop.remaining state :=
  Nat.le_trans meets.length_le (loop.positive going)

theorem Runs.length_le
    (runs : loop.Runs validator memory options state made leg) :
    made.length ≤ loop.remaining state := by
  induction runs with
  | ended => exact Nat.zero_le _
  | broken going meets => exact made_le going meets
  | last going meets => exact made_le going meets
  | untaken going meets => exact made_le going meets
  | taken going meets taken _ ih =>
      have one := meets.length_le
      have fewer := loop.descends going taken
      rw [List.length_append]
      omega

/-- Where only a read can break a run off, what is kept with the frames that it
takes is what its transitions ask. -/
theorem Runs.probed
    (runs : loop.Runs validator memory options state made leg)
    (reads : ∀ cause, leg.broken = some cause → cause = .unmappedRead) :
    (loop.visits leg.last).reverse.flatMap (·.probed) =
      (loop.visits state).reverse.flatMap (·.probed) ++
        made.flatMap (validator.asked memory options) := by
  induction runs with
  | ended => simp
  | broken going meets =>
      rw [meets.asked_of_not_taken (by simp), List.append_nil]
  | last going meets =>
      rw [meets.asked_of_not_taken (by simp), List.append_nil, loop.closed]
  | untaken going meets refused =>
      -- What was asked for this frame is kept nowhere.
      exact absurd (reads _ rfl) (loop.refuses refused)
  | taken going meets taken _ ih =>
      rw [ih reads, loop.keeps taken, List.flatMap_append, meets.asked_of_taken]
      simp

theorem Runs.eq_run {run : State → Leg State}
    (law : loop.RunBy validator memory options run)
    (runs : loop.Runs validator memory options state made leg) :
    leg = run state := by
  induction runs with
  | ended finished => rw [law.finished finished]
  | broken going meets => rw [law.round going, meets.visit_eq, settle]
  | last going meets => rw [law.round going, meets.visit_eq, settle]
  | untaken going meets refused =>
      rw [law.round going, meets.visit_eq, settle, refused]
  | taken going meets taken _ ih =>
      rw [law.round going, meets.visit_eq, settle, taken]
      exact ih

end Loop

end FrameChain
