import FrameChain.Proofs.Trail

/-!
# Positions of a chain

The frame pointers of a chain are numbered from its start on, one transition
from each to the next.  A trail goes through the first positions, up to one
where no frame can be taken, and everything that it keeps is said by the frame
pointers at its positions.
-/

namespace FrameChain

/-- The caller of a frame, 0 where the chain ends.  It is also 0 where the
transition cannot be read, but no trail goes on from there. -/
def Validator.caller (validator : Validator) (memory : Memory)
    (options : WalkOptions) (framePointer : Word) : Word :=
  match validator.nextFrame memory framePointer options with
  | .ok transition => transition.next.getD 0
  | .error _ => 0

def Validator.chain (validator : Validator) (memory : Memory)
    (options : WalkOptions) (start : Word) : Nat → Word
  | 0 => start
  | position + 1 =>
      validator.caller memory options
        (validator.chain memory options start position)

/-- Neither the frame pointer nor the return address stored above it is
null. -/
def Memory.holdsFrame (memory : Memory) (framePointer : Word) : Bool :=
  framePointer != 0 &&
    match FrameRecord.read memory framePointer with
    | .ok record => record.returnAddress != 0
    | .error _ => false

/-- The number of leading indices below a bound at which a property holds. -/
def leading (holds : Nat → Bool) (bound : Nat) : Nat :=
  ((List.range bound).takeWhile holds).length

/-- How a trail that took some frames ended, by the frame pointer after
them. -/
inductive Validator.Ends (validator : Validator) (memory : Memory)
    (options : WalkOptions) (budget taken : Nat) (framePointer : Word) :
    Except Abort Word → Prop where
  | spent : taken = budget →
      Ends validator memory options budget taken framePointer
        (.ok framePointer)
  | null : taken < budget → framePointer = 0 →
      Ends validator memory options budget taken framePointer (.ok 0)
  | noReturn : taken < budget → framePointer ≠ 0 →
      validator.visit memory options framePointer = .ok none →
      Ends validator memory options budget taken framePointer (.ok 0)
  | broken : taken < budget → framePointer ≠ 0 →
      validator.visit memory options framePointer = .error cause →
      Ends validator memory options budget taken framePointer (.error cause)

theorem leading_eq {holds : Nat → Bool} {bound count : Nat}
    (within : count ≤ bound) (early : ∀ index < count, holds index)
    (stops : count < bound → holds count = false) :
    leading holds bound = count := by
  obtain ⟨rest, rfl⟩ := Nat.exists_eq_add_of_le within
  have first : ∀ index ∈ List.range count, holds index := by
    intro index member
    exact early index (List.mem_range.mp member)
  have second : ((List.range rest).map (count + ·)).takeWhile holds = [] := by
    cases rest with
    | zero => rfl
    | succ rest =>
        have stopped : holds count = false := stops (by omega)
        simp [List.range_succ_eq_map, stopped]
  rw [leading, List.range_add, List.takeWhile_append_of_pos first, second]
  simp

theorem exists_leading (holds : Nat → Bool) (bound : Nat) :
    ∃ count ≤ bound, (∀ index < count, holds index) ∧
      (count < bound → holds count = false) := by
  induction bound with
  | zero => exact ⟨0, Nat.le_refl 0, by simp, by simp⟩
  | succ bound ih =>
      obtain ⟨count, within, early, stops⟩ := ih
      by_cases all : count = bound
      · subst all
        cases last : holds count with
        | false =>
            exact ⟨count, Nat.le_succ count, early, fun _ => last⟩
        | true =>
            refine ⟨count + 1, Nat.le_refl _, ?_, by omega⟩
            intro index below
            rcases Nat.lt_succ_iff_lt_or_eq.mp below with earlier | same
            · exact early index earlier
            · exact same ▸ last
      · exact ⟨count, by omega, early, fun _ => stops (by omega)⟩

theorem min_leading (holds : Nat → Bool) {smaller bound : Nat}
    (below : smaller ≤ bound) :
    min smaller (leading holds bound) = leading holds smaller := by
  obtain ⟨count, within, early, stops⟩ := exists_leading holds bound
  rw [leading_eq within early stops]
  symm
  apply leading_eq
  · exact Nat.min_le_left _ _
  · intro index earlier
    exact early index (by omega)
  · intro stopped
    have same : min smaller count = count := by omega
    rw [same]
    exact stops (by omega)

theorem Memory.holdsFrame_iff {memory : Memory} {framePointer : Word} :
    memory.holdsFrame framePointer ↔
      framePointer ≠ 0 ∧ ∃ record,
        FrameRecord.read memory framePointer = .ok record ∧
          record.returnAddress ≠ 0 := by
  unfold holdsFrame
  cases FrameRecord.read memory framePointer with
  | error cause => simp
  | ok record => simp

variable {validator : Validator} {memory : Memory} {options : WalkOptions}

theorem Validator.visit_eq_some_iff {cursor : Word} {visit : Visit} :
    validator.visit memory options cursor = .ok (some visit) ↔
      ∃ transition,
        FrameRecord.read memory cursor = .ok visit.record ∧
        visit.record.returnAddress ≠ 0 ∧
        validator.nextFrame memory cursor options = .ok transition ∧
        visit.next = transition.next.getD 0 ∧
        visit.probed = transition.probed := by
  obtain ⟨record, next, probed⟩ := visit
  rw [Validator.visit, bind_eq_ok_iff]
  constructor
  · intro ⟨found, recordRead, rest⟩
    split at rest
    · cases rest
    next returns =>
      obtain ⟨transition, judged, whole⟩ := bind_eq_ok_iff.mp rest
      cases whole
      exact ⟨transition, recordRead, returns, judged, rfl, rfl⟩
  · rintro ⟨transition, recordRead, returns, judged, rfl, rfl⟩
    refine ⟨record, recordRead, ?_⟩
    rw [if_neg returns]
    exact bind_eq_ok_iff.mpr ⟨transition, judged, rfl⟩

theorem Validator.visit_eq_none_iff {cursor : Word} :
    validator.visit memory options cursor = .ok none ↔
      ∃ record, FrameRecord.read memory cursor = .ok record ∧
        record.returnAddress = 0 := by
  rw [Validator.visit, bind_eq_ok_iff]
  constructor
  · intro ⟨record, recordRead, rest⟩
    split at rest
    next null => exact ⟨record, recordRead, null⟩
    · obtain ⟨transition, _, whole⟩ := bind_eq_ok_iff.mp rest
      cases whole
  · intro ⟨record, recordRead, null⟩
    exact ⟨record, recordRead, if_pos null⟩

theorem Validator.caller_of_visit {cursor : Word} {visit : Visit}
    (visited : validator.visit memory options cursor = .ok (some visit)) :
    validator.caller memory options cursor = visit.next := by
  obtain ⟨transition, _, _, judged, next, _⟩ := visit_eq_some_iff.mp visited
  simp [caller, judged, next]

theorem Memory.holdsFrame_of_visit {cursor : Word} {visit : Visit}
    (nonzero : cursor ≠ 0)
    (visited : validator.visit memory options cursor = .ok (some visit)) :
    memory.holdsFrame cursor := by
  obtain ⟨_, recordRead, returns, _⟩ :=
    Validator.visit_eq_some_iff.mp visited
  exact holdsFrame_iff.mpr ⟨nonzero, visit.record, recordRead, returns⟩

theorem Memory.holdsFrame_of_noReturn {cursor : Word}
    (visited : validator.visit memory options cursor = .ok none) :
    memory.holdsFrame cursor = false := by
  obtain ⟨record, recordRead, null⟩ := Validator.visit_eq_none_iff.mp visited
  simp [holdsFrame, recordRead, null]

theorem Validator.chain_succ (start : Word) (position : Nat) :
    validator.chain memory options start (position + 1) =
      validator.chain memory options
        (validator.caller memory options start) position := by
  induction position with
  | zero => rfl
  | succ position ih =>
      rw [chain, ih]
      rfl

/-- The frames of a trail are those at the first positions of the chain. -/
theorem Validator.trail_visit {budget position : Nat} {start : Word}
    {visit : Visit}
    (taken : (validator.trail memory options budget start).visits[position]? =
      some visit) :
    validator.chain memory options start position ≠ 0 ∧
      validator.visit memory options
        (validator.chain memory options start position) = .ok (some visit) := by
  induction budget generalizing start position with
  | zero => simp at taken
  | succ budget ih =>
      by_cases null : start = 0
      · simp [null] at taken
      · cases visited : validator.visit memory options start with
        | error cause => simp [trail_error null visited] at taken
        | ok found =>
            cases found with
            | none => simp [trail_none null visited] at taken
            | some first =>
                rw [trail_some null visited, Trail.after_visits] at taken
                cases position with
                | zero =>
                    have same : first = visit := by simpa using taken
                    exact ⟨null, same ▸ visited⟩
                | succ position =>
                    rw [chain_succ, caller_of_visit visited]
                    exact ih (by simpa using taken)

theorem Validator.Ends.succ {budget taken : Nat} {framePointer : Word}
    {stop : Except Abort Word}
    (ends : validator.Ends memory options budget taken framePointer stop) :
    validator.Ends memory options (budget + 1) (taken + 1) framePointer
      stop := by
  cases ends with
  | spent all => exact .spent (by omega)
  | null early zero => exact .null (by omega) zero
  | noReturn early nonzero last => exact .noReturn (by omega) nonzero last
  | broken early nonzero last => exact .broken (by omega) nonzero last

theorem Validator.Ends.taken_le {budget taken : Nat} {framePointer : Word}
    {stop : Except Abort Word}
    (ends : validator.Ends memory options budget taken framePointer stop) :
    taken ≤ budget := by
  cases ends with
  | spent all => exact Nat.le_of_eq all
  | null early => exact Nat.le_of_lt early
  | noReturn early => exact Nat.le_of_lt early
  | broken early => exact Nat.le_of_lt early

theorem Validator.Ends.stops_early {budget taken : Nat}
    {framePointer cursor : Word}
    (ends : validator.Ends memory options budget taken framePointer
      (.ok cursor)) (early : taken < budget) :
    memory.holdsFrame framePointer = false := by
  cases ends with
  | spent all => exact absurd all (Nat.ne_of_lt early)
  | null _ zero => simp [Memory.holdsFrame, zero]
  | noReturn _ _ last => exact Memory.holdsFrame_of_noReturn last

theorem Validator.Ends.cursor_eq {budget taken : Nat}
    {framePointer cursor : Word}
    (ends : validator.Ends memory options budget taken framePointer
      (.ok cursor)) :
    cursor = if taken = budget then framePointer else 0 := by
  cases ends with
  | spent all => rw [if_pos all]
  | null early => rw [if_neg (Nat.ne_of_lt early)]
  | noReturn early => rw [if_neg (Nat.ne_of_lt early)]

theorem Validator.trail_ends (validator : Validator) (memory : Memory)
    (options : WalkOptions) (budget : Nat) (start : Word) :
    let trail := validator.trail memory options budget start
    validator.Ends memory options budget trail.visits.length
      (validator.chain memory options start trail.visits.length)
      trail.stop := by
  induction budget generalizing start with
  | zero => exact .spent rfl
  | succ budget ih =>
      by_cases null : start = 0
      · subst null
        rw [trail_null]
        exact .null (by simp) rfl
      · cases visited : validator.visit memory options start with
        | error cause =>
            rw [trail_error null visited]
            exact .broken (by simp) null visited
        | ok found =>
            cases found with
            | none =>
                rw [trail_none null visited]
                exact .noReturn (by simp) null visited
            | some first =>
                rw [trail_some null visited]
                simp only [Trail.after_visits, Trail.after_stop,
                  List.length_cons, chain_succ, caller_of_visit visited]
                exact (ih first.next).succ

/-- A trail that is not broken off takes the leading frames of its chain, and
leaves 0 unless its budget is spent. -/
theorem Validator.trail_completes {budget : Nat} {start cursor : Word}
    (completes : (validator.trail memory options budget start).stop =
      .ok cursor) :
    let length := leading
      (fun position => memory.holdsFrame
        (validator.chain memory options start position)) budget
    (validator.trail memory options budget start).visits.length = length ∧
      cursor =
        if length = budget then validator.chain memory options start length
        else 0 := by
  have ends := validator.trail_ends memory options budget start
  simp only [completes] at ends
  have early : ∀ position <
      (validator.trail memory options budget start).visits.length,
      memory.holdsFrame (validator.chain memory options start position) := by
    intro position below
    obtain ⟨nonzero, visited⟩ :=
      trail_visit (List.getElem?_eq_getElem below)
    exact Memory.holdsFrame_of_visit nonzero visited
  have length := leading_eq ends.taken_le early
    (fun stopped => ends.stops_early stopped)
  simp only [length, true_and]
  exact ends.cursor_eq

end FrameChain
