import Mathlib.Data.List.Nodup
import FrameChain.Proofs.Account

/-!
# Frames that are visited again

Without a correction a strict transition goes up, except to the frame that the
signal context points at, which may lie anywhere.  So a strict walk comes back
to a frame only by way of the context frame.

Nothing keeps it from that.  A chain that leads from the context frame back to
it is followed round and round, and ends only when the walk has gone as far as
it may.
-/

namespace FrameChain

/-- Before a bound, a chain comes back to a frame by way of the frame that the
context points at. -/
def Validator.ComesBack (validator : Validator) (memory : Memory)
    (options : WalkOptions) (start : Word) (bound : Nat) : Prop :=
  ∃ last < bound, ∃ between ≤ last, ∃ first < between,
    validator.chain memory options start first =
        validator.chain memory options start last ∧
      validator.chain memory options start between = validator.contextFrame

instance (validator : Validator) (memory : Memory) (options : WalkOptions)
    (start : Word) (bound : Nat) :
    Decidable (validator.ComesBack memory options start bound) :=
  inferInstanceAs (Decidable (∃ last < bound, ∃ between ≤ last, _))

variable {validator : Validator} {memory : Memory} {options : WalkOptions}

theorem Validator.caller_above
    (uncorrected : ¬ validator.analysis.NeedsCorrection)
    (strict : options.strict = true) {framePointer : Word}
    (going : validator.caller memory options framePointer ≠ 0)
    (elsewhere : validator.caller memory options framePointer ≠
      validator.contextFrame) :
    framePointer < validator.caller memory options framePointer := by
  rw [caller, nextFrame_of_uncorrected uncorrected] at going elsewhere ⊢
  cases linkRead : memory.readWord framePointer with
  | error cause => simp [linkRead, Except.map] at going
  | ok link =>
      simp only [linkRead, Except.map] at going elsewhere ⊢
      cases accepted : (validator.judge options framePointer link).next with
      | none => simp [accepted] at going
      | some next =>
          simp only [accepted, Option.getD_some] at elsewhere ⊢
          obtain ⟨_, _, different, _, placed, _⟩ :=
            judge_next_eq_some_iff.mp accepted
          rcases placed strict with anchored | near
          · exact absurd anchored.2 elsewhere
          · exact UInt64.lt_of_le_of_ne near.1 (Ne.symm different)

theorem Validator.chain_ascends
    (uncorrected : ¬ validator.analysis.NeedsCorrection)
    (strict : options.strict = true) {start : Word} {first last : Nat}
    (before : first < last)
    (frames : ∀ position ≤ last,
      validator.chain memory options start position ≠ 0)
    (elsewhere : ∀ between, first < between → between ≤ last →
      validator.chain memory options start between ≠ validator.contextFrame) :
    validator.chain memory options start first <
      validator.chain memory options start last := by
  induction last with
  | zero => exact absurd before (Nat.not_lt_zero first)
  | succ last ih =>
      have step : validator.chain memory options start last <
          validator.chain memory options start (last + 1) :=
        caller_above uncorrected strict (frames (last + 1) (Nat.le_refl _))
          (elsewhere (last + 1) before (Nat.le_refl _))
      rcases Nat.lt_succ_iff_lt_or_eq.mp before with earlier | rfl
      · have rest := ih earlier
          (fun position below => frames position (Nat.le_succ_of_le below))
          (fun between after below =>
            elsewhere between after (Nat.le_succ_of_le below))
        exact UInt64.lt_trans rest step
      · exact step

theorem Validator.chain_again {start : Word} {first last : Nat}
    (again : validator.chain memory options start first =
      validator.chain memory options start last) (more : Nat) :
    validator.chain memory options start (first + more) =
      validator.chain memory options start (last + more) := by
  induction more with
  | zero => exact again
  | succ more ih => exact congrArg (validator.caller memory options) ih

/-- A chain that has come back to a frame never leaves the frames before. -/
theorem Validator.chain_confined {start : Word} {first last : Nat}
    (before : first < last)
    (again : validator.chain memory options start first =
      validator.chain memory options start last) (position : Nat) :
    ∃ earlier < last,
      validator.chain memory options start position =
        validator.chain memory options start earlier := by
  induction position using Nat.strongRecOn with
  | _ position ih =>
      by_cases early : position < last
      · exact ⟨position, early, rfl⟩
      · obtain ⟨more, rfl⟩ := Nat.exists_eq_add_of_le (Nat.not_lt.mp early)
        have shorter : first + more < last + more :=
          Nat.add_lt_add_right before more
        obtain ⟨earlier, below, same⟩ := ih (first + more) shorter
        exact ⟨earlier, below, (chain_again again more).symm.trans same⟩

theorem Validator.trail_spent {budget first last : Nat} {start : Word}
    (before : first < last)
    (within : last <
      (validator.trail memory options budget start).visits.length)
    (again : validator.chain memory options start first =
      validator.chain memory options start last) :
    (validator.trail memory options budget start).visits.length = budget := by
  have ends := validator.trail_ends memory options budget start
  obtain ⟨earlier, below, same⟩ := chain_confined before again
    (validator.trail memory options budget start).visits.length
  -- The frame after the trail was taken before.
  obtain ⟨nonzero, visited⟩ := trail_visit
    (List.getElem?_eq_getElem (Nat.lt_trans below within))
  simp only [same] at ends
  generalize (validator.trail memory options budget start).stop = stop at ends
  cases ends with
  | spent all => exact all
  | null _ zero => exact absurd zero nonzero
  | noReturn _ _ last => cases visited.symm.trans last
  | broken _ _ failed => cases visited.symm.trans failed

theorem Validator.trail_framePointers (validator : Validator)
    (memory : Memory) (options : WalkOptions) (budget : Nat) (start : Word) :
    (validator.trail memory options budget start).visits.map
        (·.framePointer) =
      (List.range
        (validator.trail memory options budget start).visits.length).map
          (validator.chain memory options start) := by
  apply List.ext_getElem
  · simp
  · intro position left right
    have below : position <
        (validator.trail memory options budget start).visits.length := by
      simpa using left
    obtain ⟨_, visited⟩ := trail_visit (List.getElem?_eq_getElem below)
    obtain ⟨_, recordRead, _⟩ := visit_eq_some_iff.mp visited
    simp only [List.getElem_map, List.getElem_range]
    exact FrameRecord.read_framePointer recordRead

theorem Validator.trail_nodup_iff (validator : Validator) (memory : Memory)
    (options : WalkOptions) (budget : Nat) (start : Word) :
    ((validator.trail memory options budget start).visits.map
        (·.framePointer)).Nodup ↔
      ∀ first last, first < last →
        last < (validator.trail memory options budget start).visits.length →
        validator.chain memory options start first ≠
          validator.chain memory options start last := by
  rw [trail_framePointers, List.nodup_map_iff_inj_on List.nodup_range]
  simp only [List.mem_range]
  constructor
  · intro injective first last before within again
    have same := injective first (Nat.lt_trans before within) last within again
    exact absurd same (Nat.ne_of_lt before)
  · intro distinct first firstWithin last lastWithin again
    rcases Nat.lt_trichotomy first last with before | same | after
    · exact absurd again (distinct first last before lastWithin)
    · exact same
    · exact absurd again.symm (distinct last first after firstWithin)

theorem Validator.strict_trail_nodup_iff
    (uncorrected : ¬ validator.analysis.NeedsCorrection)
    (strict : options.strict = true) (budget : Nat) (start : Word) :
    ((validator.trail memory options budget start).visits.map
        (·.framePointer)).Nodup ↔
      ¬ validator.ComesBack memory options start
        (validator.trail memory options budget start).visits.length := by
  rw [trail_nodup_iff]
  constructor
  · rintro distinct ⟨last, within, between, upTo, first, after, again, _⟩
    exact distinct first last (Nat.lt_of_lt_of_le after upTo) within again
  · intro straight first last before within again
    have frames : ∀ position ≤ last,
        validator.chain memory options start position ≠ 0 := by
      intro position below
      have taken := List.getElem?_eq_getElem (Nat.lt_of_le_of_lt below within)
      exact (trail_visit taken).1
    have elsewhere : ∀ between, first < between → between ≤ last →
        validator.chain memory options start between ≠
          validator.contextFrame := by
      intro between after upTo anchored
      exact straight
        ⟨last, within, between, upTo, first, after, again, anchored⟩
    have above := chain_ascends uncorrected strict before frames elsewhere
    rw [again] at above
    exact UInt64.lt_irrefl _ above

/-- The frame pointers that a strict walk visits are pairwise distinct exactly
when it does not come back to a frame by way of the context frame, so they
always are without a context.  A walk that visits a frame twice is filled with
repetitions, as far as it may go. -/
theorem unwind_strict_distinct_iff {start : Word} {output : Output}
    {plan : WalkPlan} (strict : plan.strict = true)
    (uncorrected : ¬ validator.analysis.NeedsCorrection) :
    let visits := (unwind validator memory start output plan).visits
    ((visits.map (·.framePointer)).Nodup ↔
        ¬ validator.ComesBack memory (plan.options validator) start
          visits.length) ∧
      (validator.context = none → (visits.map (·.framePointer)).Nodup) ∧
      (¬ (visits.map (·.framePointer)).Nodup →
        visits.length = plan.budget output) := by
  intro visits
  obtain ⟨taken, _⟩ := unwind_recording validator memory start output plan
  have straight : (visits.map (·.framePointer)).Nodup ↔
      ¬ validator.ComesBack memory (plan.options validator) start
        visits.length := by
    simp only [visits, taken]
    exact Validator.strict_trail_nodup_iff uncorrected strict _ start
  refine ⟨straight, ?_, ?_⟩
  · intro bare
    apply straight.mpr
    rintro ⟨last, within, between, upTo, _, _, _, anchored⟩
    simp only [visits, taken] at within
    have found := List.getElem?_eq_getElem (Nat.lt_of_le_of_lt upTo within)
    have nonzero := (Validator.trail_visit found).1
    rw [Validator.contextFrame, bare] at anchored
    exact nonzero anchored
  · intro repeated
    obtain ⟨last, within, between, upTo, first, after, again, _⟩ :=
      Decidable.not_not.mp (mt straight.mpr repeated)
    simp only [visits, taken] at within ⊢
    exact Validator.trail_spent (Nat.lt_of_lt_of_le after upTo) within again

/-- The handler's two frames lie above the interrupted ones. -/
def Memory.handlerAbove : Memory :=
  .page 0x1000
    [(0x1000, 0x1020), (0x1008, 0x53), (0x1028, 0x54), (0x1800, 0x1810),
      (0x1808, 0x51), (0x1810, 0x1000), (0x1818, 0x52)]

theorem unwind_strict_distinct_iff_handler_above :
    let memory := Memory.handlerAbove
    let validator : Validator :=
      ⟨some ⟨0x1000, 0x1000, 0⟩, .unknown, .ofMemory memory⟩
    let output : Output := .addressesOnly [0, 0, 0, 0, 0, 0]
    let plan : WalkPlan := ⟨6, 0, true, false⟩
    let visits := (unwind validator memory 0x1800 output plan).visits
    (plan.strict = true ∧ ¬ validator.analysis.NeedsCorrection) ∧
    visits.length = 4 ∧ (visits.map (·.framePointer)).Nodup := by
  intro memory validator output plan visits
  have uncorrected : ¬ validator.analysis.NeedsCorrection := by decide
  have straight : ¬ validator.ComesBack memory (plan.options validator)
      0x1800 visits.length := by
    decide +kernel
  have four : visits.length = 4 := by decide +kernel
  exact ⟨⟨rfl, uncorrected⟩, four,
    (unwind_strict_distinct_iff rfl uncorrected).1.mpr straight⟩

/-- A strict walk can visit a frame twice: the context points at the first of
two frames that are linked to each other. -/
theorem exists_strict_walk_repeating :
    ∃ (validator : Validator) (memory : Memory) (start : Word)
      (output : Output) (plan : WalkPlan),
      plan.strict = true ∧
      ¬ validator.analysis.NeedsCorrection ∧
      ¬ ((unwind validator memory start output plan).visits.map
        (·.framePointer)).Nodup := by
  let memory := Memory.page 0x1000
    [(0x1000, 0x1010), (0x1008, 1), (0x1010, 0x1000), (0x1018, 2)]
  let validator : Validator :=
    ⟨some ⟨0x1000, 0x1000, 0⟩, .unknown, .ofMemory memory⟩
  let output : Output := .addressesOnly [0, 0, 0, 0]
  let plan : WalkPlan := ⟨4, 0, true, false⟩
  have visited : (unwind validator memory 0x1000 output plan).visits.map
      (·.framePointer) = [0x1000, 0x1010, 0x1000, 0x1010] := by
    decide +kernel
  refine ⟨validator, memory, 0x1000, output, plan, rfl, by decide, ?_⟩
  rw [visited]
  decide

end FrameChain
