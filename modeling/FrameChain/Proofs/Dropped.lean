import Mathlib.Data.List.Infix
import FrameChain.Proofs.Account

/-!
# Splitting a chain between the buffers and the count

The counting leg of a lax walk goes on along the chain of the recording leg.
So the frames of the chain decide both numbers: those within the budget of the
recording leg are skipped or recorded, and those past it are counted.

A deeper walk records more of the same frames, and counts that many less.  A
walk that may record nothing has no budget, though: it does not skip frames
either, and counts the ones that were to be skipped.
-/

namespace FrameChain

def WalkPlan.laxCounting (depth skip : Nat) : WalkPlan :=
  { depth, skip, strict := false, countDropped := true }

variable {validator : Validator} {memory : Memory} {options : WalkOptions}

theorem Trail.isPrefix_andThen (trail : Trail) (further : Word → Trail) :
    trail.visits <+: (trail.andThen further).visits := by
  unfold andThen
  split
  · exact List.prefix_refl trail.visits
  · exact List.prefix_append _ _

theorem Validator.trail_isPrefix (validator : Validator) (memory : Memory)
    (options : WalkOptions) {smaller larger : Nat} (below : smaller ≤ larger)
    (start : Word) :
    (validator.trail memory options smaller start).visits <+:
      (validator.trail memory options larger start).visits := by
  obtain ⟨rest, rfl⟩ := Nat.exists_eq_add_of_le below
  rw [trail_add]
  exact Trail.isPrefix_andThen _ _

theorem Output.holding_take (output : Output) (recorded : List Visit) :
    (output.holding recorded).addresses.take recorded.length =
      recorded.map (·.returnAddress) := by
  rw [holding, write, overwrite]
  exact List.take_left' (List.length_map _)

theorem unwind_addresses (validator : Validator) (memory : Memory)
    (start : Word) (output : Output) (plan : WalkPlan) :
    (unwind validator memory start output plan).output.addresses.take
        (unwind validator memory start output plan).frames =
      ((plan.recording validator memory start output).visits.drop
        plan.skip).map (·.returnAddress) := by
  obtain ⟨_, frames, written⟩ :=
    unwind_recording validator memory start output plan
  rw [frames, written, ← List.length_drop, Output.holding_take]

theorem WalkPlan.following_eq_zero_iff (plan : WalkPlan)
    (validator : Validator) (memory : Memory) (cursor : Word) {bound : Nat}
    (room : 0 < bound) :
    plan.following validator memory cursor bound = 0 ↔
      memory.holdsFrame cursor = false := by
  obtain ⟨count, within, early, stops⟩ := exists_leading
    (fun position =>
      memory.holdsFrame (plan.laxChain validator memory cursor position))
    bound
  rw [following, leading_eq within early stops]
  constructor
  · rintro rfl
    exact stops room
  · intro ended
    refine Nat.eq_zero_of_not_pos fun positive => ?_
    have frame : memory.holdsFrame cursor := early 0 positive
    rw [ended] at frame
    cases frame

theorem WalkPlan.lax_taken {plan : WalkPlan} (lax : plan.strict = false)
    {start cursor last : Word} {output : Output}
    (recorded : (plan.recording validator memory start output).stop =
      .ok cursor)
    (counted : (plan.counting validator memory cursor).stop = .ok last) :
    let taken := (plan.recording validator memory start output).visits.length
    taken = plan.following validator memory start (plan.budget output) ∧
      taken + (plan.counting validator memory cursor).visits.length =
        plan.following validator memory start
          (plan.budget output + maxDroppedFrames) := by
  have whole := plan.lax_trail lax validator memory start output
  rw [Trail.andThen_of_ok recorded, counted] at whole
  have total := Validator.trail_completes (congrArg Trail.stop whole)
  rw [whole, List.length_append] at total
  rw [following, following, laxChain, options_relaxed lax]
  exact ⟨(Validator.trail_completes recorded).1, total.1⟩

/-- The number of frames in a chain decides what a lax walk records and what it
counts. -/
theorem unwind_lax_split {plan : WalkPlan} (lax : plan.strict = false)
    {start : Word} {output : Output} {dropped bound frames : Nat}
    (completes : (unwind validator memory start output plan).outcome =
      .ok (some dropped))
    (room : plan.budget output + maxDroppedFrames ≤ bound)
    (length : plan.following validator memory start bound = frames) :
    (unwind validator memory start output plan).frames =
        min (plan.budget output) frames - plan.skip ∧
      dropped = min maxDroppedFrames (frames - plan.budget output) := by
  obtain ⟨_, written, _⟩ :=
    unwind_recording validator memory start output plan
  obtain ⟨cursor, recorded, ⟨_, none⟩ | ⟨_, ⟨last, counted⟩, some⟩⟩ :=
    unwind_ok_iff.mp completes
  · cases none
  · obtain ⟨taken, total⟩ := WalkPlan.lax_taken lax recorded counted
    have budget : min (plan.budget output) frames =
        plan.following validator memory start (plan.budget output) := by
      rw [← length]
      exact min_leading _ (by omega)
    have reach : min (plan.budget output + maxDroppedFrames) frames =
        plan.following validator memory start
          (plan.budget output + maxDroppedFrames) := by
      rw [← length]
      exact min_leading _ room
    have same : dropped =
        (plan.counting validator memory cursor).visits.length :=
      Option.some.inj some
    constructor
    · rw [written, taken, budget]
    · omega

theorem WalkPlan.laxCounting_budget (depth skip : Nat) (output : Output) :
    (laxCounting depth skip).budget output =
      if 0 < min depth output.capacity then
        skip + min depth output.capacity
      else 0 := rfl

theorem WalkPlan.laxCounting_budget_le {fewer more : Nat} (skip : Nat)
    {small large : Output}
    (depths : min fewer small.capacity ≤ min more large.capacity) :
    (laxCounting fewer skip).budget small ≤
      (laxCounting more skip).budget large := by
  simp only [laxCounting_budget]
  split
  · rw [if_pos (by omega)]
    omega
  · exact Nat.zero_le _

theorem unwind_addresses_isPrefix {skip fewer more : Nat} (start : Word)
    {small large : Output}
    (depths : min fewer small.capacity ≤ min more large.capacity) :
    let narrow := unwind validator memory start small (.laxCounting fewer skip)
    let wide := unwind validator memory start large (.laxCounting more skip)
    narrow.output.addresses.take narrow.frames <+:
      wide.output.addresses.take wide.frames := by
  intro narrow wide
  rw [unwind_addresses, unwind_addresses]
  have visits := validator.trail_isPrefix memory
    ((WalkPlan.laxCounting fewer skip).options validator)
    (WalkPlan.laxCounting_budget_le skip depths) start
  exact List.IsPrefix.map _ (visits.drop skip)

theorem unwind_laxCounting {depth skip dropped bound frames : Nat}
    {start : Word} {output : Output}
    (completes : (unwind validator memory start output
      (.laxCounting depth skip)).outcome = .ok (some dropped))
    (room : (WalkPlan.laxCounting depth skip).budget output +
      maxDroppedFrames ≤ bound)
    (length : (WalkPlan.laxCounting depth skip).following validator memory
      start bound = frames) :
    (unwind validator memory start output (.laxCounting depth skip)).frames =
        min (min depth output.capacity) (frames - skip) ∧
      dropped = min maxDroppedFrames
        (frames - if 0 < min depth output.capacity then
          skip + min depth output.capacity else 0) := by
  obtain ⟨recorded, counted⟩ := unwind_lax_split rfl completes room length
  refine ⟨?_, counted⟩
  rw [recorded, WalkPlan.laxCounting_budget]
  change min _ frames - skip = _
  split
  · omega
  · omega

theorem min_between_add_past {smaller larger : Nat} (limit total : Nat)
    (below : smaller ≤ larger) :
    min limit (min larger total - min smaller total +
      min limit (total - larger)) = min limit (total - smaller) := by
  omega

theorem min_sub_eq_iff {limit total hidden : Nat} (larger : Nat) :
    min limit total = min limit (total - hidden) ↔
      hidden = 0 ∨ total = 0 ∨
        limit ≤ min larger (total - hidden) +
          min limit (total - hidden - larger) := by
  omega

/-- The arithmetic of two depths.  A depth of 0 takes no part of the chain, so
the frames to be skipped are left over with the others. -/
theorem min_split_iff {limit frames skip narrow wide : Nat}
    (depths : narrow ≤ wide) :
    min limit (frames - if 0 < narrow then skip + narrow else 0) =
        min limit (min wide (frames - skip) - min narrow (frames - skip) +
          min limit (frames - if 0 < wide then skip + wide else 0)) ↔
      0 < narrow ∨ wide = 0 ∨ skip = 0 ∨ frames = 0 ∨
        limit ≤ min wide (frames - skip) +
          min limit (frames - if 0 < wide then skip + wide else 0) := by
  rcases Nat.eq_zero_or_pos wide with rfl | wideRecords
  · obtain rfl : narrow = 0 := Nat.le_zero.mp depths
    simp
  · have past := min_between_add_past limit (frames - skip) depths
    rw [if_pos wideRecords, ← Nat.sub_sub, past]
    rcases Nat.eq_zero_or_pos narrow with rfl | narrowRecords
    · rw [if_neg (Nat.lt_irrefl 0), Nat.sub_zero, Nat.sub_zero,
        min_sub_eq_iff wide]
      simp [Nat.ne_of_gt wideRecords]
    · rw [if_pos narrowRecords, Nat.sub_sub]
      exact iff_of_true rfl (.inl narrowRecords)

/-- Two lax walks along one chain, one at least as deep as the other, record
the same frames as far as both go.  What the deeper one records beyond is
counted as dropped by the other one, except where that one may record nothing
while there are frames to be skipped: it skips none, and counts them. -/
theorem unwind_dropped_split_iff {skip fewer more : Nat} {start : Word}
    {small large : Output} {narrowDropped wideDropped : Nat}
    (depths : min fewer small.capacity ≤ min more large.capacity)
    (narrowCompletes :
      (unwind validator memory start small (.laxCounting fewer skip)).outcome =
        .ok (some narrowDropped))
    (wideCompletes :
      (unwind validator memory start large (.laxCounting more skip)).outcome =
        .ok (some wideDropped)) :
    let narrow := unwind validator memory start small (.laxCounting fewer skip)
    let wide := unwind validator memory start large (.laxCounting more skip)
    narrow.output.addresses.take narrow.frames <+:
        wide.output.addresses.take wide.frames ∧
      (narrowDropped =
          min maxDroppedFrames (wide.frames - narrow.frames + wideDropped) ↔
        0 < min fewer small.capacity ∨ min more large.capacity = 0 ∨
          skip = 0 ∨ memory.holdsFrame start = false ∨
          maxDroppedFrames ≤ wide.frames + wideDropped) := by
  intro narrow wide
  refine ⟨unwind_addresses_isPrefix start depths, ?_⟩
  let plan := WalkPlan.laxCounting more skip
  let bound := plan.budget large + maxDroppedFrames
  obtain ⟨frames, length⟩ :
      ∃ frames, plan.following validator memory start bound = frames :=
    ⟨_, rfl⟩
  have empty : frames = 0 ↔ memory.holdsFrame start = false := by
    rw [← length]
    exact plan.following_eq_zero_iff validator memory start (Nat.succ_pos _)
  have room := Nat.add_le_add_right
    (WalkPlan.laxCounting_budget_le skip depths) maxDroppedFrames
  -- Both walks go along the same chain, whatever their depths.
  obtain ⟨narrowFrames, narrowCount⟩ :=
    unwind_laxCounting narrowCompletes room length
  obtain ⟨wideFrames, wideCount⟩ :=
    unwind_laxCounting wideCompletes (Nat.le_refl bound) length
  change narrow.frames = _ at narrowFrames
  change wide.frames = _ at wideFrames
  rw [narrowFrames, wideFrames, narrowCount, wideCount, ← empty]
  exact min_split_iff depths

/-- Five frames, one right above the other. -/
def Memory.fiveFrames : Memory :=
  .page 0x1000
    [(0x1000, 0x1010), (0x1008, 0x51), (0x1010, 0x1020), (0x1018, 0x52),
      (0x1020, 0x1030), (0x1028, 0x53), (0x1030, 0x1040), (0x1038, 0x54),
      (0x1048, 0x55)]

/-- Of five frames two are skipped, and of the others a buffer for one leaves
two to be counted. -/
theorem unwind_dropped_split_iff_five_frames :
    let memory := Memory.fiveFrames
    let validator : Validator := ⟨none, .unknown, .ofMemory memory⟩
    let narrow := unwind validator memory 0x1000 (.addressesOnly [0])
      (.laxCounting 8 2)
    let wide := unwind validator memory 0x1000 (.addressesOnly [0, 0, 0, 0])
      (.laxCounting 8 2)
    (narrow.outcome = .ok (some 2) ∧ wide.outcome = .ok (some 0)) ∧
    narrow.output.addresses.take narrow.frames <+:
      wide.output.addresses.take wide.frames ∧
    2 = min maxDroppedFrames (wide.frames - narrow.frames + 0) := by
  intro memory validator narrow wide
  have narrowCompletes : narrow.outcome = .ok (some 2) := by decide +kernel
  have wideCompletes : wide.outcome = .ok (some 0) := by decide +kernel
  obtain ⟨same, split⟩ :=
    unwind_dropped_split_iff (by decide) narrowCompletes wideCompletes
  exact ⟨⟨narrowCompletes, wideCompletes⟩, same, split.mpr (.inl (by decide))⟩

/-- With an empty buffer a lax walk counts the frames that it was to skip. -/
theorem exists_skipped_counted_as_dropped :
    ∃ (validator : Validator) (memory : Memory) (start : Word)
      (small large : Output) (depth skip narrowDropped wideDropped : Nat),
      let narrow := unwind validator memory start small
        (.laxCounting depth skip)
      let wide := unwind validator memory start large (.laxCounting depth skip)
      min depth small.capacity ≤ min depth large.capacity ∧
      narrow.outcome = .ok (some narrowDropped) ∧
      wide.outcome = .ok (some wideDropped) ∧
      narrowDropped ≠
        min maxDroppedFrames (wide.frames - narrow.frames + wideDropped) := by
  let memory := Memory.fiveFrames
  let validator : Validator := ⟨none, .unknown, .ofMemory memory⟩
  let small : Output := .addressesOnly []
  let large : Output := .addressesOnly [0, 0, 0, 0]
  have narrow : (unwind validator memory 0x1000 small
      (.laxCounting 8 2)).outcome = .ok (some 5) := by
    decide +kernel
  have wide : (unwind validator memory 0x1000 large
      (.laxCounting 8 2)).outcome = .ok (some 0) := by
    decide +kernel
  have three : (unwind validator memory 0x1000 large
      (.laxCounting 8 2)).frames = 3 := by
    decide +kernel
  have none : (unwind validator memory 0x1000 small
      (.laxCounting 8 2)).frames = 0 := by
    decide +kernel
  refine ⟨validator, memory, 0x1000, small, large, 8, 2, 5, 0, by decide,
    narrow, wide, ?_⟩
  rw [three, none]
  decide

end FrameChain
