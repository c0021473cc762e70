import FrameChain.Proofs.Dropped
import FrameChain.Proofs.Step

/-!
# More permissive walks

A context lets a strict walk step to one more frame, and a lax walk may step to
every frame that the probe accepts.  So a walk without a context goes along
the same frames as one with it, and that one along the same frames as a lax
walk, until the more cautious one refuses a step and ends.

The frame where it ends is recorded in both, but only the more permissive walk
knows its caller, and so its size.  A walk that has ended hands nothing over to
be counted; otherwise both count laxly from the same frame on.
-/

namespace FrameChain

/-- A trail goes along another one, up to a step that it may refuse. -/
inductive Trail.Follows : Trail → Trail → Prop where
  | same (stop : Except Abort Word) : Follows ⟨[], stop⟩ ⟨[], stop⟩
  | refused {visit further : Visit} {long : Trail} :
      visit.record = further.record →
      visit.next = 0 →
      Follows ⟨[visit], .ok 0⟩ (long.after further)
  | onward {visit further : Visit} {short long : Trail} :
      visit.record = further.record →
      visit.next = further.next →
      Follows short long →
      Follows (short.after visit) (long.after further)

/-- Two outputs have room for the same entries, whatever they hold. -/
structure Output.SameShape (first second : Output) : Prop where
  addresses : first.addresses.length = second.addresses.length
  sizes : first.sizes.map (·.length) = second.sizes.map (·.length)

/-- A walk reports a part of what a second one reports.  The size of its last
frame may be unknown to it. -/
structure WalkResult.ExtendedBy (earlier later : WalkResult) : Prop where
  frames : earlier.frames ≤ later.frames
  addresses : earlier.output.addresses.take earlier.frames <+:
    later.output.addresses.take later.frames
  sizes : ∀ index < earlier.frames,
    earlier.output.sizes.map (·[index]?) =
        later.output.sizes.map (·[index]?) ∨
      index + 1 = earlier.frames ∧
        earlier.output.sizes.map (·[index]?) = some (some 0)
  /-- It completes where the second one does, and counts at most as many
  dropped frames. -/
  outcome : ∀ more, later.outcome = .ok more →
    ∃ fewer, earlier.outcome = .ok fewer ∧ Option.Rel (· ≤ ·) fewer more

theorem Output.SameShape.capacity_eq {first second : Output}
    (shape : first.SameShape second) : first.capacity = second.capacity := by
  obtain ⟨addresses, sizes⟩ := shape
  unfold capacity
  cases firstSizes : first.sizes with
  | none =>
      cases secondSizes : second.sizes with
      | none => exact addresses
      | some _ => simp [firstSizes, secondSizes] at sizes
  | some _ =>
      cases secondSizes : second.sizes with
      | none => simp [firstSizes, secondSizes] at sizes
      | some _ =>
          simp only [firstSizes, secondSizes, Option.map_some,
            Option.some.injEq] at sizes
          simp only [addresses, sizes]

theorem Output.SameShape.map_const {first second : Output}
    (shape : first.SameShape second) (entry : Option Word) :
    (first.sizes.map fun _ => entry) = second.sizes.map fun _ => entry := by
  have lengths := congrArg (Option.map fun _ => entry) shape.sizes
  rw [Option.map_map, Option.map_map] at lengths
  exact lengths

theorem Output.holding_sizeAt {output : Output} {recorded : List Visit}
    {index : Nat} (below : index < recorded.length) :
    (output.holding recorded).sizes.map (·[index]?) =
      output.sizes.map fun _ => recorded[index]?.map (·.size) := by
  simp only [holding, write, Option.map_map]
  congr 1
  funext old
  simp only [Function.comp]
  rw [overwrite_getElem?_of_lt (by simpa using below), List.getElem?_map]

theorem Visit.size_of_ended {visit : Visit} (ended : visit.next = 0) :
    visit.size = 0 := by
  rw [size, FrameRecord.sizeTo, ended]
  exact if_neg UInt64.not_lt_zero

namespace Trail.Follows

variable {short long : Trail}

theorem addresses (follows : short.Follows long) :
    short.visits.map (·.returnAddress) <+:
      long.visits.map (·.returnAddress) := by
  induction follows with
  | same => exact List.prefix_refl _
  | refused record _ =>
      simp [Visit.returnAddress, record]
  | onward record _ _ ih =>
      simpa [Visit.returnAddress, record] using ih

theorem length_le (follows : short.Follows long) :
    short.visits.length ≤ long.visits.length := by
  simpa using follows.addresses.length_le

theorem size (follows : short.Follows long) {index : Nat}
    (below : index < short.visits.length) :
    short.visits[index]?.map (·.size) = long.visits[index]?.map (·.size) ∨
      index + 1 = short.visits.length ∧
        short.visits[index]?.map (·.size) = some 0 := by
  induction follows generalizing index with
  | same => exact absurd below (Nat.not_lt_zero index)
  | refused _ ended =>
      have first : index = 0 := by simpa using below
      subst first
      exact .inr ⟨rfl, congrArg some (Visit.size_of_ended ended)⟩
  | onward record next _ ih =>
      cases index with
      | zero => simp [Visit.size, record, next]
      | succ index =>
          simpa using ih (Nat.lt_of_succ_lt_succ below)

theorem stop (follows : short.Follows long) :
    short.stop = .ok 0 ∨ short.stop = long.stop := by
  induction follows with
  | same => exact .inr rfl
  | refused => exact .inl rfl
  | onward _ _ _ ih => exact ih

end Trail.Follows

theorem Validator.judge_of_bare {validator bare : Validator}
    {options strict : WalkOptions} {current link next : Word}
    (accepted : (bare.judge options current link).next = some next)
    (absent : bare.context = none) (cautious : options.strict = true)
    (also : strict.strict = true) :
    (validator.judge strict current link).next = some next := by
  obtain ⟨rfl, nonzero, different, aligned, placed, _⟩ :=
    judge_next_eq_some_iff.mp accepted
  have near : Near current next := by
    rcases placed cautious with anchored | near
    · have consulted := anchored.1
      simp [Validator.consulted, absent] at consulted
    · exact near
  exact judge_next_eq_some_iff.mpr
    ⟨rfl, nonzero, different, aligned, fun _ => .inr near,
      fun lax => absurd (lax.symm.trans also) Bool.false_ne_true⟩

theorem Validator.judge_of_probed {validator cautious : Validator}
    {options relaxed : WalkOptions} {current link next : Word}
    (accepted : (cautious.judge options current link).next = some next)
    (probed : validator.probe next = true)
    (lax : relaxed.strict = false) :
    (validator.judge relaxed current link).next = some next := by
  obtain ⟨rfl, nonzero, different, aligned, _, _⟩ :=
    judge_next_eq_some_iff.mp accepted
  exact judge_next_eq_some_iff.mpr
    ⟨rfl, nonzero, different, aligned,
      fun strict => absurd (lax.symm.trans strict) Bool.false_ne_true,
      fun _ => probed⟩

variable {short long : Validator} {memory : Memory}

/-- A trail follows another one that accepts each of its steps. -/
theorem Validator.trail_follows {cautious permissive : WalkOptions}
    (shortPlain : ¬ short.analysis.NeedsCorrection)
    (longPlain : ¬ long.analysis.NeedsCorrection) {budget : Nat}
    {start : Word}
    (accepted : ∀ visit ∈ (short.trail memory cautious budget start).visits,
      visit.next ≠ 0 →
        (long.judge permissive visit.record.framePointer
          visit.record.link).next = some visit.next) :
    (short.trail memory cautious budget start).Follows
      (long.trail memory permissive budget start) := by
  induction budget generalizing start with
  | zero => exact .same (.ok start)
  | succ budget ih =>
      by_cases null : start = 0
      · rw [null, trail_null, trail_null]
        exact .same (.ok 0)
      · cases recordRead : FrameRecord.read memory start with
        | error cause =>
            rw [trail_error null (visit_of_unread recordRead),
              trail_error null (visit_of_unread recordRead)]
            exact .same (.error cause)
        | ok record =>
            by_cases returns : record.returnAddress = 0
            · have last (validator : Validator) (options : WalkOptions) :
                  validator.visit memory options start = .ok none :=
                visit_eq_none_iff.mpr ⟨record, recordRead, returns⟩
              rw [trail_none null (last short cautious),
                trail_none null (last long permissive)]
              exact .same (.ok 0)
            · have shortVisit := visit_of_not_corrects cautious recordRead
                returns (not_corrects_of_uncorrected shortPlain)
              have longVisit := visit_of_not_corrects permissive recordRead
                returns (not_corrects_of_uncorrected longPlain)
              rw [trail_some null shortVisit] at accepted ⊢
              rw [trail_some null longVisit]
              by_cases ended : (short.onward cautious record).next = 0
              · rw [ended, trail_null]
                exact .refused rfl ended
              · have records : (short.onward cautious record).record =
                    (long.onward permissive record).record := rfl
                have next : (long.onward permissive record).next =
                    (short.onward cautious record).next :=
                  onward_next_of_judge
                    (accepted _ List.mem_cons_self ended)
                rw [next]
                apply Trail.Follows.onward records next.symm
                apply ih
                intro visit further
                exact accepted visit (List.mem_cons_of_mem _ further)

theorem Validator.lax_trail_congr {first second : WalkOptions}
    (shortPlain : ¬ short.analysis.NeedsCorrection)
    (longPlain : ¬ long.analysis.NeedsCorrection)
    (probe : short.probe = long.probe) (lax : first.strict = false)
    (alsoLax : second.strict = false) (budget : Nat) (start : Word) :
    short.trail memory first budget start =
      long.trail memory second budget start := by
  have judged := judge_congr probe (lax.trans alsoLax.symm)
    fun strict => absurd (lax.symm.trans strict) Bool.false_ne_true
  have visited := visit_congr shortPlain longPlain judged memory
  induction budget generalizing start with
  | zero => rfl
  | succ budget ih => simp only [trail, visited, ih]

theorem WalkPlan.budget_eq {cautious permissive : WalkPlan}
    {first second : Output} (shape : first.SameShape second)
    (depth : cautious.depth = permissive.depth)
    (skip : cautious.skip = permissive.skip) :
    cautious.budget first = permissive.budget second := by
  unfold budget effectiveDepth
  rw [shape.capacity_eq, depth, skip]

/-- A walk whose recording leg follows another's reports a part of what that
one reports, when both count alike from a frame on. -/
theorem unwind_extendedBy {cautious permissive : WalkPlan} {start : Word}
    {first second : Output} (shape : first.SameShape second)
    (follows : (cautious.recording short memory start first).Follows
      (permissive.recording long memory start second))
    (skip : cautious.skip = permissive.skip)
    (counts : cautious.countDropped = permissive.countDropped)
    (counting : cautious.counting short memory =
      permissive.counting long memory) :
    (unwind short memory start first cautious).ExtendedBy
      (unwind long memory start second permissive) := by
  obtain ⟨_, shortFrames, shortOutput⟩ :=
    unwind_recording short memory start first cautious
  obtain ⟨_, longFrames, longOutput⟩ :=
    unwind_recording long memory start second permissive
  have lengths := follows.length_le
  constructor
  case frames =>
    rw [shortFrames, longFrames, skip]
    exact Nat.sub_le_sub_right lengths _
  case addresses =>
    rw [unwind_addresses, unwind_addresses, List.map_drop, List.map_drop, skip]
    exact follows.addresses.drop _
  case sizes =>
    intro index below
    rw [shortFrames] at below
    have shortBelow : index <
        ((cautious.recording short memory start first).visits.drop
          cautious.skip).length := by
      rw [List.length_drop]
      exact below
    have longBelow : index <
        ((permissive.recording long memory start second).visits.drop
          permissive.skip).length := by
      rw [List.length_drop, ← skip]
      exact Nat.lt_of_lt_of_le below (Nat.sub_le_sub_right lengths _)
    rw [shortOutput, longOutput, Output.holding_sizeAt shortBelow,
      Output.holding_sizeAt longBelow, List.getElem?_drop,
      List.getElem?_drop, ← skip, shortFrames]
    rcases follows.size (Nat.add_lt_of_lt_sub' below) with same | ⟨last, zero⟩
    · rw [same]
      exact .inl (shape.map_const _)
    · -- Here the shorter walk ends, and the longer one knows a size.
      cases present : first.sizes with
      | none =>
          have absent := shape.sizes
          rw [present, Option.map_none, eq_comm, Option.map_eq_none_iff]
            at absent
          simp [absent]
      | some sizes =>
          rw [zero]
          exact .inr ⟨by omega, rfl⟩
  case outcome =>
    intro more completes
    rcases follows.stop with ended | same
    · -- A walk that has ended hands over 0, and nothing is counted from there.
      have nothing : cautious.counting short memory 0 = ⟨[], .ok 0⟩ :=
        Validator.trail_null maxDroppedFrames
      rw [unwind_outcome, ended]
      obtain ⟨_, _, counted⟩ := unwind_ok_iff.mp completes
      rcases counted with ⟨off, rfl⟩ | ⟨on, _, rfl⟩
      · exact ⟨none, by simp [Except.bind, counts, off], .none⟩
      · exact ⟨some 0, by simp [Except.bind, counts, on, nothing, Except.map],
          .some (Nat.zero_le _)⟩
    · have outcomes : (unwind short memory start first cautious).outcome =
          (unwind long memory start second permissive).outcome := by
        rw [unwind_outcome, unwind_outcome, same, counts, counting]
      refine ⟨more, outcomes.trans completes, ?_⟩
      cases more with
      | none => exact .none
      | some dropped => exact .some (Nat.le_refl dropped)

theorem WalkResult.ExtendedBy.trans {first second third : WalkResult}
    (earlier : first.ExtendedBy second) (later : second.ExtendedBy third) :
    first.ExtendedBy third := by
  constructor
  case frames => exact Nat.le_trans earlier.frames later.frames
  case addresses => exact earlier.addresses.trans later.addresses
  case sizes =>
    intro index below
    have within := Nat.lt_of_lt_of_le below earlier.frames
    rcases earlier.sizes index below with same | unknown
    · rcases later.sizes index within with again | ⟨last, zero⟩
      · exact .inl (same.trans again)
      · have frames := earlier.frames
        exact .inr ⟨by omega, same.trans zero⟩
    · exact .inr unknown
  case outcome =>
    intro most completes
    obtain ⟨more, secondCompletes, laterCount⟩ := later.outcome most completes
    obtain ⟨fewer, firstCompletes, earlierCount⟩ :=
      earlier.outcome more secondCompletes
    refine ⟨fewer, firstCompletes, ?_⟩
    cases laterCount with
    | none =>
        cases earlierCount
        exact .none
    | some less =>
        cases earlierCount with
        | some least => exact .some (Nat.le_trans least less)

/-- A strict walk without a context reports a part of what one with a context
reports, and that one a part of what a lax walk reports, over a probe that
accepts every caller that the strict walk with the context steps to. -/
theorem unwind_extendedBy_permissive {analysis : Trampoline.Analysis}
    {probe : Probe} {context other : Option Registers} {start : Word}
    {depth skip : Nat} {countDropped : Bool}
    {bareOutput anchoredOutput laxOutput : Output}
    (uncorrected : ¬ analysis.NeedsCorrection)
    (bareShape : bareOutput.SameShape anchoredOutput)
    (laxShape : anchoredOutput.SameShape laxOutput)
    (accepted :
      ∀ visit ∈ (unwind ⟨context, analysis, probe⟩ memory start
        anchoredOutput ⟨depth, skip, true, countDropped⟩).visits,
        visit.next ≠ 0 → probe visit.next = true) :
    let bare := unwind ⟨none, analysis, probe⟩ memory start bareOutput
      ⟨depth, skip, true, countDropped⟩
    let anchored := unwind ⟨context, analysis, probe⟩ memory start
      anchoredOutput ⟨depth, skip, true, countDropped⟩
    let lax := unwind ⟨other, analysis, probe⟩ memory start laxOutput
      ⟨depth, skip, false, countDropped⟩
    bare.ExtendedBy anchored ∧ anchored.ExtendedBy lax ∧
      bare.ExtendedBy lax := by
  intro bare anchored lax
  have counting (first second : Option Registers) (plan next : WalkPlan) :
      plan.counting ⟨first, analysis, probe⟩ memory =
        next.counting ⟨second, analysis, probe⟩ memory := by
    funext cursor
    apply Validator.lax_trail_congr uncorrected uncorrected
    · rfl
    · rfl
    · rfl
  have strictStep : bare.ExtendedBy anchored := by
    refine unwind_extendedBy bareShape ?_ rfl rfl (counting none context _ _)
    unfold WalkPlan.recording
    rw [WalkPlan.budget_eq bareShape rfl rfl]
    apply Validator.trail_follows uncorrected uncorrected
    intro visit taken going
    have judged := Validator.judge_of_mem_trail uncorrected taken going
    exact Validator.judge_of_bare judged rfl rfl rfl
  have laxStep : anchored.ExtendedBy lax := by
    refine unwind_extendedBy laxShape ?_ rfl rfl (counting context other _ _)
    have reached := unwind_recording ⟨context, analysis, probe⟩ memory start
      anchoredOutput ⟨depth, skip, true, countDropped⟩
    rw [reached.1] at accepted
    unfold WalkPlan.recording at accepted ⊢
    rw [WalkPlan.budget_eq laxShape rfl rfl] at accepted ⊢
    apply Validator.trail_follows uncorrected uncorrected
    intro visit taken going
    have judged := Validator.judge_of_mem_trail uncorrected taken going
    exact Validator.judge_of_probed judged (accepted visit taken going) rfl
  exact ⟨strictStep, laxStep, strictStep.trans laxStep⟩

/-- Frames that lead down twice: to the context frame at `0x1000`, and from
`0x1040` on. -/
def Memory.twiceDown : Memory :=
  .page 0x1000
    [(0x1000, 0x1040), (0x1008, 0x53), (0x1040, 0x1020), (0x1048, 0x54),
      (0x1028, 0x55), (0x1800, 0x1810), (0x1808, 0x51), (0x1810, 0x1000),
      (0x1818, 0x52)]

/-- Each of the three walks goes further than the one before, and knows the
size of that one's last frame only where the chain goes up from it. -/
theorem unwind_extendedBy_permissive_twice_down :
    let memory := Memory.twiceDown
    let probe := Probe.ofMemory memory
    let context : Option Registers := some ⟨0x1000, 0x1000, 0⟩
    let first : Output := ⟨[7, 7, 7, 7, 7, 7], some [7, 7, 7, 7, 7, 7]⟩
    let second : Output := ⟨[8, 8, 8, 8, 8, 8], some [8, 8, 8, 8, 8, 8]⟩
    let bare := unwind ⟨none, .unknown, probe⟩ memory 0x1800 first
      ⟨8, 0, true, true⟩
    let anchored := unwind ⟨context, .unknown, probe⟩ memory 0x1800 second
      ⟨8, 0, true, true⟩
    let lax := unwind ⟨context, .unknown, probe⟩ memory 0x1800 first
      ⟨8, 0, false, true⟩
    (¬ Trampoline.Analysis.unknown.NeedsCorrection ∧
      first.SameShape second ∧ second.SameShape first ∧
      ∀ visit ∈ anchored.visits, visit.next ≠ 0 →
        probe visit.next = true) ∧
    (bare.frames = 2 ∧ anchored.frames = 4 ∧ lax.frames = 5) ∧
    bare.ExtendedBy anchored ∧ anchored.ExtendedBy lax ∧
      bare.ExtendedBy lax := by
  intro memory probe context first second bare anchored lax
  have uncorrected : ¬ Trampoline.Analysis.unknown.NeedsCorrection := by
    decide
  have shape : first.SameShape second := ⟨rfl, rfl⟩
  have back : second.SameShape first := ⟨rfl, rfl⟩
  have accepted : ∀ visit ∈ anchored.visits, visit.next ≠ 0 →
      probe visit.next = true := by
    decide +kernel
  have frames : bare.frames = 2 ∧ anchored.frames = 4 ∧ lax.frames = 5 := by
    decide +kernel
  exact ⟨⟨uncorrected, shape, back, accepted⟩, frames,
    unwind_extendedBy_permissive uncorrected shape back accepted⟩

end FrameChain
