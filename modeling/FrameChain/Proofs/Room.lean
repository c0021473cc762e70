import FrameChain.LiveStack
import FrameChain.Proofs.Torn

/-!
# Room in two buffers

The entry points that report frames with their sizes write at most as many
frames as their result has room for, and leave everything behind these alone.
A caller that slices both buffers at the reported number relies on more: there
has to be room for as many sizes.

A build that records sizes takes its depth from the shorter buffer.  A build
without frame sizes does not look at the second buffer at all.  There the
number of frames on the stack decides whether they fit into the second buffer.
-/

namespace FrameChain

namespace CaptureSite

/-- What judges the steps of a walk from a site. -/
def validator (site : CaptureSite) (build : Build)
    (context : Option Registers) : Validator :=
  .create build context .unknown (.ofMemory site.memory)

/-- A lax walk from the site finds this number of frames. -/
def HoldsFrames (site : CaptureSite) (build : Build)
    (context : Option Registers) (count : Nat) : Prop :=
  let validator := site.validator build context
  site.Plausible ∧
    validator.Reaches site.memory ⟨false, validator.context.isSome⟩
      site.framePointer count

instance (site : CaptureSite) (build : Build) (context : Option Registers)
    (count : Nat) : Decidable (site.HoldsFrames build context count) :=
  inferInstanceAs (Decidable (_ ∧ _))

end CaptureSite

/-- What an entry point that reports frames leaves of two buffers, also when
its walk was broken off. -/
structure CaptureResult.Room (result : CaptureResult) (build : Build)
    (site : CaptureSite) (addresses sizes : List Word) (skip : Nat)
    (context : Option Registers) : Prop where
  withinAddresses : result.frames ≤ addresses.length
  addressKept : ∀ index, result.frames ≤ index →
    result.addresses[index]? = addresses[index]?
  sizeKept : ∀ index, result.frames ≤ index →
    result.sizes.map (·[index]?) = some sizes[index]?
  /-- The frames fit into both buffers, unless sizes are not recorded, their
  buffer is the shorter one, and the stack has more frames than it has
  room for. -/
  withinBoth : result.frames ≤ min addresses.length sizes.length ↔
    build.frameSizes = true ∨ addresses.length ≤ sizes.length ∨
      ¬ site.HoldsFrames build context (skip + sizes.length + 1)

variable {validator : Validator} {memory : Memory} {options : WalkOptions}

theorem Validator.Reaches.mono {start : Word} {smaller larger : Nat}
    (reaches : validator.Reaches memory options start larger)
    (below : smaller ≤ larger) :
    validator.Reaches memory options start smaller :=
  fun position earlier => reaches position (Nat.lt_of_lt_of_le earlier below)

theorem Validator.le_trail_length_iff
    (uncorrected : ¬ validator.analysis.NeedsCorrection) (memory : Memory)
    (options : WalkOptions) {count budget : Nat} (within : count ≤ budget)
    (start : Word) :
    count ≤ (validator.trail memory options budget start).visits.length ↔
      validator.Reaches memory options start count := by
  have reached := validator.trail_reaches memory options budget start
  have ends := validator.trail_ends memory options budget start
  constructor
  · exact reached.mono
  · intro reaches
    by_contra short
    have taken := Nat.lt_of_not_le short
    have frame := reaches _ taken
    cases stopped : (validator.trail memory options budget start).stop with
    | ok cursor =>
        simp only [stopped] at ends
        have ended := ends.stops_early (Nat.lt_of_lt_of_le taken within)
        rw [frame] at ended
        cases ended
    | error cause =>
        simp only [stopped] at ends
        cases ends with
        | broken _ _ failed =>
            obtain ⟨found, visited⟩ := (visit_isOk_iff uncorrected).mpr
              (Memory.holdsRecord_of_holdsFrame frame)
            cases failed.symm.trans visited

namespace CaptureSite

theorem not_needsCorrection (site : CaptureSite) (build : Build)
    (context : Option Registers) :
    ¬ (site.validator build context).analysis.NeedsCorrection := by
  intro needed
  exact needed.1 rfl

/-- The frames that a walk from a site records. -/
def recorded (site : CaptureSite) (build : Build)
    (context : Option Registers) (output : Output) (plan : WalkPlan) :
    List Visit :=
  if site.Plausible then
    (plan.recording (site.validator build context) site.memory
      site.framePointer output).visits.drop plan.skip
  else []

theorem walk_recorded (site : CaptureSite) (build : Build)
    (context : Option Registers) (output : Output) (plan : WalkPlan) :
    let result := site.walk build context output plan
    let recorded := site.recorded build context output plan
    result.frames = recorded.length ∧
      result.output = output.holding recorded ∧
      recorded.length ≤ plan.effectiveDepth output := by
  by_cases placed : site.Plausible
  · obtain ⟨_, frames, written⟩ := unwind_recording
      (site.validator build context) site.memory site.framePointer output plan
    have taken := (Validator.trail_ends (site.validator build context)
      site.memory (plan.options (site.validator build context))
      (plan.budget output) site.framePointer).taken_le
    have depth := plan.budget_le output
    simp only [walk, recorded, if_pos placed]
    refine ⟨?_, written, ?_⟩
    · rw [List.length_drop]
      exact frames
    · rw [List.length_drop]
      simp only [WalkPlan.recording]
      omega
  · simp [walk, recorded, if_neg placed, Output.holding_nil]

/-- A lax walk with room for a number of frames records that many exactly when
the stack has them, those that are to be skipped in front. -/
theorem le_recorded_length_iff (site : CaptureSite) (build : Build)
    (context : Option Registers) {output : Output} {plan : WalkPlan}
    {count : Nat} (lax : plan.strict = false)
    (positive : 0 < count) (room : count ≤ plan.effectiveDepth output) :
    count ≤ (site.recorded build context output plan).length ↔
      site.HoldsFrames build context (plan.skip + count) := by
  have within : plan.skip + count ≤ plan.budget output := by
    rw [WalkPlan.budget, if_pos (Nat.lt_of_lt_of_le positive room)]
    omega
  have options : plan.options (site.validator build context) =
      ⟨false, (site.validator build context).context.isSome⟩ := by
    rw [WalkPlan.options, lax]
  have reaches := Validator.le_trail_length_iff
    (site.not_needsCorrection build context) site.memory
    (plan.options (site.validator build context)) within site.framePointer
  by_cases placed : site.Plausible
  · rw [HoldsFrames, and_iff_right placed, ← options, ← reaches, recorded,
      if_pos placed, List.length_drop, WalkPlan.recording]
    omega
  · simp [recorded, HoldsFrames, placed]
    omega

end CaptureSite

namespace Output

theorem capacity_withSizes (build : Build) (addresses sizes : List Word) :
    (withSizes build addresses sizes).capacity =
      if build.frameSizes then min addresses.length sizes.length
      else addresses.length := by
  unfold withSizes capacity
  cases build.frameSizes <;> rfl

theorem withSizes_sizes_getD (build : Build) (addresses sizes : List Word)
    (recorded : List Visit) {index : Nat} (late : recorded.length ≤ index) :
    (((withSizes build addresses sizes).holding recorded).sizes.getD
      sizes)[index]? = sizes[index]? := by
  cases recording : build.frameSizes with
  | false => simp [withSizes, recording, holding, write]
  | true =>
      simp only [withSizes, recording, ↓reduceIte, holding, write,
        Option.map_some, Option.getD_some]
      exact overwrite_getElem?_of_le (by simpa using late)

end Output

namespace Capture

theorem effectiveDepth_framesPlan (build : Build)
    (addresses sizes : List Word) (skip : Nat) (countDropped : Bool) :
    (framesPlan addresses skip countDropped).effectiveDepth
        (.withSizes build addresses sizes) =
      if build.frameSizes then min addresses.length sizes.length
      else addresses.length := by
  rw [WalkPlan.effectiveDepth, Output.capacity_withSizes, framesPlan]
  split <;> simp

theorem recorded_length_le_iff {build : Build}
    (unrecorded : build.frameSizes = false) (site : CaptureSite)
    (addresses sizes : List Word) (skip : Nat) (context : Option Registers)
    (countDropped : Bool) :
    (site.recorded build context (.withSizes build addresses sizes)
        (framesPlan addresses skip countDropped)).length ≤
      min addresses.length sizes.length ↔
    addresses.length ≤ sizes.length ∨
      ¬ site.HoldsFrames build context (skip + sizes.length + 1) := by
  let plan := framesPlan addresses skip countDropped
  let output := Output.withSizes build addresses sizes
  have effective : plan.effectiveDepth output = addresses.length := by
    rw [effectiveDepth_framesPlan, unrecorded, if_neg Bool.false_ne_true]
  obtain ⟨_, _, depth⟩ := site.walk_recorded build context output plan
  rw [effective] at depth
  by_cases longer : addresses.length ≤ sizes.length
  · rw [Nat.min_eq_left longer]
    exact iff_of_true depth (.inl longer)
  · have room : sizes.length + 1 ≤ plan.effectiveDepth output := by
      rw [effective]
      exact Nat.lt_of_not_le longer
    have lax : plan.strict = false := rfl
    have more := site.le_recorded_length_iff build context lax
      (Nat.succ_pos sizes.length) room
    rw [or_iff_right longer, Nat.min_eq_right (Nat.le_of_not_le longer),
      Nat.add_assoc, ← Nat.not_lt]
    exact not_congr more

theorem framesWithContext_room (build : Build) (site : CaptureSite)
    (addresses sizes : List Word) (skip : Nat) (context : Option Registers)
    (dropped : Option Nat) :
    (framesWithContext build site addresses sizes skip context dropped).Room
      build site addresses sizes skip context := by
  let plan := framesPlan addresses skip dropped.isSome
  let output := Output.withSizes build addresses sizes
  obtain ⟨frames, written, depth⟩ :=
    site.walk_recorded build context output plan
  have effective : plan.effectiveDepth output =
      if build.frameSizes then min addresses.length sizes.length
      else addresses.length :=
    effectiveDepth_framesPlan build addresses sizes skip dropped.isSome
  constructor
  case withinAddresses =>
    change (site.walk build context output plan).frames ≤ addresses.length
    rw [frames]
    refine Nat.le_trans depth ?_
    rw [effective]
    split <;> omega
  case addressKept =>
    intro index late
    change (site.walk build context output plan).output.addresses[index]? =
      addresses[index]?
    rw [written]
    exact Output.holding_addressKept (frames ▸ late)
  case sizeKept =>
    intro index late
    change some ((site.walk build context output plan).output.sizes.getD
      sizes)[index]? = some sizes[index]?
    rw [written, Output.withSizes_sizes_getD _ _ _ _ (frames ▸ late)]
  case withinBoth =>
    change (site.walk build context output plan).frames ≤
      min addresses.length sizes.length ↔ _
    rw [frames]
    cases recording : build.frameSizes with
    | true =>
        rw [effective, recording, if_pos rfl] at depth
        exact iff_of_true depth (.inl rfl)
    | false =>
        rw [or_iff_right Bool.false_ne_true]
        exact recorded_length_le_iff recording site addresses sizes skip
          context dropped.isSome

/-- In every build and with buffers of any lengths, the reported number of
frames is within the first buffer, and what lies behind is left alone.  The
frames are within the second buffer as well, except in a build without frame
sizes when that buffer is the shorter one and the stack has more frames. -/
theorem frames_room (build : Build) (site : CaptureSite)
    (addresses sizes : List Word) (skip : Nat) :
    (∀ context dropped,
      (framesWithContext build site addresses sizes skip context
        dropped).Room build site addresses sizes skip context) ∧
    (frames build site addresses sizes skip).Room build site addresses sizes
      skip none := by
  constructor
  · exact framesWithContext_room build site addresses sizes skip
  · exact framesWithContext_room build site addresses sizes skip none none

/-- Without frame sizes the frames can be more than there is room for in the
second buffer: both frames of a stack are reported with room for one size. -/
theorem exists_frames_beyond_sizes :
    ∃ (build : Build) (site : CaptureSite) (addresses sizes : List Word)
      (skip : Nat),
      let result := frames build site addresses sizes skip
      result.outcome = .ok none ∧
        ¬ result.frames ≤ min addresses.length sizes.length := by
  let stack : LiveStack := ⟨0x60000000, 0⟩
  let site := stack.site .empty
  have completes : (frames .minimal site [7, 7] [7] 0).outcome = .ok none := by
    decide +kernel
  have two : (frames .minimal site [7, 7] [7] 0).frames = 2 := by
    decide +kernel
  refine ⟨.minimal, site, [7, 7], [7], 0, completes, ?_⟩
  rw [two]
  decide

end Capture

end FrameChain
