import Mathlib.Control.Monad.Basic
import FrameChain.Proofs.Fault

/-!
# What a walk reports

A walk that is not broken off is accounted for by the positions of its chain:
how many frames it wrote, what each entry of its buffers holds, which entries
it left alone, and how many frames it says did not fit.  The account mentions
neither leg, only transitions from one frame pointer to the next.
-/

namespace FrameChain

namespace WalkPlan

def chain (plan : WalkPlan) (validator : Validator) (memory : Memory)
    (start : Word) : Nat → Word :=
  validator.chain memory (plan.options validator) start

/-- The number of frames that the recording leg goes past, skipped ones
included: the leading positions with a frame, as far as it may go. -/
def passed (plan : WalkPlan) (validator : Validator) (memory : Memory)
    (start : Word) (output : Output) : Nat :=
  leading
    (fun position =>
      memory.holdsFrame (plan.chain validator memory start position))
    (plan.budget output)

/-- The cursor that the recording leg leaves: the frame after those that it
went past, or 0 where the chain ended before it had gone far enough. -/
def handedOver (plan : WalkPlan) (validator : Validator) (memory : Memory)
    (start : Word) (output : Output) : Word :=
  if plan.passed validator memory start output = plan.budget output then
    plan.chain validator memory start
      (plan.passed validator memory start output)
  else 0

def laxChain (plan : WalkPlan) (validator : Validator) (memory : Memory)
    (cursor : Word) : Nat → Word :=
  validator.chain memory (plan.options validator).relaxed cursor

/-- The number of frames below a bound that follow a cursor in a lax walk. -/
def following (plan : WalkPlan) (validator : Validator) (memory : Memory)
    (cursor : Word) (bound : Nat) : Nat :=
  leading
    (fun position =>
      memory.holdsFrame (plan.laxChain validator memory cursor position))
    bound

/-- What a walk that was not broken off reports and leaves in its buffers. -/
structure Account (plan : WalkPlan) (validator : Validator)
    (memory : Memory) (start : Word) (output : Output) (result : WalkResult)
    (dropped : Option Nat) : Prop where
  frames : result.frames =
    plan.passed validator memory start output - plan.skip
  withinDepth : result.frames ≤ plan.effectiveDepth output
  /-- Each position gone past was left by a transition that could be read. -/
  judged : ∀ position < plan.passed validator memory start output,
    ∃ transition,
      validator.nextFrame memory (plan.chain validator memory start position)
        (plan.options validator) = .ok transition ∧
      plan.chain validator memory start (position + 1) =
        transition.next.getD 0
  address : ∀ index < result.frames, ∃ record,
    FrameRecord.read memory
      (plan.chain validator memory start (plan.skip + index)) = .ok record ∧
    result.output.addresses[index]? = some record.returnAddress
  /-- Sizes are written where there is a buffer for them, for the last frame
  too, whose caller is not recorded. -/
  size : ∀ sizes, result.output.sizes = some sizes →
    ∀ index < result.frames,
      let framePointer := plan.chain validator memory start (plan.skip + index)
      let caller := plan.chain validator memory start (plan.skip + index + 1)
      sizes[index]? =
        some (if framePointer < caller then caller - framePointer else 0)
  addressKept : ∀ index, result.frames ≤ index →
    result.output.addresses[index]? = output.addresses[index]?
  sizesPresent : result.output.sizes.isSome = output.sizes.isSome
  sizeKept : ∀ index, result.frames ≤ index →
    result.output.sizes.map (·[index]?) = output.sizes.map (·[index]?)
  uncounted : plan.countDropped = false → dropped = none
  /-- The frames that did not fit, counted to any bound from the limit on. -/
  counted : plan.countDropped = true → ∀ bound, maxDroppedFrames ≤ bound →
    dropped = some (min maxDroppedFrames
      (plan.following validator memory
        (plan.handedOver validator memory start output) bound))
  countedJudged : plan.countDropped = true →
    let cursor := plan.handedOver validator memory start output
    ∀ position < plan.following validator memory cursor maxDroppedFrames,
      ∃ transition,
        validator.nextFrame memory
          (plan.laxChain validator memory cursor position)
          (plan.options validator).relaxed = .ok transition ∧
        plan.laxChain validator memory cursor (position + 1) =
          transition.next.getD 0

end WalkPlan

namespace Output

theorem holding_address {output : Output} {recorded : List Visit}
    {index : Nat} (below : index < recorded.length) :
    (output.holding recorded).addresses[index]? =
      recorded[index]?.map (·.returnAddress) := by
  simp only [holding, write]
  rw [overwrite_getElem?_of_lt (by simpa using below), List.getElem?_map]

theorem holding_size {output : Output} {recorded : List Visit}
    {sizes : List Word} {index : Nat}
    (present : (output.holding recorded).sizes = some sizes)
    (below : index < recorded.length) :
    sizes[index]? = recorded[index]?.map (·.size) := by
  obtain ⟨old, _, rfl⟩ := Option.map_eq_some_iff.mp present
  rw [overwrite_getElem?_of_lt (by simpa using below), List.getElem?_map]

theorem holding_addressKept {output : Output} {recorded : List Visit}
    {index : Nat} (late : recorded.length ≤ index) :
    (output.holding recorded).addresses[index]? =
      output.addresses[index]? := by
  simp only [holding, write]
  exact overwrite_getElem?_of_le (by simpa using late)

theorem holding_sizeKept {output : Output} {recorded : List Visit}
    {index : Nat} (late : recorded.length ≤ index) :
    (output.holding recorded).sizes.map (·[index]?) =
      output.sizes.map (·[index]?) := by
  simp only [holding, write, Option.map_map]
  congr 1
  funext old
  exact overwrite_getElem?_of_le (by simpa using late)

end Output

variable {validator : Validator} {memory : Memory} {options : WalkOptions}

theorem Validator.trail_frame {budget position : Nat} {start : Word}
    (below : position <
      (validator.trail memory options budget start).visits.length) :
    ∃ visit transition,
      (validator.trail memory options budget start).visits[position]? =
        some visit ∧
      FrameRecord.read memory
        (validator.chain memory options start position) = .ok visit.record ∧
      validator.nextFrame memory
        (validator.chain memory options start position) options =
          .ok transition ∧
      visit.next = validator.chain memory options start (position + 1) ∧
      visit.next = transition.next.getD 0 := by
  have found := List.getElem?_eq_getElem below
  obtain ⟨_, visited⟩ := trail_visit found
  obtain ⟨transition, recordRead, _, judged, next, _⟩ :=
    visit_eq_some_iff.mp visited
  exact ⟨_, transition, found, recordRead, judged,
    (caller_of_visit visited).symm, next⟩

theorem Validator.trail_judged {budget position : Nat} {start : Word}
    (below : position <
      (validator.trail memory options budget start).visits.length) :
    ∃ transition,
      validator.nextFrame memory
        (validator.chain memory options start position) options =
          .ok transition ∧
      validator.chain memory options start (position + 1) =
        transition.next.getD 0 := by
  obtain ⟨visit, transition, _, _, judged, position_eq, next⟩ :=
    trail_frame below
  exact ⟨transition, judged, position_eq ▸ next⟩

theorem Visit.size_eq {visit : Visit} {framePointer : Word}
    (recordRead : FrameRecord.read memory framePointer = .ok visit.record) :
    visit.size =
      if framePointer < visit.next then visit.next - framePointer else 0 := by
  rw [size, FrameRecord.sizeTo, FrameRecord.read_framePointer recordRead]

theorem WalkPlan.recording_completes {plan : WalkPlan} {start cursor : Word}
    {output : Output}
    (completes : (plan.recording validator memory start output).stop =
      .ok cursor) :
    (plan.recording validator memory start output).visits.length =
        plan.passed validator memory start output ∧
      cursor = plan.handedOver validator memory start output :=
  Validator.trail_completes completes

theorem WalkPlan.counting_completes {plan : WalkPlan} {cursor last : Word}
    (completes : (plan.counting validator memory cursor).stop = .ok last) :
    (plan.counting validator memory cursor).visits.length =
      plan.following validator memory cursor maxDroppedFrames :=
  (Validator.trail_completes completes).1

theorem WalkPlan.passed_le (plan : WalkPlan) (validator : Validator)
    (memory : Memory) (start : Word) (output : Output) :
    plan.passed validator memory start output ≤ plan.budget output := by
  obtain ⟨count, within, early, stops⟩ := exists_leading
    (fun position =>
      memory.holdsFrame (plan.chain validator memory start position))
    (plan.budget output)
  rw [passed, leading_eq within early stops]
  exact within

theorem WalkPlan.budget_le (plan : WalkPlan) (output : Output) :
    plan.budget output - plan.skip ≤ plan.effectiveDepth output := by
  unfold budget
  split <;> omega

theorem WalkPlan.recording_frame {plan : WalkPlan} {start : Word}
    {output : Output} {index : Nat}
    (below : index <
      (plan.recording validator memory start output).visits.length -
        plan.skip) :
    ∃ visit,
      ((plan.recording validator memory start output).visits.drop
        plan.skip)[index]? = some visit ∧
      FrameRecord.read memory
        (plan.chain validator memory start (plan.skip + index)) =
          .ok visit.record ∧
      visit.next =
        plan.chain validator memory start (plan.skip + index + 1) := by
  have position : plan.skip + index <
      (plan.recording validator memory start output).visits.length := by
    omega
  obtain ⟨visit, _, found, recordRead, _, next, _⟩ :=
    Validator.trail_frame position
  refine ⟨visit, ?_, recordRead, next⟩
  rw [List.getElem?_drop]
  exact found

theorem unwind_account {start : Word} {output : Output} {plan : WalkPlan}
    {dropped : Option Nat}
    (completes : (unwind validator memory start output plan).outcome =
      .ok dropped) :
    plan.Account validator memory start output
      (unwind validator memory start output plan) dropped := by
  obtain ⟨cursor, recorded, counting⟩ := unwind_ok_iff.mp completes
  obtain ⟨_, frames, written⟩ :=
    unwind_recording validator memory start output plan
  obtain ⟨length, rfl⟩ := WalkPlan.recording_completes recorded
  have entries : (unwind validator memory start output plan).frames =
      ((plan.recording validator memory start output).visits.drop
        plan.skip).length := by
    rw [frames, List.length_drop]
  constructor
  case frames => rw [frames, length]
  case withinDepth =>
    have within := plan.passed_le validator memory start output
    have depth := plan.budget_le output
    omega
  case judged =>
    intro position below
    exact Validator.trail_judged (length.symm ▸ below)
  case address =>
    intro index below
    obtain ⟨visit, found, recordRead, _⟩ :=
      WalkPlan.recording_frame (frames ▸ below)
    refine ⟨visit.record, recordRead, ?_⟩
    rw [written, Output.holding_address (entries ▸ below), found]
    rfl
  case size =>
    intro sizes present index below
    obtain ⟨visit, found, recordRead, next⟩ :=
      WalkPlan.recording_frame (frames ▸ below)
    rw [written] at present
    rw [Output.holding_size present (entries ▸ below), found, Option.map_some,
      Visit.size_eq recordRead, next]
  case addressKept =>
    intro index late
    rw [written, Output.holding_addressKept (entries ▸ late)]
  case sizesPresent => simp [written, Output.holding, Output.write]
  case sizeKept =>
    intro index late
    rw [written, Output.holding_sizeKept (entries ▸ late)]
  case uncounted =>
    intro off
    rcases counting with ⟨_, none⟩ | ⟨on, _⟩
    · exact none
    · rw [on] at off
      cases off
  case counted =>
    intro on bound limit
    rcases counting with ⟨off, _⟩ | ⟨_, ⟨last, counted⟩, some⟩
    · rw [on] at off
      cases off
    · rw [some, WalkPlan.counting_completes counted]
      simp only [WalkPlan.following, min_leading _ limit]
  case countedJudged =>
    intro on cursor position below
    rcases counting with ⟨off, _⟩ | ⟨_, ⟨last, counted⟩, _⟩
    · rw [on] at off
      cases off
    · rw [← WalkPlan.counting_completes counted] at below
      exact Validator.trail_judged below

/-- No entry is ever written past the end of a buffer, and a walk that is not
broken off is accounted for by its chain. -/
theorem unwind_exact (validator : Validator) (memory : Memory) (start : Word)
    (output : Output) (plan : WalkPlan) :
    (∀ length index, (unwind validator memory start output plan).outcome ≠
      .error (.indexOutOfBounds length index)) ∧
    ∀ dropped,
      (unwind validator memory start output plan).outcome = .ok dropped →
      plan.Account validator memory start output
        (unwind validator memory start output plan) dropped := by
  constructor
  · intro length index broken
    cases unwind_error broken
  · intro dropped completes
    exact unwind_account completes

/-- Four frames with gaps of different sizes. -/
def Memory.fourFrames : Memory :=
  .page 0x1000
    [(0x1000, 0x1020), (0x1008, 0x51), (0x1020, 0x1040), (0x1028, 0x52),
      (0x1040, 0x1080), (0x1048, 0x53), (0x1088, 0x54)]

/-- One frame is skipped, two are recorded and one does not fit, although there
is room for its address. -/
theorem unwind_exact_four_frames :
    let memory := Memory.fourFrames
    let validator : Validator := ⟨none, .unknown, .ofMemory memory⟩
    let output : Output := ⟨[7, 7, 7], some [7, 7]⟩
    let plan : WalkPlan := ⟨8, 1, true, true⟩
    (unwind validator memory 0x1000 output plan).outcome = .ok (some 1) ∧
    plan.Account validator memory 0x1000 output
      (unwind validator memory 0x1000 output plan) (some 1) := by
  intro memory validator output plan
  have completes : (unwind validator memory 0x1000 output plan).outcome =
      .ok (some 1) := by
    decide +kernel
  exact ⟨completes,
    (unwind_exact validator memory 0x1000 output plan).2 (some 1) completes⟩

end FrameChain
