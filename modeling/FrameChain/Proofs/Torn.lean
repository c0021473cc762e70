import FrameChain.Proofs.Account

/-!
# Torn records

The probe that runs on a real stack answers for the word at an address, and a
frame record is two words.  A record of which only the first word is mapped is
torn: a lax transition accepts it, and the walk is broken off when it is read.
Without a correction of the trampoline nothing else breaks off a lax leg that
begins at a record.

A strict transition asks no probe, so the frame that a strict recording leg
hands over may be any address.  The counting leg reads it first.
-/

namespace FrameChain

def Memory.HoldsRecord (memory : Memory) (framePointer : Word) : Prop :=
  memory.Mapped framePointer Word.size ∧
    memory.Mapped (FrameRecord.returnSlot framePointer) Word.size

/-- Of the record at an address only the link is mapped. -/
def Memory.Torn (memory : Memory) (framePointer : Word) : Prop :=
  framePointer ≠ 0 ∧
    memory.Mapped framePointer Word.size ∧
    ¬ memory.Mapped (FrameRecord.returnSlot framePointer) Word.size

instance (memory : Memory) (framePointer : Word) :
    Decidable (memory.HoldsRecord framePointer) :=
  inferInstanceAs (Decidable (_ ∧ _))

instance (memory : Memory) (framePointer : Word) :
    Decidable (memory.Torn framePointer) :=
  inferInstanceAs (Decidable (_ ∧ _ ∧ _))

/-- There is a frame at each position before this one. -/
def Validator.Reaches (validator : Validator) (memory : Memory)
    (options : WalkOptions) (start : Word) (position : Nat) : Prop :=
  ∀ earlier < position,
    memory.holdsFrame (validator.chain memory options start earlier)

instance (validator : Validator) (memory : Memory) (options : WalkOptions)
    (start : Word) (position : Nat) :
    Decidable (validator.Reaches memory options start position) :=
  inferInstanceAs (Decidable (∀ earlier < position, _))

/-- The number of positions that the two legs of a lax walk may go past. -/
def WalkPlan.reach (plan : WalkPlan) (output : Output) : Nat :=
  plan.budget output + if plan.countDropped then maxDroppedFrames else 0

theorem Memory.holdsRecord_iff_not_torn {memory : Memory}
    {framePointer : Word} (nonzero : framePointer ≠ 0)
    (mapped : memory.Mapped framePointer Word.size) :
    memory.HoldsRecord framePointer ↔ ¬ memory.Torn framePointer := by
  constructor
  · intro ⟨_, returnAddress⟩ ⟨_, _, unmapped⟩
    exact unmapped returnAddress
  · intro whole
    refine ⟨mapped, Decidable.byContradiction fun unmapped => ?_⟩
    exact whole ⟨nonzero, mapped, unmapped⟩

theorem FrameRecord.read_isOk_iff {memory : Memory} {framePointer : Word} :
    (∃ record, FrameRecord.read memory framePointer = .ok record) ↔
      memory.HoldsRecord framePointer := by
  constructor
  · intro ⟨record, recordRead⟩
    obtain ⟨_, linkRead, returnRead⟩ := read_eq_ok_iff.mp recordRead
    exact ⟨Memory.readWord_isOk_iff.mp ⟨_, linkRead⟩,
      Memory.readWord_isOk_iff.mp ⟨_, returnRead⟩⟩
  · intro ⟨link, returnAddress⟩
    exact FrameRecord.read_of_mapped link returnAddress

theorem Memory.holdsRecord_of_holdsFrame {memory : Memory}
    {framePointer : Word} (frame : memory.holdsFrame framePointer) :
    memory.HoldsRecord framePointer := by
  obtain ⟨_, record, recordRead, _⟩ := holdsFrame_iff.mp frame
  exact FrameRecord.read_isOk_iff.mp ⟨record, recordRead⟩

variable {validator : Validator} {memory : Memory} {options : WalkOptions}

theorem Validator.visit_isOk_iff
    (uncorrected : ¬ validator.analysis.NeedsCorrection) {cursor : Word} :
    (∃ found, validator.visit memory options cursor = .ok found) ↔
      memory.HoldsRecord cursor := by
  rw [← FrameRecord.read_isOk_iff]
  constructor
  · intro ⟨found, visited⟩
    obtain ⟨record, recordRead, _⟩ := bind_eq_ok_iff.mp visited
    exact ⟨record, recordRead⟩
  · intro ⟨record, recordRead⟩
    by_cases returns : record.returnAddress = 0
    · exact ⟨none, visit_eq_none_iff.mpr ⟨record, recordRead, returns⟩⟩
    · -- Without a correction a transition reads the link again, and no more.
      obtain ⟨_, linkRead, _⟩ := FrameRecord.read_eq_ok_iff.mp recordRead
      let transition := validator.judge options cursor record.link
      have judged : validator.nextFrame memory cursor options =
          .ok transition := by
        rw [nextFrame_of_uncorrected uncorrected, linkRead]
        rfl
      exact ⟨some ⟨record, transition.next.getD 0, transition.probed⟩,
        visit_eq_some_iff.mpr
          ⟨transition, recordRead, returns, judged, rfl, rfl⟩⟩

theorem Validator.trail_reaches (validator : Validator) (memory : Memory)
    (options : WalkOptions) (budget : Nat) (start : Word) :
    validator.Reaches memory options start
      (validator.trail memory options budget start).visits.length := by
  intro position below
  obtain ⟨nonzero, visited⟩ := trail_visit (List.getElem?_eq_getElem below)
  exact Memory.holdsFrame_of_visit nonzero visited

theorem Validator.Ends.isOk_iff
    (uncorrected : ¬ validator.analysis.NeedsCorrection)
    {budget taken : Nat} {start : Word} {stop : Except Abort Word}
    (reached : validator.Reaches memory options start taken)
    (ends : validator.Ends memory options budget taken
      (validator.chain memory options start taken) stop) :
    (∃ cursor, stop = .ok cursor) ↔
      ∀ position < budget,
        validator.Reaches memory options start position →
          validator.chain memory options start position = 0 ∨
            memory.HoldsRecord
              (validator.chain memory options start position) := by
  constructor
  · rintro ⟨cursor, rfl⟩ position within reaches
    rcases Nat.lt_trichotomy position taken with early | rfl | late
    · exact .inr (Memory.holdsRecord_of_holdsFrame (reached position early))
    · cases ends with
      | spent all => exact absurd all (Nat.ne_of_lt within)
      | null _ zero => exact .inl zero
      | noReturn _ _ last =>
          exact .inr ((visit_isOk_iff uncorrected).mp ⟨none, last⟩)
    · -- No frame is past the position where the trail ended.
      have ended := ends.stops_early (by omega)
      rw [reaches taken late] at ended
      cases ended
  · intro held
    cases ends with
    | spent => exact ⟨_, rfl⟩
    | null => exact ⟨_, rfl⟩
    | noReturn => exact ⟨_, rfl⟩
    | broken early nonzero failed =>
        have record := (held taken early reached).resolve_left nonzero
        obtain ⟨found, visited⟩ := (visit_isOk_iff uncorrected).mpr record
        cases failed.symm.trans visited

theorem Validator.trail_completes_iff
    (uncorrected : ¬ validator.analysis.NeedsCorrection)
    (budget : Nat) (start : Word) :
    (validator.trail memory options budget start).Completes ↔
      ∀ position < budget,
        validator.Reaches memory options start position →
          validator.chain memory options start position = 0 ∨
            memory.HoldsRecord
              (validator.chain memory options start position) :=
  (validator.trail_ends memory options budget start).isOk_iff uncorrected
    (validator.trail_reaches memory options budget start)

/-- Where the probe answers for the memory, a lax transition leads to a frame
whose link is mapped. -/
theorem Validator.caller_mapped
    (uncorrected : ¬ validator.analysis.NeedsCorrection)
    (probe : validator.probe = Probe.ofMemory memory)
    (lax : options.strict = false) (framePointer : Word) :
    validator.caller memory options framePointer = 0 ∨
      memory.Mapped (validator.caller memory options framePointer)
        Word.size := by
  rw [caller, nextFrame_of_uncorrected uncorrected]
  cases memory.readWord framePointer with
  | error cause => exact .inl rfl
  | ok link =>
      simp only [Except.map]
      cases accepted : (validator.judge options framePointer link).next with
      | none => exact .inl rfl
      | some next =>
          obtain ⟨_, _, _, aligned, _, asked⟩ :=
            judge_next_eq_some_iff.mp accepted
          have readable := asked lax
          rw [probe, Probe.ofMemory_eq_true_iff,
            Word.alignDown_of_aligned aligned] at readable
          exact .inr readable.2

theorem Validator.chain_mapped
    (uncorrected : ¬ validator.analysis.NeedsCorrection)
    (probe : validator.probe = Probe.ofMemory memory)
    (lax : options.strict = false) {start : Word}
    (first : start = 0 ∨ memory.Mapped start Word.size) (position : Nat) :
    validator.chain memory options start position = 0 ∨
      memory.Mapped (validator.chain memory options start position)
        Word.size := by
  cases position with
  | zero => exact first
  | succ position =>
      exact caller_mapped uncorrected probe lax
        (validator.chain memory options start position)

theorem Validator.lax_trail_completes_iff
    (uncorrected : ¬ validator.analysis.NeedsCorrection)
    (probe : validator.probe = Probe.ofMemory memory)
    (lax : options.strict = false) {start : Word}
    (first : start = 0 ∨ memory.Mapped start Word.size) (budget : Nat) :
    (validator.trail memory options budget start).Completes ↔
      ∀ position < budget,
        validator.Reaches memory options start position →
          ¬ memory.Torn (validator.chain memory options start position) := by
  rw [trail_completes_iff uncorrected]
  refine forall_congr' fun position => imp_congr_right fun _ =>
    imp_congr_right fun _ => ?_
  have mapped := chain_mapped uncorrected probe lax first position
  by_cases null : validator.chain memory options start position = 0
  · simp [null, Memory.Torn]
  · rw [← Memory.holdsRecord_iff_not_torn null (mapped.resolve_left null)]
    exact or_iff_right null

theorem WalkPlan.lax_completes_iff {plan : WalkPlan}
    (lax : plan.strict = false) (start : Word) (output : Output) :
    (unwind validator memory start output plan).Completes ↔
      (validator.trail memory (plan.options validator) (plan.reach output)
        start).Completes := by
  rw [unwind_completes_iff, reach]
  cases counted : plan.countDropped with
  | false => simp [Trail.Completes, recording]
  | true =>
      rw [if_pos rfl, lax_trail lax, Trail.andThen_completes_iff]
      simp

/-- A lax walk that begins at a record, over the probe that answers for the
memory and without a correction, completes exactly when no record that it
reaches is torn. -/
theorem unwind_lax_completes_iff {start : Word} {output : Output}
    {plan : WalkPlan} (lax : plan.strict = false)
    (uncorrected : ¬ validator.analysis.NeedsCorrection)
    (probe : validator.probe = Probe.ofMemory memory)
    (first : start = 0 ∨ memory.HoldsRecord start) :
    (unwind validator memory start output plan).Completes ↔
      ∀ position < plan.reach output,
        validator.Reaches memory (plan.options validator) start position →
          ¬ memory.Torn (plan.chain validator memory start position) := by
  rw [WalkPlan.lax_completes_iff lax]
  exact Validator.lax_trail_completes_iff uncorrected probe lax
    (first.imp_right And.left) (plan.reach output)

theorem unwind_lax_completes_iff_two_frames :
    let memory := Memory.page 0x1000
      [(0x1000, 0x1ff0), (0x1008, 0x51), (0x1ff0, 0x3000), (0x1ff8, 0x52)]
    let validator : Validator := ⟨none, .unknown, .ofMemory memory⟩
    let output : Output := .addressesOnly [0, 0, 0, 0]
    let plan : WalkPlan := ⟨4, 0, false, false⟩
    (plan.strict = false ∧ ¬ validator.analysis.NeedsCorrection ∧
      validator.probe = Probe.ofMemory memory ∧ memory.HoldsRecord 0x1000) ∧
    (unwind validator memory 0x1000 output plan).Completes := by
  intro memory validator output plan
  have uncorrected : ¬ validator.analysis.NeedsCorrection := by decide
  have first : memory.HoldsRecord 0x1000 := by decide +kernel
  have whole : ∀ position < plan.reach output,
      validator.Reaches memory (plan.options validator) 0x1000 position →
        ¬ memory.Torn (plan.chain validator memory 0x1000 position) := by
    decide +kernel
  exact ⟨⟨rfl, uncorrected, rfl, first⟩,
    (unwind_lax_completes_iff rfl uncorrected rfl (.inr first)).mpr whole⟩

/-- A lax walk can be broken off: the probe accepts the last word of a page,
and the record there ends outside. -/
theorem exists_lax_walk_broken_off :
    ∃ (validator : Validator) (memory : Memory) (start : Word)
      (output : Output) (plan : WalkPlan),
      plan.strict = false ∧
      ¬ validator.analysis.NeedsCorrection ∧
      validator.probe = Probe.ofMemory memory ∧
      memory.HoldsRecord start ∧
      (unwind validator memory start output plan).outcome =
        .error .unmappedRead := by
  let memory := Memory.page 0x1000 [(0x1000, 0x1ff8), (0x1008, 1)]
  let validator : Validator := ⟨none, .unknown, .ofMemory memory⟩
  let output : Output := .addressesOnly [0, 0, 0, 0]
  let plan : WalkPlan := ⟨4, 0, false, false⟩
  have first : memory.HoldsRecord 0x1000 := by decide +kernel
  have broken : (unwind validator memory 0x1000 output plan).outcome =
      .error .unmappedRead := by
    decide +kernel
  exact ⟨validator, memory, 0x1000, output, plan, rfl, by decide, rfl, first,
    broken⟩

theorem WalkPlan.counted_completes_iff {plan : WalkPlan} {start : Word}
    {output : Output}
    (plain : (unwind validator memory start output
      { plan with countDropped := false }).Completes) :
    (unwind validator memory start output
        { plan with countDropped := true }).Completes ↔
      (plan.counting validator memory
        (plan.handedOver validator memory start output)).Completes := by
  obtain ⟨cursor, recorded, _⟩ := unwind_completes_iff.mp plain
  change (plan.recording validator memory start output).stop = .ok cursor
    at recorded
  obtain ⟨_, rfl⟩ := recording_completes recorded
  rw [unwind_completes_iff]
  constructor
  · intro ⟨cursor, again, counted⟩
    cases recorded.symm.trans again
    exact counted rfl
  · intro counted
    exact ⟨_, recorded, fun _ => counted⟩

/-- Counting changes nothing that is recorded.  A walk that completes without
counting, over the probe that answers for the memory and without a correction,
completes with counting exactly when the frame that is handed over is 0 or has
a record, and no record that the counting leg reaches is torn. -/
theorem unwind_counting_completes_iff {start : Word} {output : Output}
    {plan : WalkPlan} (uncorrected : ¬ validator.analysis.NeedsCorrection)
    (probe : validator.probe = Probe.ofMemory memory)
    (completes : (unwind validator memory start output
      { plan with countDropped := false }).Completes) :
    let plain := unwind validator memory start output
      { plan with countDropped := false }
    let counted := unwind validator memory start output
      { plan with countDropped := true }
    let cursor := plan.handedOver validator memory start output
    counted.frames = plain.frames ∧ counted.output = plain.output ∧
      (counted.Completes ↔
        (cursor = 0 ∨ memory.HoldsRecord cursor) ∧
          ∀ position < maxDroppedFrames,
            validator.Reaches memory (plan.options validator).relaxed cursor
                position →
              ¬ memory.Torn
                (plan.laxChain validator memory cursor position)) := by
  intro plain counted cursor
  obtain ⟨_, plainFrames, plainOutput⟩ := unwind_recording validator memory
    start output { plan with countDropped := false }
  obtain ⟨_, countedFrames, countedOutput⟩ := unwind_recording validator
    memory start output { plan with countDropped := true }
  refine ⟨countedFrames.trans plainFrames.symm,
    countedOutput.trans plainOutput.symm, ?_⟩
  have relaxed : (plan.options validator).relaxed.strict = false := rfl
  have torn (first : cursor = 0 ∨ memory.Mapped cursor Word.size) :=
    Validator.lax_trail_completes_iff uncorrected probe relaxed first
      maxDroppedFrames
  rw [WalkPlan.counted_completes_iff completes]
  constructor
  · intro followed
    have first : cursor = 0 ∨ memory.HoldsRecord cursor :=
      (Validator.trail_completes_iff uncorrected maxDroppedFrames cursor).mp
        followed 0 (by decide) (by simp [Validator.Reaches])
    exact ⟨first, (torn (first.imp_right And.left)).mp followed⟩
  · intro ⟨first, whole⟩
    exact (torn (first.imp_right And.left)).mpr whole

theorem unwind_counting_completes_iff_four_frames :
    let memory := Memory.fourFrames
    let validator : Validator := ⟨none, .unknown, .ofMemory memory⟩
    let output : Output := ⟨[7, 7], some [7, 7]⟩
    let plan : WalkPlan := ⟨1, 0, true, true⟩
    let plain := unwind validator memory 0x1000 output
      { plan with countDropped := false }
    let counted := unwind validator memory 0x1000 output plan
    let cursor := plan.handedOver validator memory 0x1000 output
    (¬ validator.analysis.NeedsCorrection ∧
      validator.probe = Probe.ofMemory memory ∧ plain.Completes) ∧
    counted.output = plain.output ∧ counted.outcome = .ok (some 3) ∧
    (cursor = 0 ∨ memory.HoldsRecord cursor) := by
  intro memory validator output plan plain counted cursor
  have uncorrected : ¬ validator.analysis.NeedsCorrection := by decide
  have completes : plain.Completes := ⟨none, by decide +kernel⟩
  have three : counted.outcome = .ok (some 3) := by decide +kernel
  obtain ⟨_, written, further⟩ := unwind_counting_completes_iff
    uncorrected rfl completes
  exact ⟨⟨uncorrected, rfl, completes⟩, written, three,
    (further.mp ⟨some 3, three⟩).1⟩

/-- Counting can break a walk off: a strict transition hands over a frame that
is not mapped. -/
theorem exists_counting_broken_off :
    ∃ (validator : Validator) (memory : Memory) (start : Word)
      (output : Output) (plan : WalkPlan),
      plan.strict = true ∧
      ¬ validator.analysis.NeedsCorrection ∧
      validator.probe = Probe.ofMemory memory ∧
      memory.HoldsRecord start ∧
      (unwind validator memory start output
        { plan with countDropped := false }).Completes ∧
      (unwind validator memory start output
        { plan with countDropped := true }).outcome =
          .error .unmappedRead := by
  let memory := Memory.page 0x1000 [(0x1000, 0x3000), (0x1008, 1)]
  let validator : Validator := ⟨none, .unknown, .ofMemory memory⟩
  let output : Output := .addressesOnly [0]
  let plan : WalkPlan := ⟨1, 0, true, true⟩
  have first : memory.HoldsRecord 0x1000 := by decide +kernel
  have plain : (unwind validator memory 0x1000 output
      { plan with countDropped := false }).Completes :=
    ⟨none, by decide +kernel⟩
  have broken : (unwind validator memory 0x1000 output
      { plan with countDropped := true }).outcome = .error .unmappedRead := by
    decide +kernel
  exact ⟨validator, memory, 0x1000, output, plan, rfl, by decide, rfl, first,
    plain, broken⟩

end FrameChain
