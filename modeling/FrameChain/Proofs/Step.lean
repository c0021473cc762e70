import FrameChain.Proofs.Fault

/-!
# Steps without a correction

Where the trampoline's correction does not apply, the record of a frame alone
decides the step from it: the link is the candidate, and what is taken is the
record with the caller that its link is judged to be.

Whether it applies is a property of one frame.  A walk without a correction
has no such frame, but a walk may also know the trampoline and meet none.
-/

namespace FrameChain

namespace Validator

/-- The correction applies to the step from a frame. -/
def Corrects (validator : Validator) (record : FrameRecord) : Prop :=
  ∃ registers, validator.context = some registers ∧
    validator.analysis.NeedsCorrection ∧
    Interrupted validator.analysis registers record.link record.returnAddress

/-- What is taken at a frame whose link is the candidate. -/
def onward (validator : Validator) (options : WalkOptions)
    (record : FrameRecord) : Visit :=
  let transition := validator.judge options record.framePointer record.link
  ⟨record, transition.next.getD 0, transition.probed⟩

variable {validator : Validator} {memory : Memory} {options : WalkOptions}
  {record : FrameRecord}

@[simp] theorem onward_record :
    (validator.onward options record).record = record := rfl

@[simp] theorem onward_next :
    (validator.onward options record).next =
      (validator.judge options record.framePointer record.link).next.getD 0 :=
  rfl

theorem not_corrects_of_uncorrected
    (uncorrected : ¬ validator.analysis.NeedsCorrection) :
    ¬ validator.Corrects record := by
  rintro ⟨_, _, needed, _⟩
  exact uncorrected needed

theorem consulted_eq_some {registers : Registers}
    (consulted : validator.consulted options = some registers) :
    validator.context = some registers := by
  unfold Validator.consulted at consulted
  split at consulted
  · exact consulted
  · cases consulted

theorem needsSaved_of_not_corrects {cursor : Word} {registers : Registers}
    (recordRead : FrameRecord.read memory cursor = .ok record)
    (present : validator.context = some registers)
    (plain : ¬ validator.Corrects record) :
    validator.needsSaved memory cursor record.link registers = .ok false := by
  unfold needsSaved
  split
  next needed =>
    obtain ⟨_, _, returnRead⟩ := FrameRecord.read_eq_ok_iff.mp recordRead
    have elsewhere : ¬ Interrupted validator.analysis registers record.link
        record.returnAddress :=
      fun interrupted => plain ⟨registers, present, needed, interrupted⟩
    rw [returnRead]
    exact congrArg Except.ok (decide_eq_false elsewhere)
  next => rfl

theorem candidate_of_not_corrects {cursor : Word}
    (recordRead : FrameRecord.read memory cursor = .ok record)
    (plain : ¬ validator.Corrects record) :
    validator.candidate memory options cursor record.link =
      .ok ⟨record.link, []⟩ := by
  unfold candidate
  split
  next => rfl
  next registers consulted =>
    have unsaved := needsSaved_of_not_corrects recordRead
      (consulted_eq_some consulted) plain
    simp [corrected, unsaved, bind, Except.bind, pure, Except.pure]

theorem nextFrame_of_not_corrects {cursor : Word}
    (recordRead : FrameRecord.read memory cursor = .ok record)
    (plain : ¬ validator.Corrects record) :
    validator.nextFrame memory cursor options =
      .ok (validator.judge options cursor record.link) := by
  obtain ⟨_, linkRead, _⟩ := FrameRecord.read_eq_ok_iff.mp recordRead
  simp [nextFrame, linkRead, candidate_of_not_corrects recordRead plain, bind,
    Except.bind, pure, Except.pure]

/-- The record of a frame decides what is taken there. -/
theorem visit_of_not_corrects (options : WalkOptions) {cursor : Word}
    (recordRead : FrameRecord.read memory cursor = .ok record)
    (returns : record.returnAddress ≠ 0)
    (plain : ¬ validator.Corrects record) :
    validator.visit memory options cursor =
      .ok (some (validator.onward options record)) := by
  have own := FrameRecord.read_framePointer recordRead
  refine visit_eq_some_iff.mpr
    ⟨validator.judge options cursor record.link, recordRead, returns,
      nextFrame_of_not_corrects recordRead plain, ?_, ?_⟩
  · rw [onward, own]
  · rw [onward, own]

theorem visit_of_unread {cursor : Word} {cause : Abort}
    (unread : FrameRecord.read memory cursor = .error cause) :
    validator.visit memory options cursor = .error cause := by
  simp [Validator.visit, unread, bind, Except.bind]

/-- Candidates are judged by the probe and, strictly, by the context frame. -/
theorem judge_congr {first second : Validator} {others : WalkOptions}
    (probe : first.probe = second.probe)
    (strictness : options.strict = others.strict)
    (anchors : options.strict = true → ∀ candidate ≠ 0,
      (first.Anchored options candidate ↔ second.Anchored others candidate))
    (current candidate : Word) :
    first.judge options current candidate =
      second.judge others current candidate := by
  unfold judge
  by_cases ended : candidate = 0 ∨ candidate = current
  · rw [if_pos ended, if_pos ended]
  · rw [if_neg ended, if_neg ended, ← probe, ← strictness]
    have nonzero : candidate ≠ 0 := fun null => ended (.inl null)
    cases strict : options.strict with
    | false => simp
    | true => simp only [anchors strict candidate nonzero]

theorem visit_congr {first second : Validator} {others : WalkOptions}
    (firstPlain : ¬ first.analysis.NeedsCorrection)
    (secondPlain : ¬ second.analysis.NeedsCorrection)
    (judged : ∀ current candidate, first.judge options current candidate =
      second.judge others current candidate) (memory : Memory)
    (cursor : Word) :
    first.visit memory options cursor =
      second.visit memory others cursor := by
  have stepped : first.nextFrame memory cursor options =
      second.nextFrame memory cursor others := by
    rw [nextFrame_of_uncorrected firstPlain,
      nextFrame_of_uncorrected secondPlain]
    exact congrArg (Except.map · _) (funext (judged cursor))
  simp only [Validator.visit, stepped]

theorem onward_next_of_judge {caller : Word}
    (judged : (validator.judge options record.framePointer
      record.link).next = some caller) :
    (validator.onward options record).next = caller := by
  rw [onward_next, judged, Option.getD_some]

theorem judge_of_onward {next : Word}
    (found : (validator.onward options record).next = next)
    (nonzero : next ≠ 0) :
    (validator.judge options record.framePointer record.link).next =
      some next := by
  rw [onward_next] at found
  cases judged :
      (validator.judge options record.framePointer record.link).next with
  | none =>
      rw [judged] at found
      exact absurd found.symm nonzero
  | some caller =>
      rw [judged] at found
      exact congrArg some found

theorem eq_onward_of_mem_trail
    (uncorrected : ¬ validator.analysis.NeedsCorrection) {budget : Nat}
    {start : Word} {visit : Visit}
    (taken : visit ∈ (validator.trail memory options budget start).visits) :
    visit = validator.onward options visit.record := by
  obtain ⟨position, found⟩ := List.mem_iff_getElem?.mp taken
  obtain ⟨_, visited⟩ := trail_visit found
  obtain ⟨_, recordRead, returns, _⟩ := visit_eq_some_iff.mp visited
  have alone : validator.visit memory options
      (validator.chain memory options start position) =
        .ok (some (validator.onward options visit.record)) :=
    visit_of_not_corrects options recordRead returns
      (not_corrects_of_uncorrected uncorrected)
  exact Option.some.inj (Except.ok.inj (visited.symm.trans alone))

theorem judge_of_mem_trail
    (uncorrected : ¬ validator.analysis.NeedsCorrection) {budget : Nat}
    {start : Word} {visit : Visit}
    (taken : visit ∈ (validator.trail memory options budget start).visits)
    (going : visit.next ≠ 0) :
    (validator.judge options visit.record.framePointer
      visit.record.link).next = some visit.next := by
  have whole := eq_onward_of_mem_trail uncorrected taken
  exact judge_of_onward (congrArg Visit.next whole.symm) going

end Validator

end FrameChain
