import FrameChain.Proofs.Chain

/-!
# What breaks a walk off

A walk reads memory and writes into its buffers, and only the reads can fail:
an entry is written where the buffers have room.  Without a correction of the
trampoline a transition reads nothing beyond the record of its frame, so a
trail is broken off exactly at a frame whose record is not mapped as a whole.
-/

namespace FrameChain

variable {validator : Validator} {memory : Memory} {options : WalkOptions}

theorem Validator.corrected_error {current link : Word}
    {registers : Registers} {cause : Abort}
    (failed : validator.corrected memory current link registers =
      .error cause) :
    cause = .unmappedRead := by
  rw [corrected, bind_eq_error_iff] at failed
  rcases failed with unsaved | ⟨saved, _, slot⟩
  · unfold needsSaved at unsaved
    split at unsaved
    · rcases bind_eq_error_iff.mp unsaved with failed | ⟨_, _, whole⟩
      · exact Memory.readWord_error failed
      · cases whole
    · cases unsaved
  · split at slot
    · rcases bind_eq_error_iff.mp slot with failed | ⟨_, _, whole⟩
      · exact Memory.readWord_error failed
      · cases whole
    · cases slot

theorem Validator.candidate_error {current link : Word} {cause : Abort}
    (failed : validator.candidate memory options current link =
      .error cause) :
    cause = .unmappedRead := by
  unfold candidate at failed
  split at failed
  · cases failed
  · exact corrected_error failed

theorem Validator.nextFrame_error {current : Word} {cause : Abort}
    (failed : validator.nextFrame memory current options = .error cause) :
    cause = .unmappedRead := by
  rw [nextFrame, bind_eq_error_iff] at failed
  rcases failed with linkFailed | ⟨link, _, rest⟩
  · exact Memory.readWord_error linkFailed
  · rcases bind_eq_error_iff.mp rest with failed | ⟨_, _, whole⟩
    · exact candidate_error failed
    · cases whole

theorem Validator.visit_error {cursor : Word} {cause : Abort}
    (failed : validator.visit memory options cursor = .error cause) :
    cause = .unmappedRead := by
  rw [Validator.visit, bind_eq_error_iff] at failed
  rcases failed with unread | ⟨record, _, rest⟩
  · exact FrameRecord.read_error unread
  · split at rest
    · cases rest
    · rcases bind_eq_error_iff.mp rest with unjudged | ⟨_, _, whole⟩
      · exact nextFrame_error unjudged
      · cases whole

theorem Validator.trail_error_cause {budget : Nat} {start : Word}
    {cause : Abort}
    (broken : (validator.trail memory options budget start).stop =
      .error cause) :
    cause = .unmappedRead := by
  have ends := validator.trail_ends memory options budget start
  simp only [broken] at ends
  cases ends with
  | broken _ _ failed => exact visit_error failed

/-- Whatever breaks a walk off is a read; no entry is written past the end of
a buffer. -/
theorem unwind_error {start : Word} {output : Output} {plan : WalkPlan}
    {cause : Abort}
    (broken : (unwind validator memory start output plan).outcome =
      .error cause) :
    cause = .unmappedRead := by
  rw [unwind_outcome] at broken
  rcases bind_eq_error_iff.mp broken with recording | ⟨cursor, _, rest⟩
  · exact Validator.trail_error_cause recording
  · split at rest
    · cases stopped : (plan.counting validator memory cursor).stop with
      | error found =>
          simp only [stopped, Except.map, Except.error.injEq] at rest
          exact rest ▸ Validator.trail_error_cause stopped
      | ok last => simp [stopped, Except.map] at rest
    · cases rest

end FrameChain
