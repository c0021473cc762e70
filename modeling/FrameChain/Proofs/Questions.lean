import FrameChain.Proofs.Acceptance

/-!
# What a transition asks the probe

The probe may be slow, so it matters how often it is asked.  A transition asks
once for a frame pointer that the trampoline saved and once, in a lax walk, for
the caller that it is about to accept.

A list of questions is worth something only if there were no others.  That is
said through the answers: a probe that gives the same answers to the questions
on the list, whatever it says of other addresses, leads to the same transition.
-/

namespace FrameChain

namespace Validator

/-- What a transition asks the probe about, in order.  One that cannot be read
is broken off before its first question. -/
def asked (validator : Validator) (memory : Memory) (options : WalkOptions)
    (current : Word) : List Word :=
  match validator.nextFrame memory current options with
  | .ok transition => transition.probed
  | .error _ => []

/-- The questions of one transition are few, and there are no others: the
answers to them decide it. -/
structure Asks (validator : Validator) (memory : Memory)
    (options : WalkOptions) (current : Word) (questions : List Word) :
    Prop where
  decided : ∀ probe : Probe,
    (∀ address ∈ questions, probe address = validator.probe address) →
    nextFrame { validator with probe } memory current options =
      validator.nextFrame memory current options
  twice : questions.length ≤ 2
  once :
    (∀ registers, ¬ validator.AtTrampoline memory options current registers) →
    questions.length ≤ 1
  never : options.strict = true →
    (∀ registers, ¬ validator.AtTrampoline memory options current registers) →
    questions = []

variable {validator : Validator} {memory : Memory} {options : WalkOptions}
  {current link : Word}

theorem judge_of_answers {probe : Probe} {candidate : Word}
    (same : ∀ address ∈ (validator.judge options current candidate).probed,
      probe address = validator.probe address) :
    judge { validator with probe } options current candidate =
      validator.judge options current candidate := by
  have anchors : Anchored { validator with probe } options candidate ↔
      validator.Anchored options candidate := Iff.rfl
  unfold judge at same ⊢
  simp only [anchors]
  split at same
  next ending => simp only [if_pos ending]
  next going =>
    simp only [if_neg going]
    split at same
    next far => simp only [if_pos far]
    next placed =>
      simp only [if_neg placed]
      split at same
      next misaligned => simp only [if_pos misaligned]
      next aligned =>
        simp only [if_neg aligned]
        split at same
        next strict => simp only [if_pos strict]
        next lax =>
          have answer := same candidate (List.mem_singleton_self _)
          simp only [if_neg lax, answer]

theorem candidate_of_answers {probe : Probe}
    (same : ∀ found,
      validator.candidate memory options current link = .ok found →
      ∀ address ∈ found.probed, probe address = validator.probe address) :
    candidate { validator with probe } memory options current link =
      validator.candidate memory options current link := by
  have registersSame : consulted { validator with probe } options =
      validator.consulted options := rfl
  have savedSame : needsSaved { validator with probe } memory current link =
      validator.needsSaved memory current link := rfl
  unfold candidate at same ⊢
  rw [registersSame]
  cases present : validator.consulted options with
  | none => rfl
  | some registers =>
      simp only [present] at same ⊢
      unfold corrected at same ⊢
      rw [savedSame]
      cases answered : validator.needsSaved memory current link registers with
      | error cause => rfl
      | ok saved =>
          cases saved with
          | false => rfl
          | true =>
              simp only [answered, bind, Except.bind, ↓reduceIte] at same ⊢
              cases slotRead : memory.wordAt registers.stackPointer
                  (validator.analysis.pushes - 1) with
              | error cause => rfl
              | ok frame =>
                  simp only [slotRead] at same ⊢
                  have answer := same _ rfl frame (List.mem_singleton_self _)
                  simp only [answer]

theorem nextFrame_of_answers {probe : Probe}
    (same : ∀ address ∈ validator.asked memory options current,
      probe address = validator.probe address) :
    nextFrame { validator with probe } memory current options =
      validator.nextFrame memory current options := by
  unfold asked nextFrame at same
  unfold nextFrame
  cases linkRead : memory.readWord current with
  | error cause => rfl
  | ok link =>
      simp only [linkRead, bind, Except.bind] at same ⊢
      have candidates :
          candidate { validator with probe } memory options current link =
            validator.candidate memory options current link := by
        apply candidate_of_answers
        intro found judged address asked
        simp only [judged, pure, Except.pure] at same
        exact same address (List.mem_append_left _ asked)
      rw [candidates]
      cases judged : validator.candidate memory options current link with
      | error cause => rfl
      | ok found =>
          simp only [judged, pure, Except.pure] at same ⊢
          rw [judge_of_answers fun address asked =>
            same address (List.mem_append_right _ asked)]

theorem judge_probed_length_le (candidate : Word) :
    (validator.judge options current candidate).probed.length ≤ 1 := by
  unfold judge
  split
  · exact Nat.zero_le 1
  · split
    · exact Nat.zero_le 1
    · split
      · exact Nat.zero_le 1
      · split
        · exact Nat.zero_le 1
        · exact Nat.le_refl 1

theorem Proposes.probed_length_le {candidate : Candidate}
    (proposes : validator.Proposes memory options current candidate) :
    candidate.probed.length ≤ 1 := by
  cases proposes with
  | saved => exact Nat.le_refl 1
  | refused => exact Nat.le_refl 1
  | link => exact Nat.zero_le 1

theorem Proposes.probed_of_elsewhere {candidate : Candidate}
    (proposes : validator.Proposes memory options current candidate)
    (elsewhere : ∀ registers,
      ¬ validator.AtTrampoline memory options current registers) :
    candidate.probed = [] := by
  cases proposes with
  | saved saves => exact absurd elsewhere saves.not_elsewhere
  | refused saves => exact absurd elsewhere saves.not_elsewhere
  | link => rfl

/-- What a transition asks: to find its candidate, where the trampoline saved one,
and then, in a lax walk, to judge it. -/
theorem exists_asked_eq (validator : Validator) (memory : Memory)
    (options : WalkOptions) (current : Word) :
    ∃ finding judging,
      validator.asked memory options current = finding ++ judging ∧
      finding.length ≤ 1 ∧
      ((∀ registers,
          ¬ validator.AtTrampoline memory options current registers) →
        finding = []) ∧
      judging.length ≤ 1 ∧
      (options.strict = true → judging = []) := by
  unfold asked
  cases judged : validator.nextFrame memory current options with
  | error cause =>
      exact ⟨[], [], rfl, Nat.zero_le 1, fun _ => rfl, Nat.zero_le 1,
        fun _ => rfl⟩
  | ok transition =>
      obtain ⟨candidate, proposes, rfl⟩ := nextFrame_eq_ok judged
      exact ⟨candidate.probed, _, rfl, proposes.probed_length_le,
        proposes.probed_of_elsewhere, judge_probed_length_le candidate.frame,
        fun strict => judge_probed_of_strict strict current candidate.frame⟩

theorem asks (validator : Validator) (memory : Memory) (options : WalkOptions)
    (current : Word) :
    validator.Asks memory options current
      (validator.asked memory options current) := by
  obtain ⟨finding, judging, questions, oneToFind, found, oneToJudge, strictly⟩ :=
    validator.exists_asked_eq memory options current
  constructor
  case decided =>
    intro probe same
    exact nextFrame_of_answers same
  case twice =>
    rw [questions, List.length_append]
    exact Nat.add_le_add oneToFind oneToJudge
  case once =>
    intro elsewhere
    rw [questions, found elsewhere, List.nil_append]
    exact oneToJudge
  case never =>
    intro strict elsewhere
    rw [questions, found elsewhere, strictly strict, List.nil_append]

end Validator

end FrameChain
