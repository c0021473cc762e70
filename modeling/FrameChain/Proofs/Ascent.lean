import FrameChain.Proofs.Acceptance
import FrameChain.Proofs.Account
import FrameChain.Proofs.Step

/-!
# Frames found again by their sizes

A strict walk without a context only climbs: every step goes up by some words,
and not too far.  So the sizes that it records are distances, and they add up
to the places of the frames from the first one on, without a wrap.  Only the
last size may be unknown, where the link of its frame leads to no frame above.
-/

namespace FrameChain

/-- The place of the frame at an index, by the first frame and the sizes
before it. -/
def placeBySizes (first : Word) (sizes : List Word) (index : Nat) : Nat :=
  (sizes.take index).foldl (fun place size => place + size.toNat) first.toNat

/-- The step that a strict walk without a context takes. -/
def Climbs (current next : Word) : Prop :=
  current.toNat < next.toNat ∧
    next.toNat ≤ current.toNat + maxFrameBytes ∧
    next.Aligned

instance (current next : Word) : Decidable (Climbs current next) :=
  inferInstanceAs (Decidable (_ ∧ _ ∧ _))

/-- The link of a frame leads to a frame above. -/
def Memory.LeadsUp (memory : Memory) (framePointer : Word) : Prop :=
  ∃ link, memory.readWord framePointer = .ok link ∧ Climbs framePointer link

/-- The distance of two frames, a step apart. -/
structure StepSize (size : Word) : Prop where
  positive : 0 < size.toNat
  words : size.toNat % Word.size = 0
  bounded : size.toNat ≤ maxFrameBytes

/-- The sizes that were recorded say where the recorded frames are, from the
first one on. -/
structure WalkResult.PlacedBy (result : WalkResult) (memory : Memory)
    (first : Word) (sizes : List Word) : Prop where
  address : ∀ index < result.frames,
    placeBySizes first sizes index < UInt64.size ∧
      ∃ address, result.output.addresses[index]? = some address ∧
        memory.readWord (FrameRecord.returnSlot
          (UInt64.ofNat (placeBySizes first sizes index))) = .ok address
  size : ∀ index, index + 1 < result.frames →
    ∃ size, sizes[index]? = some size ∧ StepSize size
  last : ∀ index, index + 1 = result.frames →
    ∃ size, sizes[index]? = some size ∧ (StepSize size ∨ size = 0) ∧
      (size = 0 ↔
        ¬ memory.LeadsUp (UInt64.ofNat (placeBySizes first sizes index)))
  top : placeBySizes first sizes result.frames ≤ UInt64.size - Word.size

theorem placeBySizes_succ {first size : Word} {sizes : List Word}
    {index : Nat} (found : sizes[index]? = some size) :
    placeBySizes first sizes (index + 1) =
      placeBySizes first sizes index + size.toNat := by
  simp [placeBySizes, List.take_add_one, found]

theorem Word.Aligned.le_top {address : Word} (aligned : address.Aligned) :
    address.toNat ≤ UInt64.size - Word.size := by
  have remainder : address.toNat % 8 = 0 := aligned
  have below := address.toNat_lt_size
  rw [UInt64.size] at below ⊢
  rw [Word.size]
  omega

theorem Climbs.stepSize {current next : Word} (climbs : Climbs current next)
    (aligned : current.Aligned) :
    (next - current).toNat = next.toNat - current.toNat ∧
      StepSize (next - current) := by
  obtain ⟨above, near, word⟩ := climbs
  have remainder : current.toNat % 8 = 0 := aligned
  have nextRemainder : next.toNat % 8 = 0 := word
  have distance : (next - current).toNat = next.toNat - current.toNat :=
    UInt64.toNat_sub_of_le _ _
      (UInt64.le_iff_toNat_le.mpr (Nat.le_of_lt above))
  refine ⟨distance, ?_, ?_, ?_⟩
  · omega
  · rw [distance, Word.size]
    omega
  · omega

variable {validator : Validator} {memory : Memory} {options : WalkOptions}

namespace Validator

theorem judge_next_of_bare (bare : validator.context = none)
    (strict : options.strict = true) (current candidate : Word) :
    (validator.judge options current candidate).next =
      if Climbs current candidate then some candidate else none := by
  apply Option.ext
  intro next
  rw [judge_next_iff]
  constructor
  · rintro ⟨rfl, accepts⟩
    rcases accepts.placed with ⟨_, near | anchored⟩ | ⟨lax, _⟩
    · rw [if_pos ⟨near.1, near.2, accepts.aligned⟩]
    · obtain ⟨_, _, present, _⟩ := anchored
      cases bare.symm.trans present
    · cases strict.symm.trans lax
  · intro found
    split at found
    next climbs =>
      cases found
      have nonzero : candidate ≠ 0 := by
        rintro rfl
        exact Nat.not_lt_zero _ climbs.1
      have different : candidate ≠ current := by
        rintro rfl
        exact Nat.lt_irrefl _ climbs.1
      exact ⟨rfl, nonzero, different, climbs.2.2,
        .inl ⟨strict, .inl ⟨climbs.1, climbs.2.1⟩⟩⟩
    next => cases found

theorem next_of_bare (bare : validator.context = none)
    (strict : options.strict = true) {cursor : Word} {visit : Visit}
    (visited : validator.visit memory options cursor = .ok (some visit)) :
    visit.next =
      if Climbs cursor visit.record.link then visit.record.link else 0 := by
  obtain ⟨transition, recordRead, _, judged, next, _⟩ :=
    visit_eq_some_iff.mp visited
  have plain : ¬ validator.Corrects visit.record := by
    rintro ⟨_, present, _⟩
    cases bare.symm.trans present
  rw [nextFrame_of_not_corrects recordRead plain] at judged
  cases judged
  rw [next, judge_next_of_bare bare strict]
  split <;> rfl

/-- What is taken at an aligned frame has the distance to its caller for its
size, or no caller and no size. -/
theorem climb_or_end (bare : validator.context = none)
    (strict : options.strict = true) {cursor : Word} {visit : Visit}
    (aligned : cursor.Aligned)
    (visited : validator.visit memory options cursor = .ok (some visit)) :
    memory.LeadsUp cursor ∧ StepSize visit.size ∧ visit.next.Aligned ∧
        visit.next.toNat = cursor.toNat + visit.size.toNat ∨
      ¬ memory.LeadsUp cursor ∧ visit.size = 0 ∧ visit.next = 0 := by
  obtain ⟨_, recordRead, _⟩ := visit_eq_some_iff.mp visited
  obtain ⟨_, linkRead, _⟩ := FrameRecord.read_eq_ok_iff.mp recordRead
  have next := next_of_bare bare strict visited
  have size := Visit.size_eq recordRead
  by_cases climbs : Climbs cursor visit.record.link
  · rw [if_pos climbs] at next
    have above : cursor < visit.next :=
      UInt64.lt_iff_toNat_lt.mpr (next ▸ climbs.1)
    obtain ⟨distance, step⟩ := climbs.stepSize aligned
    rw [if_pos above, next] at size
    refine .inl ⟨⟨_, linkRead, climbs⟩, size ▸ step, next ▸ climbs.2.2, ?_⟩
    rw [size, distance, next]
    have := climbs.1
    omega
  · rw [if_neg climbs] at next
    rw [next, if_neg UInt64.not_lt_zero] at size
    refine .inr ⟨?_, size, next⟩
    rintro ⟨link, readAgain, upwards⟩
    cases linkRead.symm.trans readAgain
    exact climbs upwards

theorem chain_aligned {start : Word} (aligned : start.Aligned)
    (position : Nat) :
    (validator.chain memory options start position).Aligned := by
  cases position with
  | zero => exact aligned
  | succ position =>
      rw [chain, caller]
      split
      next transition judged =>
        obtain ⟨candidate, _, rfl⟩ := nextFrame_eq_ok judged
        change ((validator.judge options
          (validator.chain memory options start position)
          candidate.frame).next.getD 0).Aligned
        cases accepted : (validator.judge options
            (validator.chain memory options start position)
            candidate.frame).next with
        | none => rfl
        | some next => exact (judge_next_iff.mp accepted).2.aligned
      next => rfl

end Validator

theorem unwind_entry {start : Word} {output : Output} {plan : WalkPlan}
    {sizes : List Word}
    (present : (unwind validator memory start output plan).output.sizes =
      some sizes) {index : Nat}
    (below : index < (unwind validator memory start output plan).frames) :
    ∃ visit,
      validator.visit memory (plan.options validator)
          (plan.chain validator memory start (plan.skip + index)) =
        .ok (some visit) ∧
      plan.chain validator memory start (plan.skip + index) ≠ 0 ∧
      plan.chain validator memory start (plan.skip + index + 1) =
        visit.next ∧
      (unwind validator memory start output plan).output.addresses[index]? =
        some visit.returnAddress ∧
      sizes[index]? = some visit.size := by
  obtain ⟨_, frames, written⟩ :=
    unwind_recording validator memory start output plan
  rw [frames] at below
  have entry : index < ((plan.recording validator memory start
      output).visits.drop plan.skip).length := by
    rw [List.length_drop]
    exact below
  have position : plan.skip + index <
      (plan.recording validator memory start output).visits.length := by
    omega
  have found := List.getElem?_eq_getElem position
  obtain ⟨nonzero, visited⟩ := Validator.trail_visit found
  rw [← List.getElem?_drop] at found
  rw [written] at present ⊢
  refine ⟨_, visited, nonzero, Validator.caller_of_visit visited, ?_, ?_⟩
  · rw [Output.holding_address entry, found]
    rfl
  · rw [Output.holding_size present entry, found]
    rfl

theorem unwind_first {start : Word} {output : Output} {plan : WalkPlan}
    {first : Visit}
    (recorded : (unwind validator memory start output plan).recorded.head? =
      some first) :
    0 < (unwind validator memory start output plan).frames ∧
      first.framePointer =
        plan.chain validator memory start plan.skip := by
  obtain ⟨visits, frames, _⟩ :=
    unwind_recording validator memory start output plan
  rw [WalkResult.recorded, List.head?_drop] at recorded
  have inside := (List.getElem?_eq_some_iff.mp recorded).1
  have positive :
      0 < (unwind validator memory start output plan).frames := by
    omega
  have skipped : (unwind validator memory start output plan).visits.length -
      (unwind validator memory start output plan).frames = plan.skip := by
    rw [visits] at inside ⊢
    omega
  rw [skipped, visits] at recorded
  obtain ⟨_, visited⟩ := Validator.trail_visit recorded
  obtain ⟨_, recordRead, _⟩ := Validator.visit_eq_some_iff.mp visited
  exact ⟨positive, FrameRecord.read_framePointer recordRead⟩

/-- Up to the last recorded frame, the sizes before a frame lead to it. -/
theorem placeBySizes_eq {start : Word} {output : Output} {plan : WalkPlan}
    {sizes : List Word} (bare : validator.context = none)
    (strict : plan.strict = true) (aligned : start.Aligned)
    (present : (unwind validator memory start output plan).output.sizes =
      some sizes) {index : Nat}
    (below : index < (unwind validator memory start output plan).frames) :
    placeBySizes (plan.chain validator memory start plan.skip) sizes index =
      (plan.chain validator memory start (plan.skip + index)).toNat := by
  induction index with
  | zero => simp [placeBySizes]
  | succ index ih =>
      have before := Nat.lt_of_succ_lt below
      obtain ⟨visit, visited, _, next, _, size⟩ := unwind_entry present before
      obtain ⟨_, _, nonzero, _⟩ := unwind_entry present below
      have step := Validator.climb_or_end bare strict
        (Validator.chain_aligned aligned (plan.skip + index)) visited
      rw [placeBySizes_succ size, ih before, ← Nat.add_assoc]
      rcases step with ⟨_, _, _, up⟩ | ⟨_, _, ended⟩
      · rw [next, up]
        rfl
      · exact absurd (next.trans ended) nonzero

/-- From the first frame that a strict walk without a context records, the
sizes lead to each recorded return address.  They are distances between frames
and never wrap; the last one is 0 exactly when the link of the last frame leads
to no frame above. -/
theorem unwind_placedBy {start : Word} {output : Output} {plan : WalkPlan}
    {sizes : List Word} {first : Visit}
    (bare : validator.context = none) (strict : plan.strict = true)
    (aligned : start.Aligned)
    (present : (unwind validator memory start output plan).output.sizes =
      some sizes)
    (recorded : (unwind validator memory start output plan).recorded.head? =
      some first) :
    (unwind validator memory start output plan).PlacedBy memory
      first.framePointer sizes := by
  obtain ⟨positive, here⟩ := unwind_first recorded
  have place {index : Nat}
      (below : index < (unwind validator memory start output plan).frames) :=
    here ▸ placeBySizes_eq bare strict aligned present below
  have position {index : Nat}
      (below : index < (unwind validator memory start output plan).frames) :
      UInt64.ofNat (placeBySizes first.framePointer sizes index) =
        plan.chain validator memory start (plan.skip + index) := by
    rw [place below, UInt64.ofNat_toNat]
  have step {index : Nat} {visit : Visit}
      (visited : validator.visit memory (plan.options validator)
        (plan.chain validator memory start (plan.skip + index)) =
          .ok (some visit)) :=
    Validator.climb_or_end bare strict
      (Validator.chain_aligned aligned (plan.skip + index)) visited
  constructor
  case address =>
    intro index below
    obtain ⟨visit, visited, _, _, address, _⟩ := unwind_entry present below
    obtain ⟨_, recordRead, _⟩ := Validator.visit_eq_some_iff.mp visited
    obtain ⟨_, _, returnRead⟩ := FrameRecord.read_eq_ok_iff.mp recordRead
    refine ⟨?_, visit.returnAddress, address, ?_⟩
    · rw [place below]
      exact UInt64.toNat_lt_size _
    · rw [position below]
      exact returnRead
  case size =>
    intro index below
    obtain ⟨visit, visited, _, next, _, size⟩ :=
      unwind_entry present (Nat.lt_of_succ_lt below)
    obtain ⟨_, _, nonzero, _⟩ := unwind_entry present below
    rcases step visited with ⟨_, distance, _⟩ | ⟨_, _, ended⟩
    · exact ⟨visit.size, size, distance⟩
    · exact absurd (next.trans ended) nonzero
  case last =>
    intro index whole
    have below : index <
        (unwind validator memory start output plan).frames := by
      omega
    obtain ⟨visit, visited, _, _, _, size⟩ := unwind_entry present below
    refine ⟨visit.size, size, ?_⟩
    -- The last size depends on a frame that the trace does not hold.
    rw [position below]
    rcases step visited with ⟨up, distance, _⟩ | ⟨ended, unknown, _⟩
    · refine ⟨.inl distance, iff_of_false ?_ (not_not_intro up)⟩
      rintro null
      rw [null] at distance
      exact Nat.lt_irrefl 0 distance.positive
    · exact ⟨.inr unknown, iff_of_true unknown ended⟩
  case top =>
    obtain ⟨index, whole⟩ := Nat.exists_eq_succ_of_ne_zero
      (Nat.ne_of_gt positive)
    have below : index <
        (unwind validator memory start output plan).frames := by
      omega
    obtain ⟨visit, visited, _, _, _, size⟩ := unwind_entry present below
    rw [whole, placeBySizes_succ size, place below]
    rcases step visited with ⟨_, _, word, up⟩ | ⟨_, unknown, _⟩
    · exact up ▸ word.le_top
    · rw [unknown]
      exact (Validator.chain_aligned aligned (plan.skip + index)).le_top

/-- One frame is skipped.  The null link of the last one leads nowhere, so its
size is not known. -/
theorem unwind_placedBy_four_frames :
    let memory := Memory.fourFrames
    let validator : Validator := ⟨none, .unknown, .ofMemory memory⟩
    let output : Output := ⟨[7, 7, 7], some [7, 7, 7]⟩
    let plan : WalkPlan := ⟨8, 1, true, false⟩
    let result := unwind validator memory 0x1000 output plan
    result.frames = 3 ∧
      result.output = ⟨[0x52, 0x53, 0x54], some [0x20, 0x40, 0]⟩ ∧
      result.PlacedBy memory 0x1020 [0x20, 0x40, 0] := by
  intro memory validator output plan result
  have written :
      result.output = ⟨[0x52, 0x53, 0x54], some [0x20, 0x40, 0]⟩ := by
    decide +kernel
  have recorded : result.recorded.head? =
      some ⟨⟨0x1020, 0x1040, 0x52⟩, 0x1040, []⟩ := by
    decide +kernel
  have present : result.output.sizes = some [0x20, 0x40, 0] := by
    rw [written]
  exact ⟨by decide +kernel, written,
    unwind_placedBy rfl rfl (by decide) present recorded⟩

end FrameChain
