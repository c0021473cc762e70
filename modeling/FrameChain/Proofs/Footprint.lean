import FrameChain.Proofs.Acceptance
import FrameChain.Proofs.Fault
import FrameChain.Proofs.Unchecked

/-!
# What a walk reads

Each iteration of a leg reads the record at its cursor, and beyond that only
the word that the trampoline saved, where a transition gets as far as that.  So
a walk learns nothing about the rest of the memory: on any memory with the same
words there it does the same, down to the probe's questions, whatever lies
elsewhere.

Nor is any of these words read in vain.  A walk that completes is broken off
when one byte of them is not mapped.
-/

namespace FrameChain

/-- The cursors at which a trail takes a frame, or finds that there is none to
take. -/
def Validator.cursors (validator : Validator) (memory : Memory)
    (options : WalkOptions) : Nat → Word → List Word
  | 0, _ => []
  | budget + 1, cursor =>
      if cursor = 0 then []
      else
        cursor ::
          match validator.visit memory options cursor with
          | .ok (some visit) =>
              validator.cursors memory options budget visit.next
          | _ => []

/-- A word that is read at a cursor. -/
inductive Validator.ReadsAt (validator : Validator) (memory : Memory)
    (options : WalkOptions) (cursor : Word) : Word → Prop where
  | link : ReadsAt validator memory options cursor cursor
  | returnAddress :
      ReadsAt validator memory options cursor (FrameRecord.returnSlot cursor)
  | saved {registers : Registers} :
      validator.AtTrampoline memory options cursor registers →
      ReadsAt validator memory options cursor (validator.savedSlot registers)

namespace WalkPlan

/-- The cursors at which the iterations of the two legs start. -/
def cursors (plan : WalkPlan) (validator : Validator) (memory : Memory)
    (start : Word) (output : Output) : List Word :=
  validator.cursors memory (plan.options validator) (plan.budget output)
      start ++
    match plan.countDropped,
      (plan.recording validator memory start output).stop with
    | true, .ok cursor =>
        validator.cursors memory (plan.options validator).relaxed
          maxDroppedFrames cursor
    | _, _ => []

/-- A word that a walk reads. -/
def Reads (plan : WalkPlan) (validator : Validator) (memory : Memory)
    (start : Word) (output : Output) (address : Word) : Prop :=
  ∃ cursor ∈ plan.cursors validator memory start output,
    validator.ReadsAt memory (plan.options validator) cursor address

end WalkPlan

namespace Memory

/-- A memory in which nothing is mapped but some words. -/
def only (memory : Memory) (words : List Word) : Memory :=
  ⟨fun address =>
    if words.any fun word => decide ((address - word).toNat < Word.size) then
      memory.byte? address
    else none⟩

theorem only_sameWord {memory : Memory} {words : List Word} {word : Word}
    (kept : word ∈ words) : memory.SameWord (memory.only words) word := by
  intro index below
  have place : (word.offset index - word).toNat = index := by
    rw [Word.offset, UInt64.add_comm, UInt64.add_sub_cancel,
      UInt64.toNat_ofNat']
    exact Nat.mod_eq_of_lt (Nat.lt_trans below (by decide))
  have inside : (words.any fun other =>
      decide ((word.offset index - other).toNat < Word.size)) = true := by
    rw [List.any_eq_true]
    exact ⟨word, kept, decide_eq_true (place.symm ▸ below)⟩
  simp only [only, inside, ↓reduceIte]

theorem SameWord.symm {memory other : Memory} {address : Word}
    (same : memory.SameWord other address) :
    other.SameWord memory address :=
  fun index below => (same index below).symm

theorem without_isSome {memory : Memory} {hidden address : Word}
    (mapped : ((memory.without hidden).byte? address).isSome) :
    address ≠ hidden ∧
      (memory.without hidden).byte? address = memory.byte? address := by
  by_cases here : address = hidden
  · simp [without, here] at mapped
  · exact ⟨here, if_neg here⟩

end Memory

variable {validator : Validator} {memory other : Memory}
  {options : WalkOptions}

namespace Validator

theorem AtTrampoline.congr {cursor : Word} {registers : Registers}
    (linkSame : memory.SameWord other cursor)
    (returnSame : memory.SameWord other (FrameRecord.returnSlot cursor))
    (here : validator.AtTrampoline memory options cursor registers) :
    validator.AtTrampoline other options cursor registers :=
  { here with
    linked := linkSame.readWord ▸ here.linked
    returns := returnSame.readWord ▸ here.returns }

theorem readsAt_relaxed_iff {cursor address : Word} :
    validator.ReadsAt memory options.relaxed cursor address ↔
      validator.ReadsAt memory options cursor address := by
  constructor
  · intro reads
    cases reads with
    | link => exact .link
    | returnAddress => exact .returnAddress
    | saved here => exact .saved { here with consulted := here.consulted }
  · intro reads
    cases reads with
    | link => exact .link
    | returnAddress => exact .returnAddress
    | saved here => exact .saved { here with consulted := here.consulted }

section Cursor

variable {cursor : Word}
  (same : ∀ address, validator.ReadsAt memory options cursor address →
    memory.SameWord other address)

include same

theorem readsAt_congr {address : Word} :
    validator.ReadsAt other options cursor address ↔
      validator.ReadsAt memory options cursor address := by
  have linkSame := same _ .link
  have returnSame := same _ .returnAddress
  constructor
  · intro reads
    cases reads with
    | link => exact .link
    | returnAddress => exact .returnAddress
    | saved here => exact .saved (here.congr linkSame.symm returnSame.symm)
  · intro reads
    cases reads with
    | link => exact .link
    | returnAddress => exact .returnAddress
    | saved here => exact .saved (here.congr linkSame returnSame)

theorem visit_of_sameWords :
    validator.visit other options cursor =
      validator.visit memory options cursor := by
  have linkSame := same _ .link
  have returnSame := same _ .returnAddress
  have records : FrameRecord.read other cursor =
      FrameRecord.read memory cursor := by
    simp only [FrameRecord.read, linkSame.readWord, returnSame.readWord]
  have transitions : validator.nextFrame other cursor options =
      validator.nextFrame memory cursor options :=
    nextFrame_congr linkSame returnSame fun _ here => same _ (.saved here)
  simp only [Validator.visit, records, transitions]

end Cursor

theorem ReadsAt.mapped {cursor address : Word} {found : Option Visit}
    (visited : validator.visit memory options cursor = .ok found)
    (reads : validator.ReadsAt memory options cursor address) :
    memory.Mapped address Word.size := by
  obtain ⟨record, recordRead, rest⟩ := bind_eq_ok_iff.mp visited
  obtain ⟨_, linkRead, returnRead⟩ := FrameRecord.read_eq_ok_iff.mp recordRead
  cases reads with
  | link => exact Memory.readWord_isOk_iff.mp ⟨_, linkRead⟩
  | returnAddress => exact Memory.readWord_isOk_iff.mp ⟨_, returnRead⟩
  | @saved registers here =>
      have returns : record.returnAddress ≠ 0 := by
        rw [Except.ok.inj (returnRead.symm.trans here.returns)]
        exact here.signalReturn
      rw [if_neg returns] at rest
      obtain ⟨transition, judged, _⟩ := bind_eq_ok_iff.mp rest
      obtain ⟨candidate, proposes, _⟩ := nextFrame_eq_ok judged
      have saves : ∃ frame, validator.Saves memory options cursor frame := by
        cases proposes with
        | saved saves => exact ⟨_, saves⟩
        | refused saves => exact ⟨_, saves⟩
        | link elsewhere => exact absurd here (elsewhere registers)
      obtain ⟨frame, one, also, slotRead⟩ := saves
      cases here.context.symm.trans also.context
      exact Memory.readWord_isOk_iff.mp ⟨frame, slotRead⟩

/-- A trail depends on the words that are read at its cursors. -/
theorem trail_of_sameWords {budget : Nat} {start : Word}
    (same : ∀ cursor ∈ validator.cursors memory options budget start,
      ∀ address, validator.ReadsAt memory options cursor address →
        memory.SameWord other address) :
    validator.trail other options budget start =
        validator.trail memory options budget start ∧
      validator.cursors other options budget start =
        validator.cursors memory options budget start := by
  induction budget generalizing start with
  | zero => exact ⟨rfl, rfl⟩
  | succ budget ih =>
      by_cases null : start = 0
      · simp [null, cursors]
      · have first : validator.visit other options start =
            validator.visit memory options start := by
          apply visit_of_sameWords
          apply same
          simp [cursors, null]
        simp only [trail, cursors, if_neg null, first]
        cases visited : validator.visit memory options start with
        | error cause => exact ⟨rfl, rfl⟩
        | ok found =>
            cases found with
            | none => exact ⟨rfl, rfl⟩
            | some visit =>
                have later : ∀ cursor ∈
                    validator.cursors memory options budget visit.next,
                    ∀ address,
                      validator.ReadsAt memory options cursor address →
                        memory.SameWord other address := by
                  intro cursor member
                  apply same
                  simp [cursors, null, visited, member]
                obtain ⟨trails, onward⟩ := ih later
                simp only [trails, onward, and_self]

theorem visit_of_mem_cursors {budget : Nat} {start last : Word}
    (completes : (validator.trail memory options budget start).stop =
      .ok last) :
    ∀ cursor ∈ validator.cursors memory options budget start,
      ∃ found, validator.visit memory options cursor = .ok found := by
  induction budget generalizing start with
  | zero => simp [cursors]
  | succ budget ih =>
      by_cases null : start = 0
      · simp [cursors, null]
      · intro cursor member
        cases visited : validator.visit memory options start with
        | error cause => simp [trail_error null visited] at completes
        | ok found =>
            rw [cursors, if_neg null, visited] at member
            rcases List.mem_cons.mp member with rfl | later
            · exact ⟨found, visited⟩
            · cases found with
              | none => simp at later
              | some visit =>
                  rw [trail_some null visited] at completes
                  exact ih completes cursor later

theorem cursors_of_spent {budget : Nat} {start : Word}
    (spent :
      (validator.trail memory options budget start).visits.length = budget) :
    validator.cursors memory options budget start =
      (validator.trail memory options budget start).visits.map
        (·.framePointer) := by
  induction budget generalizing start with
  | zero => rfl
  | succ budget ih =>
      by_cases null : start = 0
      · simp [null] at spent
      · cases visited : validator.visit memory options start with
        | error cause => simp [trail_error null visited] at spent
        | ok found =>
            cases found with
            | none => simp [trail_none null visited] at spent
            | some visit =>
                obtain ⟨_, recordRead, _⟩ := visit_eq_some_iff.mp visited
                have own := FrameRecord.read_framePointer recordRead
                rw [trail_some null visited] at spent ⊢
                rw [cursors, if_neg null, visited, Trail.after_visits,
                  List.map_cons, Visit.framePointer, own]
                congr 1
                exact ih (by simpa using spent)

end Validator

attribute [ext] WalkResult

namespace WalkPlan

variable {plan : WalkPlan} {start : Word} {output : Output}

theorem unwind_of_trails
    (recording : plan.recording validator other start output =
      plan.recording validator memory start output)
    (counting : ∀ cursor, plan.countDropped = true →
      (plan.recording validator memory start output).stop = .ok cursor →
      plan.counting validator other cursor =
        plan.counting validator memory cursor) :
    unwind validator other start output plan =
      unwind validator memory start output plan := by
  obtain ⟨visits, frames, written⟩ :=
    unwind_recording validator memory start output plan
  obtain ⟨otherVisits, otherFrames, otherWritten⟩ :=
    unwind_recording validator other start output plan
  apply WalkResult.ext
  case frames => rw [frames, otherFrames, recording]
  case output => rw [written, otherWritten, recording]
  case visits => rw [visits, otherVisits, recording]
  case counted =>
    rw [unwind_counted, unwind_counted, recording]
    split
    next counts recorded => rw [counting _ counts recorded]
    next => rfl
  case outcome =>
    rw [unwind_outcome, unwind_outcome, recording]
    cases recorded : (plan.recording validator memory start output).stop with
    | error cause => simp only [Except.bind]
    | ok cursor =>
        cases counts : plan.countDropped with
        | false => simp [Except.bind]
        | true => simp only [Except.bind, counting cursor counts recorded]

theorem recording_spent
    (deep : (plan.recording validator memory start output).visits.length -
      plan.skip = plan.effectiveDepth output) :
    (plan.recording validator memory start output).visits.length =
      plan.budget output := by
  have taken : (plan.recording validator memory start output).visits.length ≤
      plan.budget output :=
    (validator.trail_ends memory (plan.options validator) (plan.budget output)
      start).taken_le
  unfold budget at taken ⊢
  split at taken
  next room =>
    rw [if_pos room]
    omega
  next full =>
    rw [if_neg full]
    omega

section Agreeing

variable (same : ∀ address,
  plan.Reads validator memory start output address →
    memory.SameWord other address)

include same

theorem recording_of_sameWords :
    plan.recording validator other start output =
        plan.recording validator memory start output ∧
      validator.cursors other (plan.options validator) (plan.budget output)
          start =
        validator.cursors memory (plan.options validator) (plan.budget output)
          start := by
  apply Validator.trail_of_sameWords
  intro cursor member address reads
  exact same address ⟨cursor, List.mem_append_left _ member, reads⟩

theorem counting_of_sameWords (counts : plan.countDropped = true)
    {cursor : Word}
    (recorded : (plan.recording validator memory start output).stop =
      .ok cursor) :
    plan.counting validator other cursor =
        plan.counting validator memory cursor ∧
      validator.cursors other (plan.options validator).relaxed
          maxDroppedFrames cursor =
        validator.cursors memory (plan.options validator).relaxed
          maxDroppedFrames cursor := by
  apply Validator.trail_of_sameWords
  intro further member address reads
  apply same address
  refine ⟨further, ?_, Validator.readsAt_relaxed_iff.mp reads⟩
  rw [cursors, counts, recorded]
  exact List.mem_append_right _ member

theorem cursors_of_sameWords :
    plan.cursors validator other start output =
      plan.cursors validator memory start output := by
  obtain ⟨recording, recorded⟩ := recording_of_sameWords same
  unfold cursors
  rw [recording, recorded]
  cases counts : plan.countDropped with
  | false => rfl
  | true =>
      cases stopped : (plan.recording validator memory start output).stop with
      | error cause => rfl
      | ok cursor =>
          simp only [(counting_of_sameWords same counts stopped).2]

theorem reads_of_sameWords {address : Word} :
    plan.Reads validator other start output address ↔
      plan.Reads validator memory start output address := by
  unfold Reads
  rw [cursors_of_sameWords same]
  refine exists_congr fun cursor => and_congr_right fun member => ?_
  apply Validator.readsAt_congr
  intro address reads
  exact same address ⟨cursor, member, reads⟩

theorem unwind_of_sameWords :
    unwind validator other start output plan =
      unwind validator memory start output plan :=
  unwind_of_trails (recording_of_sameWords same).1
    fun _ counts recorded => (counting_of_sameWords same counts recorded).1

end Agreeing

theorem Reads.mapped {address : Word}
    (completes : (unwind validator memory start output plan).Completes)
    (reads : plan.Reads validator memory start output address) :
    memory.Mapped address Word.size := by
  obtain ⟨cursor, recorded, counted⟩ := unwind_completes_iff.mp completes
  obtain ⟨place, member, reads⟩ := reads
  rcases List.mem_append.mp member with early | late
  · obtain ⟨found, visited⟩ :=
      Validator.visit_of_mem_cursors recorded place early
    exact reads.mapped visited
  · rw [recorded] at late
    cases counts : plan.countDropped with
    | false => simp [counts] at late
    | true =>
        obtain ⟨last, stopped⟩ := counted counts
        rw [counts] at late
        obtain ⟨found, visited⟩ :=
          Validator.visit_of_mem_cursors stopped place late
        exact (Validator.readsAt_relaxed_iff.mpr reads).mapped visited

end WalkPlan

/-- A walk does the same on every memory that has the words it reads.  Without
counting, a walk that reaches its depth reads nothing at the frame after the
last one.  Every byte of the words that are read is needed. -/
theorem unwind_footprint (validator : Validator) (memory : Memory)
    (start : Word) (output : Output) (plan : WalkPlan) :
    let result := unwind validator memory start output plan
    (∀ other : Memory,
      (∀ address, plan.Reads validator memory start output address →
        memory.SameWord other address) →
      unwind validator other start output plan = result) ∧
    (plan.countDropped = false →
      result.frames = plan.effectiveDepth output →
      plan.cursors validator memory start output =
        result.visits.map (·.framePointer)) ∧
    (result.Completes → ∀ hidden,
      (unwind validator (memory.without hidden) start output
          plan).Completes ↔
        ∀ address, plan.Reads validator memory start output address →
          ∀ index < Word.size, address.offset index ≠ hidden) := by
  intro result
  refine ⟨fun other => WalkPlan.unwind_of_sameWords, ?_, ?_⟩
  · intro off deep
    obtain ⟨visits, frames, _⟩ :=
      unwind_recording validator memory start output plan
    have spent := WalkPlan.recording_spent (frames ▸ deep)
    rw [WalkPlan.cursors, off, visits, Validator.cursors_of_spent spent]
    simp [WalkPlan.recording]
  · intro completes hidden
    constructor
    · intro still address reads index below
      -- What a walk reads depends on the memory.  The walk over what is left
      -- reads nothing hidden, so the other one takes the same course.
      have same : ∀ address,
          plan.Reads validator (memory.without hidden) start output address →
            (memory.without hidden).SameWord memory address := by
        intro address reads index below
        exact (Memory.without_isSome (reads.mapped still index below)).2
      have readsStill := (WalkPlan.reads_of_sameWords same).mp reads
      exact (Memory.without_isSome (readsStill.mapped still index below)).1
    · intro elsewhere
      have same : ∀ address, plan.Reads validator memory start output address →
          memory.SameWord (memory.without hidden) address := by
        intro address reads index below
        exact (if_neg (elsewhere address reads index below)).symm
      rw [WalkPlan.unwind_of_sameWords same]
      exact completes

/-- One frame is recorded, and at the saved frame pointer there is none.  The
walk needs five words, also the saved one, and nothing around them. -/
theorem unwind_footprint_interrupted_entry :
    let memory := Memory.interruptedEntry 0x1300
    let validator : Validator :=
      ⟨some ⟨0x1500, 0x1200, 0x8004⟩, ⟨0x8000, 0x7000, 3⟩, .ofMemory memory⟩
    let output : Output := .addressesOnly [7, 7]
    let plan : WalkPlan := ⟨2, 0, true, true⟩
    let kept := memory.only [0x1100, 0x1108, 0x1210, 0x1300, 0x1308]
    let result := unwind validator memory 0x1100 output plan
    (∀ address, plan.Reads validator memory 0x1100 output address →
        memory.SameWord kept address) ∧
      unwind validator kept 0x1100 output plan = result ∧
      result.outcome = .ok (some 0) ∧
      ¬ (unwind validator (memory.without 0x1217) 0x1100 output
        plan).Completes := by
  intro memory validator output plan kept result
  have completes : result.outcome = .ok (some 0) := by decide +kernel
  have places : plan.cursors validator memory 0x1100 output =
      [0x1100, 0x1300] := by
    decide +kernel
  obtain ⟨framed, _, needed⟩ :=
    unwind_footprint validator memory 0x1100 output plan
  have same : ∀ address, plan.Reads validator memory 0x1100 output address →
      memory.SameWord kept address := by
    rintro address ⟨cursor, member, reads⟩
    apply Memory.only_sameWord
    simp only [places, List.mem_cons, List.not_mem_nil, or_false] at member
    cases reads with
    | link => rcases member with rfl | rfl <;> decide
    | returnAddress => rcases member with rfl | rfl <;> decide
    | saved here =>
        cases here.context
        decide
  have here : validator.AtTrampoline memory (plan.options validator) 0x1100
      ⟨0x1500, 0x1200, 0x8004⟩ := by
    constructor <;> decide +kernel
  have reads : plan.Reads validator memory 0x1100 output
      (validator.savedSlot ⟨0x1500, 0x1200, 0x8004⟩) :=
    ⟨0x1100, by simp [places], .saved here⟩
  refine ⟨same, framed kept same, completes, ?_⟩
  intro still
  exact (needed ⟨some 0, completes⟩ 0x1217).mp still _ reads 7 (by decide)
    (by decide)

end FrameChain
