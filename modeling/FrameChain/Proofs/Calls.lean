import FrameChain.LiveStack
import FrameChain.Proofs.Crossing
import FrameChain.Proofs.Lockstep
import FrameChain.Proofs.Permissive
import FrameChain.Proofs.Room

/-!
# Two calls from one frame

Two entry points that one function calls walk the same stack, but not from the
same frame: each call has a record of its own, possibly at a place of its own,
and each returns to its own place in the caller.  What lies beyond the caller's
record is common to both.

So the walks take frames in step.  The first two of them are the live ones, and
agree in number only: a walk can tell the calls apart by the two return
addresses and by the size of the call's own frame, and by nothing else.
-/

namespace FrameChain

/-- The addresses to which the links of records lead. -/
inductive Memory.Leads (memory : Memory) (start : Word) : Word → Prop where
  | start : Leads memory start start
  | link {framePointer : Word} {record : FrameRecord}
      (led : memory.Leads start framePointer)
      (recordRead : FrameRecord.read memory framePointer = .ok record) :
      Leads memory start record.link

theorem Memory.Leads.mem {memory : Memory} {start framePointer : Word}
    {closed : List Word} (led : memory.Leads start framePointer)
    (first : start ∈ closed)
    (links : closed.all fun address =>
      (FrameRecord.read memory address).toOption.all
        fun record => closed.contains record.link) :
    framePointer ∈ closed := by
  induction led with
  | start => exact first
  | link led recordRead ih =>
      have inside := List.all_eq_true.mp links _ ih
      simpa [recordRead, Except.toOption] using inside

namespace CaptureSite

/-- The record at a site is that of a call, a plausible distance below the
record of the caller, which links to a start. -/
structure CalledFrom (site : CaptureSite) (caller start : Word) : Prop where
  placed : site.Plausible
  own : ∃ returnAddress, returnAddress ≠ 0 ∧
    FrameRecord.read site.memory site.framePointer =
      .ok ⟨site.framePointer, caller, returnAddress⟩
  calling : ∃ returnAddress, returnAddress ≠ 0 ∧
    FrameRecord.read site.memory caller = .ok ⟨caller, start, returnAddress⟩
  near : Validator.Near site.framePointer caller
  apart : caller ≠ site.framePointer
  aligned : caller.Aligned

/-- Two calls from one frame.  The probe finds the same words readable, and
from the start on the records are the same. -/
structure Siblings (first second : CaptureSite) (caller start : Word) :
    Prop where
  firstCall : first.CalledFrom caller start
  secondCall : second.CalledFrom caller start
  readable : Probe.ofMemory first.memory = Probe.ofMemory second.memory
  common : ∀ framePointer, first.memory.Leads start framePointer →
    FrameRecord.read first.memory framePointer =
      FrameRecord.read second.memory framePointer

/-- Two sites that show the same stack to a walk, up to a number of live
frames. -/
inductive Shared : Nat → CaptureSite → CaptureSite → Prop where
  | same (site : CaptureSite) : Shared 0 site site
  | calls {first second : CaptureSite} {caller start : Word}
      (siblings : first.Siblings second caller start) : Shared 2 first second

/-- The cursors of two walks that have a number of live frames before them. -/
inductive Abreast (first second : CaptureSite) (caller start : Word) :
    Nat → Word → Word → Prop where
  | own :
      Abreast first second caller start 2 first.framePointer
        second.framePointer
  | calling : Abreast first second caller start 1 caller caller
  | beyond {cursor : Word} (led : first.memory.Leads start cursor) :
      Abreast first second caller start 0 cursor cursor
  | ended : Abreast first second caller start 0 0 0

end CaptureSite

/-- Two frames that were taken with a number of live frames still to be
taken. -/
structure Visit.Corresponds (live : Nat) (visit other : Visit) : Prop where
  next : visit.next = other.next
  size : live ≤ 1 → visit.size = other.size
  whole : live = 0 → visit = other

/-- Two trails of one length whose frames are the same after a number of live
ones.  The size of the last live frame is the same, too. -/
structure Trail.Corresponds (stands : Word → Word → Prop) (live : Nat)
    (trail other : Trail) : Prop where
  length : trail.visits.length = other.visits.length
  visit : ∀ position, live ≤ position →
    trail.visits[position]? = other.visits[position]?
  size : ∀ position, live ≤ position + 1 →
    trail.visits[position]?.map (·.size) =
      other.visits[position]?.map (·.size)
  stop : Alike stands trail.stop other.stop

/-- Two walks that report the same, but for what they write about a number of
live frames, of which some may have been skipped. -/
structure WalkResult.Corresponds (live skip : Nat)
    (result other : WalkResult) : Prop where
  frames : result.frames = other.frames
  address : ∀ index, result.frames ≤ index ∨ live ≤ skip + index →
    result.output.addresses[index]? = other.output.addresses[index]?
  size : ∀ index, result.frames ≤ index ∨ live ≤ skip + index + 1 →
    result.output.sizes.map (·[index]?) = other.output.sizes.map (·[index]?)
  outcome : result.outcome = other.outcome

theorem Trail.Corresponds.after {stands : Word → Word → Prop} {live : Nat}
    {visit other : Visit} {trail further : Trail}
    (taken : visit.Corresponds live other)
    (rest : trail.Corresponds stands (live - 1) further) :
    (trail.after visit).Corresponds stands live (further.after other) := by
  constructor
  case length => simp [rest.length]
  case visit =>
    intro position late
    cases position with
    | zero => simp [taken.whole (Nat.le_zero.mp late)]
    | succ position => simpa using rest.visit position (by omega)
  case size =>
    intro position late
    cases position with
    | zero => simp [taken.size late]
    | succ position => simpa using rest.size position (by omega)
  case stop => exact rest.stop

namespace CaptureSite

variable {site first second : CaptureSite} {caller start : Word}
  {build : Build} {context : Option Registers} {options : WalkOptions}

/-- A site knows nothing of the trampoline, so a record alone decides what is
taken there. -/
theorem visit_of_read (site : CaptureSite) (build : Build)
    (context : Option Registers) (options : WalkOptions) {memory : Memory}
    {cursor : Word} {record : FrameRecord}
    (recordRead : FrameRecord.read memory cursor = .ok record)
    (returns : record.returnAddress ≠ 0) :
    (site.validator build context).visit memory options cursor =
      .ok (some ((site.validator build context).onward options record)) :=
  Validator.visit_of_not_corrects options recordRead returns
    (Validator.not_corrects_of_uncorrected
      (site.not_needsCorrection build context))

namespace CalledFrom

theorem caller_ne_zero (call : site.CalledFrom caller start) :
    caller ≠ 0 := by
  rintro rfl
  exact call.placed.1 (UInt64.le_zero_iff.mp call.near.1)

theorem readable (call : site.CalledFrom caller start) :
    Probe.ofMemory site.memory caller = true := by
  obtain ⟨_, _, recordRead⟩ := call.calling
  have mapped := (FrameRecord.read_isOk_iff.mp ⟨_, recordRead⟩).1
  rw [Probe.ofMemory_eq_true_iff, Word.alignDown_of_aligned call.aligned]
  exact ⟨call.caller_ne_zero, mapped⟩

theorem visit_own (call : site.CalledFrom caller start) (build : Build)
    (context : Option Registers) (options : WalkOptions) :
    ∃ visit,
      (site.validator build context).visit site.memory options
        site.framePointer = .ok (some visit) ∧
      visit.next = caller := by
  obtain ⟨returnAddress, returns, recordRead⟩ := call.own
  refine ⟨_, site.visit_of_read build context options recordRead returns, ?_⟩
  apply Validator.onward_next_of_judge
  exact Validator.judge_next_eq_some_iff.mpr
    ⟨rfl, call.caller_ne_zero, call.apart, call.aligned,
      fun _ => .inr call.near, fun _ => call.readable⟩

theorem visit_calling (call : site.CalledFrom caller start) (build : Build)
    (context : Option Registers) (options : WalkOptions) :
    ∃ returnAddress,
      (site.validator build context).visit site.memory options caller =
        .ok (some ((site.validator build context).onward options
          ⟨caller, start, returnAddress⟩)) := by
  obtain ⟨returnAddress, returns, recordRead⟩ := call.calling
  exact ⟨returnAddress,
    site.visit_of_read build context options recordRead returns⟩

end CalledFrom

namespace Siblings

theorem validator_eq (siblings : first.Siblings second caller start)
    (build : Build) (context : Option Registers) :
    first.validator build context = second.validator build context := by
  simp only [validator, siblings.readable]

theorem abreast_next (validator : Validator) (options : WalkOptions)
    {record : FrameRecord} (led : first.memory.Leads start record.link) :
    Abreast first second caller start 0
      (validator.onward options record).next
      (validator.onward options record).next := by
  rcases validator.onward_next_or record with ended | linked
  · rw [ended]
    exact .ended
  · rw [linked]
    exact .beyond led

theorem visit_alike (siblings : first.Siblings second caller start)
    (build : Build) (context : Option Registers) (options : WalkOptions)
    {live : Nat} {cursor other : Word}
    (abreast : Abreast first second caller start live cursor other)
    (nonzero : cursor ≠ 0) :
    Alike
      (Option.Rel fun visit further => visit.Corresponds live further ∧
        Abreast first second caller start (live - 1) visit.next further.next)
      ((first.validator build context).visit first.memory options cursor)
      ((second.validator build context).visit second.memory options
        other) := by
  cases abreast with
  | own =>
      -- The two records differ in all but the link.
      obtain ⟨visit, visited, next⟩ :=
        siblings.firstCall.visit_own build context options
      obtain ⟨further, alsoVisited, alsoNext⟩ :=
        siblings.secondCall.visit_own build context options
      rw [visited, alsoVisited]
      apply Alike.ok
      apply Option.Rel.some
      refine ⟨⟨next.trans alsoNext.symm, by omega, by omega⟩, ?_⟩
      rw [next, alsoNext]
      exact .calling
  | calling =>
      obtain ⟨returnAddress, visited⟩ :=
        siblings.firstCall.visit_calling build context options
      obtain ⟨alsoReturn, alsoVisited⟩ :=
        siblings.secondCall.visit_calling build context options
      rw [← siblings.validator_eq build context] at alsoVisited ⊢
      rw [visited, alsoVisited]
      apply Alike.ok
      apply Option.Rel.some
      exact ⟨⟨rfl, fun _ => rfl, by omega⟩, abreast_next _ options .start⟩
  | beyond led =>
      have same := siblings.common cursor led
      rw [← siblings.validator_eq build context]
      cases recordRead : FrameRecord.read first.memory cursor with
      | error cause =>
          rw [Validator.visit_of_unread recordRead,
            Validator.visit_of_unread (same ▸ recordRead)]
          exact .error cause
      | ok record =>
          by_cases returns : record.returnAddress = 0
          · rw [Validator.visit_eq_none_iff.mpr ⟨record, recordRead, returns⟩,
              Validator.visit_eq_none_iff.mpr
                ⟨record, same ▸ recordRead, returns⟩]
            exact .ok .none
          · rw [first.visit_of_read build context options recordRead returns,
              first.visit_of_read build context options (same ▸ recordRead)
                returns]
            apply Alike.ok
            apply Option.Rel.some
            exact ⟨⟨rfl, fun _ => rfl, fun _ => rfl⟩,
              abreast_next _ options (.link led recordRead)⟩
  | ended => exact absurd rfl nonzero

theorem null_iff (siblings : first.Siblings second caller start) {live : Nat}
    {cursor other : Word}
    (abreast : Abreast first second caller start live cursor other) :
    cursor = 0 ↔ other = 0 := by
  cases abreast with
  | own =>
      exact iff_of_false siblings.firstCall.placed.1
        siblings.secondCall.placed.1
  | calling => rfl
  | beyond => rfl
  | ended => rfl

theorem trail_corresponds (siblings : first.Siblings second caller start)
    (build : Build) (context : Option Registers) (options : WalkOptions)
    (budget : Nat) {live : Nat} {cursor other : Word}
    (abreast : Abreast first second caller start live cursor other) :
    ((first.validator build context).trail first.memory options budget
        cursor).Corresponds
      (fun last further =>
        ∃ live, Abreast first second caller start live last further)
      live
      ((second.validator build context).trail second.memory options budget
        other) := by
  induction budget generalizing live cursor other with
  | zero => exact ⟨rfl, fun _ _ => rfl, fun _ _ => rfl, .ok ⟨live, abreast⟩⟩
  | succ budget ih =>
      by_cases null : cursor = 0
      · rw [null, (siblings.null_iff abreast).mp null, Validator.trail_null,
          Validator.trail_null]
        exact ⟨rfl, fun _ _ => rfl, fun _ _ => rfl, .ok ⟨0, .ended⟩⟩
      · have alsoNonzero : other ≠ 0 :=
          fun zero => null ((siblings.null_iff abreast).mpr zero)
        have step := siblings.visit_alike build context options abreast null
        generalize visited : (first.validator build context).visit
          first.memory options cursor = found at step
        generalize alsoVisited : (second.validator build context).visit
          second.memory options other = alsoFound at step
        cases step with
        | error cause =>
            rw [Validator.trail_error null visited,
              Validator.trail_error alsoNonzero alsoVisited]
            exact ⟨rfl, fun _ _ => rfl, fun _ _ => rfl, .error cause⟩
        | ok taken =>
            cases taken with
            | none =>
                rw [Validator.trail_none null visited,
                  Validator.trail_none alsoNonzero alsoVisited]
                exact ⟨rfl, fun _ _ => rfl, fun _ _ => rfl, .ok ⟨0, .ended⟩⟩
            | some further =>
                rw [Validator.trail_some null visited,
                  Validator.trail_some alsoNonzero alsoVisited]
                exact .after further.1 (ih further.2)

end Siblings

end CaptureSite

theorem Output.holding_corresponds {stands : Word → Word → Prop}
    {live : Nat} {trail other : Trail}
    (corresponds : trail.Corresponds stands live other) (output : Output)
    (skip : Nat) {index : Nat} :
    (trail.visits.length - skip ≤ index ∨ live ≤ skip + index →
      (output.holding (trail.visits.drop skip)).addresses[index]? =
        (output.holding (other.visits.drop skip)).addresses[index]?) ∧
    (trail.visits.length - skip ≤ index ∨ live ≤ skip + index + 1 →
      (output.holding (trail.visits.drop skip)).sizes.map (·[index]?) =
        (output.holding (other.visits.drop skip)).sizes.map (·[index]?)) := by
  have lengths : (trail.visits.drop skip).length =
      (other.visits.drop skip).length := by
    simp [corresponds.length]
  have count : (trail.visits.drop skip).length =
      trail.visits.length - skip := List.length_drop
  by_cases below : index < (trail.visits.drop skip).length
  · have alsoBelow := lengths ▸ below
    constructor
    · intro known
      rw [holding_address below, holding_address alsoBelow,
        List.getElem?_drop, List.getElem?_drop,
        corresponds.visit _ (known.resolve_left (by omega))]
    · intro known
      rw [holding_sizeAt below, holding_sizeAt alsoBelow,
        List.getElem?_drop, List.getElem?_drop,
        corresponds.size _ (known.resolve_left (by omega))]
  · have late := Nat.le_of_not_lt below
    have alsoLate := lengths ▸ late
    constructor
    · intro _
      rw [holding_addressKept late, holding_addressKept alsoLate]
    · intro _
      rw [holding_sizeKept late, holding_sizeKept alsoLate]

namespace CaptureSite

variable {first second : CaptureSite} {caller start : Word}

/-- Two calls from one frame leave the same, but for what they write about the
live frames. -/
theorem Siblings.unwind_corresponds
    (siblings : first.Siblings second caller start) (build : Build)
    (context : Option Registers) (output : Output) (plan : WalkPlan) :
    (unwind (first.validator build context) first.memory first.framePointer
        output plan).Corresponds 2 plan.skip
      (unwind (second.validator build context) second.memory
        second.framePointer output plan) := by
  have same : plan.options (first.validator build context) =
      plan.options (second.validator build context) := by
    rw [siblings.validator_eq]
  have recording := siblings.trail_corresponds build context
    (plan.options (first.validator build context)) (plan.budget output) .own
  obtain ⟨_, frames, written⟩ := unwind_recording
    (first.validator build context) first.memory first.framePointer output plan
  obtain ⟨_, alsoFrames, alsoWritten⟩ := unwind_recording
    (second.validator build context) second.memory second.framePointer output
    plan
  rw [WalkPlan.recording] at frames written
  rw [WalkPlan.recording, ← same] at alsoFrames alsoWritten
  constructor
  case frames => rw [frames, alsoFrames, recording.length]
  case address =>
    intro index known
    rw [written, alsoWritten]
    rw [frames] at known
    exact (Output.holding_corresponds recording output plan.skip).1 known
  case size =>
    intro index known
    rw [written, alsoWritten]
    rw [frames] at known
    exact (Output.holding_corresponds recording output plan.skip).2 known
  case outcome =>
    rw [unwind_outcome, unwind_outcome, WalkPlan.recording,
      WalkPlan.recording, ← same]
    apply recording.stop.bind_eq
    rintro cursor other ⟨live, abreast⟩
    have counting := siblings.trail_corresponds build context
      (plan.options (first.validator build context)).relaxed maxDroppedFrames
      abreast
    simp only [WalkPlan.counting, ← same, counting.length,
      counting.stop.map_const]

theorem Shared.walk {live : Nat} (shared : Shared live first second)
    (build : Build) (context : Option Registers) (output : Output)
    (plan : WalkPlan) :
    (first.walk build context output plan).Corresponds live plan.skip
      (second.walk build context output plan) := by
  cases shared with
  | same => exact ⟨rfl, fun _ _ => rfl, fun _ _ => rfl, rfl⟩
  | calls siblings =>
      rw [CaptureSite.walk, CaptureSite.walk,
        if_pos siblings.firstCall.placed, if_pos siblings.secondCall.placed]
      exact siblings.unwind_corresponds build context output plan

end CaptureSite

namespace LiveStack

/-- Another call from the caller's frame.  Its own frame is deeper on the
stack, and both return addresses are its own. -/
def deeperSite (stack : LiveStack) (memory : Memory) : CaptureSite :=
  { memory := (stack.within memory)
      |>.storeWord (FrameRecord.returnSlot stack.callerFrame) 0x2040
      |>.storeWord (stack.entryFrame - 16) stack.callerFrame
      |>.storeWord (FrameRecord.returnSlot (stack.entryFrame - 16)) 0x1040
    framePointer := stack.entryFrame - 16
    stackPointer := stack.stackPointer - 16 }

theorem siblings_deeperSite :
    let stack : LiveStack := ⟨0x60000000, 0x1000⟩
    (stack.site .fourFrames).Siblings (stack.deeperSite .fourFrames)
      stack.callerFrame stack.start := by
  intro stack
  constructor
  case firstCall =>
    exact ⟨by decide, ⟨entryReturn, by decide, by decide +kernel⟩,
      ⟨callerReturn, by decide, by decide +kernel⟩, by decide, by decide,
      by decide⟩
  case secondCall =>
    exact ⟨by decide, ⟨0x1040, by decide, by decide +kernel⟩,
      ⟨0x2040, by decide, by decide +kernel⟩, by decide, by decide, by decide⟩
  case readable =>
    simp only [deeperSite, site]
    rw [Probe.ofMemory_storeWord _ (by decide +kernel),
      Probe.ofMemory_storeWord _ (by decide +kernel),
      Probe.ofMemory_storeWord _ (by decide +kernel)]
  case common =>
    intro framePointer led
    let beyond : List Word := [0x1000, 0x1020, 0x1040, 0x1080, 0]
    have inside : framePointer ∈ beyond :=
      led.mem List.mem_cons_self (by decide +kernel)
    have same : beyond.map (FrameRecord.read (stack.site .fourFrames).memory) =
        beyond.map (FrameRecord.read
          (stack.deeperSite .fourFrames).memory) := by
      decide +kernel
    exact List.map_inj_left.mp same framePointer inside

end LiveStack

end FrameChain
