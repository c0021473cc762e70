import FrameChain.Proofs.Calls

/-!
# Entry points and captures

The entry points without a configuration and the capture that follows one reach
the same walk by different ways.  One takes its depth from a buffer and the
other from a field, one counts when it is given a place for the number and the
other when it is told to, and sizes are written because they are asked for or
because they are collected.

They agree all the same, for traces and for frames, in every build.  Where the
two are calls of their own, their own return addresses and the size of their
own frame are theirs; everything further out is the same.
-/

namespace FrameChain

/-- A configuration that asks for what an entry point does without one. -/
structure Configuration.Mirrors (configuration : Configuration)
    (addresses : List Word) (skip : Nat) (dropped : Option Nat) : Prop where
  deep : addresses.length ≤ configuration.maxDepth.toNat
  skip : configuration.skipCount.toNat = skip
  counts : configuration.countDropped = dropped.isSome

/-- What an entry point has in common with a capture, up to a number of live
frames. -/
structure CaptureResult.Agrees (live skip : Nat) (dropped : Option Nat)
    (result captured : CaptureResult) : Prop where
  frames : result.frames = captured.frames
  address : ∀ index, result.frames ≤ index ∨ live ≤ skip + index →
    result.addresses[index]? = captured.addresses[index]?
  /-- They are broken off alike. -/
  outcome : result.outcome = captured.outcome.map fun _ => none
  /-- The place for the number of dropped frames holds what the capture
  reports, and nothing is counted without such a place. -/
  reported : ∀ count, captured.outcome = .ok count →
    result.dropped = count ∧ count.isSome = dropped.isSome ∧
      ∀ number, count = some number → number ≤ maxDroppedFrames

/-- What it has in common with one that collects sizes. -/
structure CaptureResult.AgreesSized (live skip : Nat) (dropped : Option Nat)
    (result captured : CaptureResult) : Prop
    extends result.Agrees live skip dropped captured where
  size : ∀ index, result.frames ≤ index ∨ live ≤ skip + index + 1 →
    result.sizes.map (·[index]?) = captured.sizes.map (·[index]?)

/-- A result with the entries that a walk wrote. -/
structure CaptureResult.Shows (result : CaptureResult) (walk : WalkResult) :
    Prop where
  frames : result.frames = walk.frames
  addresses : result.addresses = walk.output.addresses

/-- What an entry point makes of its walk. -/
structure CaptureResult.Enters (result : CaptureResult)
    (dropped : Option Nat) (walk : WalkResult) : Prop
    extends result.Shows walk where
  dropped : result.dropped = Capture.report dropped walk.outcome
  outcome : result.outcome = walk.outcome.map fun _ => none

/-- What a capture makes of its walk. -/
structure CaptureResult.Captures (result : CaptureResult)
    (walk : WalkResult) : Prop extends result.Shows walk where
  outcome : result.outcome = walk.outcome

/-- Two results with the same entries in their buffers. -/
structure CaptureResult.SameEntries (result other : CaptureResult) : Prop where
  frames : result.frames = other.frames
  addresses : result.addresses = other.addresses
  sizes : result.sizes = other.sizes

theorem WalkPlan.effectiveDepth_of_le {plan : WalkPlan} {output : Output}
    (deep : output.addresses.length ≤ plan.depth) :
    plan.effectiveDepth output = output.capacity :=
  Nat.min_eq_right (Nat.le_trans output.capacity_le_addresses deep)

namespace CaptureSite

variable {site : CaptureSite} {build : Build} {context : Option Registers}
  {output : Output} {plan other : WalkPlan}

theorem walk_of_deep (site : CaptureSite) (build : Build)
    (context : Option Registers)
    (deep : output.addresses.length ≤ plan.depth)
    (alsoDeep : output.addresses.length ≤ other.depth)
    (skip : plan.skip = other.skip) (strict : plan.strict = other.strict)
    (counts : plan.countDropped = other.countDropped) :
    site.walk build context output plan =
      site.walk build context output other := by
  have depth : plan.effectiveDepth output = other.effectiveDepth output := by
    rw [WalkPlan.effectiveDepth_of_le deep,
      WalkPlan.effectiveDepth_of_le alsoDeep]
  simp only [walk, unwind, WalkPlan.options, WalkPlan.initial, depth, skip,
    strict, counts]

theorem walk_entries (site : CaptureSite) (build : Build)
    (context : Option Registers) (output : Output) (plan : WalkPlan)
    (counts : Bool) :
    let result := site.walk build context output plan
    let other := site.walk build context output
      { plan with countDropped := counts }
    result.frames = other.frames ∧ result.output = other.output := by
  obtain ⟨frames, written, _⟩ := site.walk_recorded build context output plan
  obtain ⟨otherFrames, otherWritten, _⟩ :=
    site.walk_recorded build context output { plan with countDropped := counts }
  exact ⟨frames.trans otherFrames.symm, written.trans otherWritten.symm⟩

theorem walk_reports {count : Option Nat}
    (ended : (site.walk build context output plan).outcome = .ok count) :
    count.isSome = plan.countDropped ∧
      ∀ number, count = some number → number ≤ maxDroppedFrames := by
  by_cases placed : site.Plausible
  · rw [walk, if_pos placed] at ended
    obtain ⟨cursor, _, counted⟩ := unwind_ok_iff.mp ended
    rcases counted with ⟨off, rfl⟩ | ⟨on, _, rfl⟩
    · exact ⟨off.symm, by simp⟩
    · refine ⟨on.symm, ?_⟩
      rintro number ⟨rfl⟩
      exact (Validator.trail_ends _ site.memory _ maxDroppedFrames
        cursor).taken_le
  · rw [walk, if_neg placed] at ended
    cases counts : plan.countDropped with
    | false =>
        rw [counts] at ended
        cases ended
        exact ⟨rfl, by simp⟩
    | true =>
        rw [counts] at ended
        cases ended
        refine ⟨rfl, ?_⟩
        rintro number ⟨rfl⟩
        exact Nat.zero_le _

theorem walk_counted_nil (site : CaptureSite) (build : Build)
    (context : Option Registers) (output : Output)
    (off : plan.countDropped = false) :
    (site.walk build context output plan).counted = [] := by
  unfold walk
  split
  · rw [unwind_counted, off]
  · rfl

variable {live skip : Nat} {here there : CaptureSite}
  {configuration : Configuration} {addresses : List Word}
  {dropped : Option Nat}

/-- The walk of an entry point is that of a capture whose configuration asks
for the same. -/
theorem Shared.walk_mirrored (shared : Shared live here there)
    (mirrors : configuration.Mirrors addresses skip dropped) (build : Build)
    (context : Option Registers) {output : Output}
    (buffer : output.addresses = addresses) :
    (here.walk build context output
        ⟨addresses.length, skip, configuration.mode.isStrict,
          dropped.isSome⟩).Corresponds live skip
      (there.walk build context output configuration.plan) := by
  let plan : WalkPlan :=
    ⟨addresses.length, skip, configuration.mode.isStrict, dropped.isSome⟩
  have deep : output.addresses.length ≤ plan.depth :=
    Nat.le_of_eq (congrArg List.length buffer)
  have alsoDeep : output.addresses.length ≤ configuration.plan.depth :=
    buffer ▸ mirrors.deep
  rw [← there.walk_of_deep build context deep alsoDeep mirrors.skip.symm rfl
    mirrors.counts.symm]
  exact shared.walk build context output plan

end CaptureSite

namespace Capture

theorem report_eq {dropped count : Option Nat}
    (present : count.isSome = dropped.isSome) :
    report dropped (.ok count) = count := by
  cases dropped with
  | none =>
      cases count with
      | none => rfl
      | some => cases present
  | some =>
      cases count with
      | none => cases present
      | some => rfl

theorem capture_uncollected {configuration : Configuration}
    {place : Option (List Word)}
    (absent : configuration.collectSizes = false ∨ place = none)
    (build : Build) (site : CaptureSite) (addresses : List Word)
    (context : Option Registers) :
    (capture build site configuration addresses place context).Captures
      (site.walk build context (.addressesOnly addresses)
        configuration.plan) := by
  rcases absent with off | rfl
  · cases place with
    | none => exact ⟨⟨rfl, rfl⟩, rfl⟩
    | some sizes =>
        simp only [capture, off, Bool.false_eq_true, ↓reduceIte]
        exact ⟨⟨rfl, rfl⟩, rfl⟩
  · exact ⟨⟨rfl, rfl⟩, rfl⟩

theorem capture_collected {configuration : Configuration}
    (collects : configuration.collectSizes = true) (build : Build)
    (site : CaptureSite) (addresses sizes : List Word)
    (context : Option Registers) :
    let result := capture build site configuration addresses (some sizes)
      context
    let walk := site.walk build context (.withSizes build addresses sizes)
      configuration.plan
    result.Captures walk ∧
      result.sizes = some (walk.output.sizes.getD sizes) := by
  simp only [capture, collects, ↓reduceIte]
  refine ⟨⟨⟨rfl, rfl⟩, rfl⟩, ?_⟩
  cases (site.walk build context (.withSizes build addresses sizes)
    configuration.plan).output.sizes <;> rfl

variable {live skip : Nat} {here there : CaptureSite} {dropped : Option Nat}
  {configuration : Configuration} {addresses : List Word} {build : Build}
  {context : Option Registers} {output : Output} {plan : WalkPlan}

theorem agrees_of_walks {result captured : CaptureResult} {walk : WalkResult}
    (entered : result.Enters dropped
      (here.walk build context output plan))
    (returned : captured.Captures walk)
    (walks : (here.walk build context output plan).Corresponds live skip walk)
    (counts : plan.countDropped = dropped.isSome) :
    result.Agrees live skip dropped captured := by
  constructor
  case frames => rw [entered.frames, returned.frames, walks.frames]
  case address =>
    intro index known
    rw [entered.frames] at known
    rw [entered.addresses, returned.addresses]
    exact walks.address index known
  case outcome => rw [entered.outcome, returned.outcome, walks.outcome]
  case reported =>
    intro count ended
    rw [returned.outcome, ← walks.outcome] at ended
    obtain ⟨present, limit⟩ := CaptureSite.walk_reports ended
    rw [counts] at present
    refine ⟨?_, present, limit⟩
    rw [entered.dropped, ended, report_eq present]

theorem traceWithContext_agrees
    (shared : CaptureSite.Shared live here there)
    (mirrors : configuration.Mirrors addresses skip dropped) (build : Build)
    (context : Option Registers) (strict : configuration.mode = .strict)
    {place : Option (List Word)}
    (absent : configuration.collectSizes = false ∨ place = none) :
    (traceWithContext build here addresses skip context dropped).Agrees live
      skip dropped
      (capture build there configuration addresses place context) := by
  let output := Output.addressesOnly addresses
  have buffer : output.addresses = addresses := rfl
  have walks := shared.walk_mirrored mirrors build context buffer
  rw [strict] at walks
  have captured :=
    capture_uncollected absent build there addresses context
  exact agrees_of_walks ⟨⟨rfl, rfl⟩, rfl, rfl⟩ captured walks rfl

theorem framesWithContext_agrees
    (shared : CaptureSite.Shared live here there)
    (mirrors : configuration.Mirrors addresses skip dropped) (build : Build)
    (context : Option Registers) (lax : configuration.mode = .lax)
    (collects : configuration.collectSizes = true) (sizes : List Word) :
    (framesWithContext build here addresses sizes skip context
      dropped).AgreesSized live skip dropped
      (capture build there configuration addresses (some sizes) context) := by
  let output := Output.withSizes build addresses sizes
  have buffer : output.addresses = addresses := rfl
  have walks := shared.walk_mirrored mirrors build context buffer
  rw [lax] at walks
  obtain ⟨captured, collected⟩ :=
    capture_collected collects build there addresses sizes context
  constructor
  case toAgrees =>
    exact agrees_of_walks ⟨⟨rfl, rfl⟩, rfl, rfl⟩ captured walks rfl
  case size =>
    intro index known
    have entries := congrArg (·.getD sizes[index]?) (walks.size index known)
    simp only [Option.getD_map (fun written => written[index]?)] at entries
    rw [collected]
    exact congrArg some entries

theorem traceWithContext_entries (build : Build) (site : CaptureSite)
    (addresses : List Word) (skip : Nat) (context : Option Registers)
    (dropped other : Option Nat) :
    (traceWithContext build site addresses skip context dropped).SameEntries
      (traceWithContext build site addresses skip context other) := by
  obtain ⟨frames, written⟩ := site.walk_entries build context
    (.addressesOnly addresses) (tracePlan addresses skip dropped.isSome)
    other.isSome
  exact ⟨frames, congrArg Output.addresses written, rfl⟩

theorem framesWithContext_entries (build : Build) (site : CaptureSite)
    (addresses sizes : List Word) (skip : Nat) (context : Option Registers)
    (dropped other : Option Nat) :
    (framesWithContext build site addresses sizes skip context
      dropped).SameEntries
      (framesWithContext build site addresses sizes skip context other) := by
  obtain ⟨frames, written⟩ := site.walk_entries build context
    (.withSizes build addresses sizes)
    (framesPlan addresses skip dropped.isSome) other.isSome
  exact ⟨frames, congrArg Output.addresses written,
    congrArg (fun output : Output => some (output.sizes.getD sizes)) written⟩

/-- The entry points without a configuration agree with captures whose
configuration asks for the same, in every build: traces with strict captures
that record addresses only, frames with lax ones that collect sizes, and the
forms without a context with captures without one.  A place for the number of
dropped frames makes no difference to what is written. -/
theorem entry_points_agree (build : Build)
    (shared : CaptureSite.Shared live here there)
    (mirrors : configuration.Mirrors addresses skip dropped)
    (sizes : List Word) (context : Option Registers) :
    (configuration.mode = .strict →
      ∀ place, configuration.collectSizes = false ∨ place = none →
        (traceWithContext build here addresses skip context dropped).Agrees
          live skip dropped
          (capture build there configuration addresses place context) ∧
        (dropped = none →
          (trace build here addresses skip).Agrees live skip none
            (capture build there configuration addresses place none))) ∧
    (configuration.mode = .lax → configuration.collectSizes = true →
      (framesWithContext build here addresses sizes skip context
        dropped).AgreesSized live skip dropped
        (capture build there configuration addresses (some sizes) context) ∧
      (dropped = none →
        (frames build here addresses sizes skip).AgreesSized live skip none
          (capture build there configuration addresses (some sizes)
            none))) ∧
    (dropped = none → ∀ output,
      (here.walk build context output
        (tracePlan addresses skip dropped.isSome)).counted = [] ∧
      (here.walk build context output
        (framesPlan addresses skip dropped.isSome)).counted = []) ∧
    ∀ other,
      (traceWithContext build here addresses skip context
        dropped).SameEntries
        (traceWithContext build here addresses skip context other) ∧
      (framesWithContext build here addresses sizes skip context
        dropped).SameEntries
        (framesWithContext build here addresses sizes skip context
          other) := by
  refine ⟨?_, ?_, ?_, ?_⟩
  · intro strict place absent
    constructor
    · exact traceWithContext_agrees shared mirrors build context strict absent
    · rintro rfl
      exact traceWithContext_agrees shared mirrors build none strict absent
  · intro lax collects
    constructor
    · exact framesWithContext_agrees shared mirrors build context lax collects
        sizes
    · rintro rfl
      exact framesWithContext_agrees shared mirrors build none lax collects
        sizes
  · rintro rfl output
    exact ⟨here.walk_counted_nil build context output rfl,
      here.walk_counted_nil build context output rfl⟩
  · intro other
    constructor
    · exact traceWithContext_entries build here addresses skip context dropped
        other
    · exact framesWithContext_entries build here addresses sizes skip context
        dropped other

/-- Two calls walk six frames, the first two of them live.  Four are written
and two are counted, and only the return addresses of the live frames tell the
calls apart. -/
theorem entry_points_agree_two_calls :
    let stack : LiveStack := ⟨0x60000000, 0x1000⟩
    let here := stack.site .fourFrames
    let there := stack.deeperSite .fourFrames
    let configuration : Configuration := ⟨true, true, 8, 0, .lax⟩
    let buffer : List Word := [7, 7, 7, 7]
    let entry := framesWithContext .development here buffer buffer 0 none
      (some 9)
    let captured := capture .development there configuration buffer
      (some buffer) none
    (CaptureSite.Shared 2 here there ∧
      configuration.Mirrors buffer 0 (some 9)) ∧
    entry.AgreesSized 2 0 (some 9) captured ∧ entry.dropped = some 2 ∧
    entry.addresses = [0x1000, 0x2000, 0x51, 0x52] ∧
      captured.addresses = [0x1040, 0x2040, 0x51, 0x52] := by
  intro stack here there configuration buffer entry captured
  have shared : CaptureSite.Shared 2 here there :=
    .calls LiveStack.siblings_deeperSite
  have mirrors : configuration.Mirrors buffer 0 (some 9) :=
    ⟨by decide, rfl, rfl⟩
  obtain ⟨_, framesAgree, _⟩ :=
    entry_points_agree .development shared mirrors buffer none
  have agrees := (framesAgree rfl rfl).1
  have two : captured.outcome = .ok (some 2) := by decide +kernel
  have written : entry.addresses = [0x1000, 0x2000, 0x51, 0x52] := by
    decide +kernel
  have alsoWritten : captured.addresses = [0x1040, 0x2040, 0x51, 0x52] := by
    decide +kernel
  exact ⟨⟨shared, mirrors⟩, agrees, (agrees.reported (some 2) two).1, written,
    alsoWritten⟩

end Capture

end FrameChain
