import FrameChain.Configuration.Json
import FrameChain.Configuration.Overrides
import FrameChain.Proofs.Repetition
import FrameChain.Proofs.Room
import Mathlib.Data.List.Induction

/-!
# Depths of configurations

There are five public ways to a configuration: the default one, one made from
its parts, one read from JSON, a new mode, and overrides from the environment.
Each is a change of the configuration at hand, and the first three do not
depend on it.  A run of changes of any length says where a depth can come from.

Every way but one checks the depth.  A depth that is read from JSON is taken as
it is, and lasts until another depth replaces it.
-/

namespace FrameChain

namespace Configuration

/-- What the limits allow for a depth. -/
def ValidDepth (depth : Word) : Prop :=
  1 ≤ depth.toNat ∧ depth.toNat ≤ depthLimit.toNat

instance (depth : Word) : Decidable (ValidDepth depth) :=
  inferInstanceAs (Decidable (_ ∧ _))

/-- A public way to obtain a configuration or to change one. -/
inductive Change where
  | reset
  | create (maxDepth skipCount : Word) (mode : Mode)
      (collectSizes countDropped : Bool)
  | read (value : Json)
  | setMode (mode : Mode)
  | override (environment : Environment)

/-- What a change makes of a configuration; one that fails keeps it. -/
def apply (configuration : Configuration) : Change → Configuration
  | .reset => initial
  | .create maxDepth skipCount mode collectSizes countDropped =>
      (create maxDepth skipCount mode collectSizes
        countDropped).toOption.getD configuration
  | .read value => (ofJson value).toOption.getD configuration
  | .setMode mode => configuration.withMode mode
  | .override environment => (configuration.withOverrides environment).1

/-- The configuration after a run of changes. -/
def after (changes : List Change) : Configuration :=
  changes.foldl apply initial

namespace Change

/-- The depth that a change sets, if it sets one. -/
def depth? : Change → Option Word
  | .reset => some defaultDepth
  | .create maxDepth skipCount mode collectSizes countDropped =>
      (Configuration.create maxDepth skipCount mode collectSizes
        countDropped).toOption.map (·.maxDepth)
  | .read value => (ofJson value).toOption.map (·.maxDepth)
  | .setMode _ => none
  | .override environment =>
      (variableText environment.depth).bind parseDepth?

/-- A depth is read that the limits do not allow. -/
def Unchecked : Change → Prop
  | .read value =>
      ∃ configuration, ofJson value = .ok configuration ∧
        ¬ ValidDepth configuration.maxDepth
  | _ => False

end Change

/-- An unchecked depth is the last one that was set. -/
def EndsUnchecked (changes : List Change) : Prop :=
  ∃ earlier change later, changes = earlier ++ change :: later ∧
    change.Unchecked ∧ ∀ kept ∈ later, kept.depth? = none

theorem ok_of_toOption {Failure : Type} {run : Except Failure Configuration}
    {configuration : Configuration}
    (found : run.toOption = some configuration) :
    run = .ok configuration := by
  cases run with
  | error cause => cases found
  | ok result =>
      cases found
      rfl

theorem validDepth_default : ValidDepth defaultDepth := by
  decide

theorem create_validDepth {maxDepth skipCount : Word} {mode : Mode}
    {collectSizes countDropped : Bool} {configuration : Configuration}
    (created : create maxDepth skipCount mode collectSizes countDropped =
      .ok configuration) :
    ValidDepth configuration.maxDepth := by
  obtain ⟨nonzero, bounded⟩ := create_depth created
  constructor
  · exact Nat.pos_of_ne_zero fun zero =>
      nonzero (UInt64.toNat_inj.mp zero)
  · exact UInt64.le_iff_toNat_le.mp bounded

theorem apply_maxDepth (configuration : Configuration) (change : Change) :
    (configuration.apply change).maxDepth =
      change.depth?.getD configuration.maxDepth := by
  cases change with
  | reset => rfl
  | create maxDepth skipCount mode collectSizes countDropped =>
      exact (Option.getD_map ..).symm
  | read value => exact (Option.getD_map ..).symm
  | setMode mode => rfl
  | override environment => exact configuration.withOverrides_maxDepth _

/-- A change that sets a depth sets an allowed one, unless it reads it without
a check. -/
theorem Change.validDepth_iff {change : Change} {depth : Word}
    (found : change.depth? = some depth) :
    ValidDepth depth ↔ ¬ change.Unchecked := by
  cases change with
  | reset =>
      cases found
      exact iff_of_true validDepth_default id
  | create maxDepth skipCount mode collectSizes countDropped =>
      obtain ⟨configuration, created, rfl⟩ := Option.map_eq_some_iff.mp found
      exact iff_of_true (create_validDepth (ok_of_toOption created)) id
  | read value =>
      obtain ⟨configuration, present, rfl⟩ := Option.map_eq_some_iff.mp found
      have read := ok_of_toOption present
      constructor
      · rintro valid ⟨_, again, invalid⟩
        cases read.symm.trans again
        exact invalid valid
      · intro checked
        by_contra invalid
        exact checked ⟨configuration, read, invalid⟩
  | setMode mode => cases found
  | override environment =>
      obtain ⟨text, _, parsed⟩ := Option.bind_eq_some_iff.mp found
      exact iff_of_true (parseDepth?_bounds parsed) id

theorem Change.Unchecked.depth?_ne_none {change : Change}
    (unchecked : change.Unchecked) : change.depth? ≠ none := by
  cases change with
  | read value =>
      obtain ⟨configuration, read, _⟩ := unchecked
      simp [depth?, read, Except.toOption]
  | _ => exact unchecked.elim

theorem apply_validDepth_iff (configuration : Configuration)
    (change : Change) :
    ValidDepth (configuration.apply change).maxDepth ↔
      ¬ change.Unchecked ∧
        (change.depth? = none → ValidDepth configuration.maxDepth) := by
  rw [apply_maxDepth]
  cases found : change.depth? with
  | none =>
      have checked : ¬ change.Unchecked :=
        fun unchecked => unchecked.depth?_ne_none found
      simp [checked]
  | some depth => simp [Change.validDepth_iff found]

theorem endsUnchecked_concat {changes : List Change} {change : Change} :
    EndsUnchecked (changes ++ [change]) ↔
      change.Unchecked ∨ change.depth? = none ∧ EndsUnchecked changes := by
  constructor
  · rintro ⟨earlier, cause, later, split, unchecked, kept⟩
    rcases List.eq_nil_or_concat' later with rfl | ⟨before, last, rfl⟩
    · obtain ⟨_, same⟩ := List.append_inj' split rfl
      cases same
      exact .inl unchecked
    · rw [← List.cons_append, ← List.append_assoc] at split
      obtain ⟨rfl, same⟩ := List.append_inj' split rfl
      cases same
      refine .inr ⟨kept change (by simp), earlier, cause, before, rfl,
        unchecked, ?_⟩
      intro other member
      exact kept other (List.mem_append_left _ member)
  · rintro (unchecked | ⟨silent, earlier, cause, later, rfl, unchecked, kept⟩)
    · exact ⟨changes, change, [], rfl, unchecked, by simp⟩
    · refine ⟨earlier, cause, later ++ [change], by simp, unchecked, ?_⟩
      intro other member
      rcases List.mem_append.mp member with inside | last
      · exact kept other inside
      · rw [List.mem_singleton.mp last]
        exact silent

theorem after_concat (changes : List Change) (change : Change) :
    after (changes ++ [change]) = (after changes).apply change := by
  rw [after, List.foldl_concat, after]

theorem after_validDepth_iff (changes : List Change) :
    ValidDepth (after changes).maxDepth ↔ ¬ EndsUnchecked changes := by
  induction changes using List.reverseRecOn with
  | nil =>
      refine iff_of_true validDepth_default ?_
      rintro ⟨earlier, _, _, split, _⟩
      cases earlier <;> cases split
  | append_singleton changes change ih =>
      rw [after_concat, apply_validDepth_iff, ih, endsUnchecked_concat,
        not_or, not_and]

end Configuration

namespace CaptureSite

/-- A lax walk from a site whose chain comes back uses all the room that it
has. -/
theorem walk_frames_of_again {site : CaptureSite} {build : Build}
    {context : Option Registers} {plan : WalkPlan} {first last : Nat}
    (lax : plan.strict = false) (before : first < last)
    (holds : site.HoldsFrames build context (last + 1))
    (again : (site.validator build context).chain site.memory
        (plan.options (site.validator build context)) site.framePointer first =
      (site.validator build context).chain site.memory
        (plan.options (site.validator build context)) site.framePointer last)
    {output : Output} (room : last < plan.effectiveDepth output) :
    (site.walk build context output plan).frames =
      plan.effectiveDepth output := by
  have options : plan.options (site.validator build context) =
      ⟨false, (site.validator build context).context.isSome⟩ := by
    rw [WalkPlan.options, lax]
  have budget : plan.budget output =
      plan.skip + plan.effectiveDepth output := by
    rw [WalkPlan.budget, if_pos (Nat.zero_lt_of_lt room)]
  have taken := (Validator.le_trail_length_iff
    (site.not_needsCorrection build context) site.memory
    (plan.options (site.validator build context))
    (show last + 1 ≤ plan.budget output by omega) site.framePointer).mpr
      (options ▸ holds.2)
  have spent := Validator.trail_spent before taken again
  obtain ⟨frames, _⟩ := site.walk_recorded build context output plan
  rw [frames, recorded, if_pos holds.1, List.length_drop, WalkPlan.recording,
    spent, budget, Nat.add_sub_cancel_left]

end CaptureSite

namespace Capture

theorem capture_frames_le (build : Build) (site : CaptureSite)
    (configuration : Configuration) (addresses : List Word)
    (sizes : Option (List Word)) (context : Option Registers) :
    (capture build site configuration addresses sizes context).frames ≤
      configuration.maxDepth.toNat := by
  simp only [capture]
  obtain ⟨frames, _, within⟩ :=
    site.walk_recorded build context _ configuration.plan
  rw [frames]
  exact Nat.le_trans within (Nat.min_le_left _ _)

end Capture

namespace Configuration

/-- After any run of changes the depth is within the limits, and with it the
number of frames of each capture, exactly when the last depth that was set is
not one that was read unchecked. -/
theorem after_depth_limits (changes : List Change) :
    (ValidDepth (after changes).maxDepth ↔ ¬ EndsUnchecked changes) ∧
      ∀ build site addresses sizes context,
        let result := Capture.capture build site (after changes) addresses
          sizes context
        result.frames ≤ (after changes).maxDepth.toNat ∧
          (EndsUnchecked changes ∨ result.frames ≤ depthLimit.toNat) := by
  have valid := after_validDepth_iff changes
  refine ⟨valid, ?_⟩
  intro build site addresses sizes context result
  have frames := Capture.capture_frames_le build site (after changes) addresses
    sizes context
  refine ⟨frames, ?_⟩
  by_cases unchecked : EndsUnchecked changes
  · exact .inl unchecked
  · exact .inr (Nat.le_trans frames (valid.mpr unchecked).2)

/-- A depth past the limit can be read, and a lax capture on two frames that are
linked to each other then writes more frames than the limit. -/
theorem exists_capture_beyond_limit :
    ∃ (value : Json) (build : Build) (site : CaptureSite)
      (addresses : List Word),
      ¬ ValidDepth (after [.read value]).maxDepth ∧
      depthLimit.toNat <
        (Capture.capture build site (after [.read value]) addresses none
          none).frames := by
  let value : Json := .array
    [.bool false, .bool false, .natural 4097, .natural 0, .string "lax"]
  let site : CaptureSite :=
    { memory := .page 0x1000
        [(0x1000, 0x1010), (0x1008, 1), (0x1010, 0x1000), (0x1018, 2)]
      framePointer := 0x1000
      stackPointer := 0x1000 }
  have read : after [.read value] = ⟨false, false, 4097, 0, .lax⟩ := by
    decide +kernel
  have reaches : site.HoldsFrames .development none 3 := by
    decide +kernel
  have again :
      (site.validator .development none).chain site.memory ⟨false, false⟩
          0x1000 0 =
        (site.validator .development none).chain site.memory ⟨false, false⟩
          0x1000 2 := by
    decide +kernel
  obtain ⟨addresses, room⟩ : ∃ addresses : List Word,
      addresses.length = 4097 :=
    ⟨.replicate 4097 0, List.length_replicate⟩
  refine ⟨value, .development, site, addresses, ?_, ?_⟩
  · rw [read]
    decide
  · let plan : WalkPlan := ⟨4097, 0, false, false⟩
    let output : Output := .addressesOnly addresses
    have depth : plan.effectiveDepth output = 4097 := by
      change min 4097 addresses.length = 4097
      rw [room, Nat.min_self]
    have within : 2 < plan.effectiveDepth output := by
      rw [depth]
      decide
    have lax : plan.strict = false := rfl
    have written := CaptureSite.walk_frames_of_again lax (by decide : 0 < 2)
      reaches again within
    rw [read]
    change depthLimit.toNat <
      (site.walk .development none output plan).frames
    rw [written, depth]
    decide

end Configuration

end FrameChain
