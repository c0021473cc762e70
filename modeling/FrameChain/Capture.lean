import FrameChain.Configuration.Basic
/-!
# Captures of the calling thread's own stack

Every entry point starts at its own frame, so its caller is the first frame
reported.  A capture follows a configuration.  The other four entry points
need none: their depth is the length of the buffer, a trace walks strictly
and records addresses only, and frames are walked laxly with their sizes.  In
a signal handler the context of the signal can be given, and a place that
receives the number of frames that did not fit.
-/

namespace FrameChain

/-- Where a capture runs: the memory and its own frame and stack pointers. -/
structure CaptureSite where
  memory : Memory
  framePointer : Word
  stackPointer : Word

namespace CaptureSite

/-- A frame just above the stack pointer.  Anything else in the register is
no frame to start from. -/
def Plausible (site : CaptureSite) : Prop :=
  site.framePointer ≠ 0 ∧ site.framePointer.Aligned ∧
    site.stackPointer ≤ site.framePointer ∧
    (site.framePointer - site.stackPointer).toNat ≤ maxFrameBytes

instance (site : CaptureSite) : Decidable site.Plausible :=
  inferInstanceAs (Decidable (_ ∧ _ ∧ _ ∧ _))

/-- Walk from the site's own frame.  Without one, nothing is recorded and
nothing was dropped. -/
def walk (site : CaptureSite) (build : Build) (context : Option Registers)
    (output : Output) (plan : WalkPlan) : WalkResult :=
  if site.Plausible then
    unwind
      (Validator.create build context .unknown (.ofMemory site.memory))
      site.memory site.framePointer output plan
  else
    { frames := 0
      output
      visits := []
      counted := []
      outcome := .ok (if plan.countDropped then some 0 else none) }

end CaptureSite

/-- What an entry point leaves behind, also when its walk was broken off. -/
structure CaptureResult where
  frames : Nat
  recorded : List Visit
  addresses : List Word
  sizes : Option (List Word)
  /-- What the caller's place for that number holds afterwards. -/
  dropped : Option Nat
  sizesWritten : Bool
  /-- The number of frames that did not fit, where it is part of the result,
  unless the walk was broken off. -/
  outcome : Except Abort (Option Nat)

namespace Capture

def tracePlan (addresses : List Word) (skip : Nat) (countDropped : Bool) :
    WalkPlan :=
  ⟨addresses.length, skip, true, countDropped⟩

def framesPlan (addresses : List Word) (skip : Nat) (countDropped : Bool) :
    WalkPlan :=
  ⟨addresses.length, skip, false, countDropped⟩

/-- A place for the number of dropped frames keeps its content when nothing
was counted or the walk was broken off. -/
def report (dropped : Option Nat) (outcome : Except Abort (Option Nat)) :
    Option Nat :=
  match dropped, outcome with
  | some _, .ok (some count) => some count
  | kept, _ => kept

/-- A capture that follows a configuration.  Sizes are recorded when the
configuration collects them and there is a buffer for them. -/
def capture (build : Build) (site : CaptureSite)
    (configuration : Configuration) (addresses : List Word)
    (sizes : Option (List Word)) (context : Option Registers) :
    CaptureResult :=
  let output :=
    match sizes with
    | some sizes =>
        if configuration.collectSizes then
          Output.withSizes build addresses sizes
        else
          Output.addressesOnly addresses
    | none => Output.addressesOnly addresses
  let result := site.walk build context output configuration.plan
  { frames := result.frames
    recorded := result.recorded
    addresses := result.output.addresses
    sizes := result.output.sizes <|> sizes
    dropped := none
    sizesWritten := result.output.sizes.isSome
    outcome := result.outcome }

def traceWithContext (build : Build) (site : CaptureSite)
    (addresses : List Word) (skip : Nat) (context : Option Registers)
    (dropped : Option Nat) : CaptureResult :=
  let plan := tracePlan addresses skip dropped.isSome
  let output := Output.addressesOnly addresses
  let result := site.walk build context output plan
  { frames := result.frames
    recorded := result.recorded
    addresses := result.output.addresses
    sizes := none
    dropped := report dropped result.outcome
    sizesWritten := false
    outcome := result.outcome.map fun _ => none }

def framesWithContext (build : Build) (site : CaptureSite)
    (addresses sizes : List Word) (skip : Nat) (context : Option Registers)
    (dropped : Option Nat) : CaptureResult :=
  let plan := framesPlan addresses skip dropped.isSome
  let output := Output.withSizes build addresses sizes
  let result := site.walk build context output plan
  { frames := result.frames
    recorded := result.recorded
    addresses := result.output.addresses
    sizes := some (result.output.sizes.getD sizes)
    dropped := report dropped result.outcome
    sizesWritten := result.output.sizes.isSome
    outcome := result.outcome.map fun _ => none }

def trace (build : Build) (site : CaptureSite) (addresses : List Word)
    (skip : Nat) : CaptureResult :=
  traceWithContext build site addresses skip none none

def frames (build : Build) (site : CaptureSite) (addresses sizes : List Word)
    (skip : Nat) : CaptureResult :=
  framesWithContext build site addresses sizes skip none none

end Capture

end FrameChain
