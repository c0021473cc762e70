import FrameChain.Output
import FrameChain.Transition
/-!
# Walks along a chain of frames

A walk has two legs over one cursor.  The recording leg passes over the frames
that are to be skipped and writes the others, until the output is full or deep
enough; the counting leg goes on laxly from where the first one stopped, only
to say how many frames did not fit.  Either leg ends at a null frame pointer,
at a null return address, or when it has gone far enough, so it ends on cyclic
chains too.

A leg keeps the frames it took with the probe's questions.  A read that fails
breaks the walk off, and what it wrote until then stays written.
-/

namespace FrameChain

def maxDroppedFrames : Nat := 1000

structure WalkPlan where
  depth : Nat
  skip : Nat
  strict : Bool
  countDropped : Bool
deriving DecidableEq, Repr

/-- A frame that was taken, and the caller's frame, 0 where the chain ends. -/
structure Visit where
  record : FrameRecord
  next : Word
  probed : List Word
deriving DecidableEq, Repr

namespace Visit

def framePointer (visit : Visit) : Word := visit.record.framePointer

def returnAddress (visit : Visit) : Word := visit.record.returnAddress

def size (visit : Visit) : Word := visit.record.sizeTo visit.next

end Visit

/-- Take the frame at a cursor; a null return address ends the chain. -/
def Validator.visit (validator : Validator) (memory : Memory)
    (options : WalkOptions) (cursor : Word) :
    Except Abort (Option Visit) := do
  let record ← FrameRecord.read memory cursor
  if record.returnAddress = 0 then
    pure none
  else do
    let transition ← validator.nextFrame memory cursor options
    pure (some ⟨record, transition.next.getD 0, transition.probed⟩)

structure Recording where
  cursor : Word
  /-- The frames that are still to be skipped. -/
  skip : Nat
  /-- The entries that are written. -/
  frames : Nat
  output : Output
  /-- The frames that were taken, the latest first. -/
  visits : List Visit
deriving DecidableEq, Repr

structure Counting where
  cursor : Word
  dropped : Nat
  /-- The frames that were taken, the latest first. -/
  visits : List Visit
deriving DecidableEq, Repr

/-- How a leg ended: where it stood last, and what broke it off, if it did not
end by itself. -/
structure Leg (State : Type) where
  last : State
  broken : Option Abort
deriving DecidableEq, Repr

/-- Skip and write frames until the chain ends or a depth is reached. -/
def Validator.record (validator : Validator) (memory : Memory)
    (options : WalkOptions) (depth : Nat) (state : Recording) :
    Leg Recording :=
  if state.cursor ≠ 0 ∧ state.frames < depth then
    match validator.visit memory options state.cursor with
    | .error cause => ⟨state, some cause⟩
    | .ok none => ⟨{ state with cursor := 0 }, none⟩
    | .ok (some visit) =>
        if 0 < state.skip then
          validator.record memory options depth
            { state with
              cursor := visit.next
              skip := state.skip - 1
              visits := visit :: state.visits }
        else
          match state.output.record state.frames visit.returnAddress
              visit.size with
          | .error cause => ⟨state, some cause⟩
          | .ok output =>
              validator.record memory options depth
                { state with
                  cursor := visit.next
                  frames := state.frames + 1
                  output
                  visits := visit :: state.visits }
  else
    ⟨state, none⟩
-- A skipped frame leaves the number of written entries as it is, so the
-- frames still to be skipped count as well.
termination_by state.skip + (depth - state.frames)

/-- Count frames until the chain ends or there are enough of them. -/
def Validator.count (validator : Validator) (memory : Memory)
    (options : WalkOptions) (state : Counting) : Leg Counting :=
  if state.cursor ≠ 0 ∧ state.dropped < maxDroppedFrames then
    match validator.visit memory options state.cursor with
    | .error cause => ⟨state, some cause⟩
    | .ok none => ⟨state, none⟩
    | .ok (some visit) =>
        validator.count memory options
          { cursor := visit.next
            dropped := state.dropped + 1
            visits := visit :: state.visits }
  else
    ⟨state, none⟩
termination_by maxDroppedFrames - state.dropped

/-- What a walk leaves behind.  A frame is written as soon as it was taken, so
a walk that was broken off has written the frames before. -/
structure WalkResult where
  frames : Nat
  output : Output
  /-- The frames that the recording leg took, skipped ones included. -/
  visits : List Visit
  counted : List Visit
  /-- A lower bound on the frames that did not fit, where asked for, unless
  the walk was broken off. -/
  outcome : Except Abort (Option Nat)

namespace WalkResult

def recorded (result : WalkResult) : List Visit :=
  result.visits.drop (result.visits.length - result.frames)

/-- The addresses that the probe was asked about, in order. -/
def probed (result : WalkResult) : List Word :=
  (result.visits ++ result.counted).flatMap (·.probed)

end WalkResult

def Recording.result (state : Recording) (counted : List Visit)
    (outcome : Except Abort (Option Nat)) : WalkResult :=
  { frames := state.frames
    output := state.output
    visits := state.visits.reverse
    counted
    outcome }

namespace WalkPlan

def effectiveDepth (plan : WalkPlan) (output : Output) : Nat :=
  min plan.depth output.capacity

def options (plan : WalkPlan) (validator : Validator) : WalkOptions :=
  ⟨plan.strict, validator.context.isSome⟩

end WalkPlan

def WalkPlan.initial (plan : WalkPlan) (start : Word) (output : Output) :
    Recording :=
  { cursor := start, skip := plan.skip, frames := 0, output, visits := [] }

/-- End a walk after its recording leg: the frames that did not fit are
counted, where that is asked for, and nothing follows a leg that broke. -/
def Validator.conclude (validator : Validator) (memory : Memory)
    (options : WalkOptions) (countDropped : Bool) (recording : Leg Recording) :
    WalkResult :=
  match recording.broken with
  | some cause => recording.last.result [] (.error cause)
  | none =>
      if countDropped then
        let counting := validator.count memory options.relaxed
          { cursor := recording.last.cursor, dropped := 0, visits := [] }
        recording.last.result counting.last.visits.reverse
          (match counting.broken with
          | some cause => .error cause
          | none => .ok (some counting.last.dropped))
      else
        recording.last.result [] (.ok none)

def unwind (validator : Validator) (memory : Memory) (start : Word)
    (output : Output) (plan : WalkPlan) : WalkResult :=
  let options := plan.options validator
  validator.conclude memory options plan.countDropped
    (validator.record memory options (plan.effectiveDepth output)
      (plan.initial start output))

end FrameChain
