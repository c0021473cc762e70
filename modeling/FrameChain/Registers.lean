import FrameChain.Frame
/-!
# Registers of an interrupted thread

A signal handler receives the registers of the thread it interrupted.  Three
of them matter to a walk.  The base pointer is taken for the interrupted
frame only where it lies near above the stack pointer: code without frame
pointers may use that register for anything.
-/

namespace FrameChain

structure Registers where
  basePointer : Word
  stackPointer : Word
  instructionPointer : Word
deriving DecidableEq, Repr

namespace Registers

/-- The frame of the interrupted code: the base pointer where it is plausible,
and the stack pointer, frame or not, where it is not. -/
def frameHint (registers : Registers) : Word :=
  if registers.stackPointer ≤ registers.basePointer ∧
      (registers.basePointer - registers.stackPointer).toNat ≤ maxFrameBytes then
    registers.basePointer
  else
    registers.stackPointer

def text (registers : Registers) : String :=
  "UContextView \x7b bp: " ++ registers.basePointer.hex
    ++ ", sp: " ++ registers.stackPointer.hex
    ++ ", ip: " ++ registers.instructionPointer.hex ++ " \x7d"

end Registers

/-- The frame that a context points at, or 0 when there is no context. -/
def frameHint : Option Registers → Word
  | none => 0
  | some registers => registers.frameHint

end FrameChain
