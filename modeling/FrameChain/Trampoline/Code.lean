import FrameChain.Build
import FrameChain.Memory
/-!
# The code of the fast-syscall trampoline

The trampoline pushes some registers and enters the kernel.  The scan here
recognizes just the instructions that its known variants use: one-byte
pushes, moves between registers, the two kernel entries, and the interrupt of
the oldest variant.  It says how the scan ends; what a build makes of an
ending that counts no pushes is decided after it, so all builds read the same
bytes.
-/

namespace FrameChain.Trampoline

inductive Instruction where
  | push
  /-- A move between registers; it has a second byte. -/
  | move
  /-- The move of the stack pointer into the base pointer. -/
  | keepFrame
  /-- One of the two instructions that enter the kernel. -/
  | enterKernel
  /-- The interrupt that makes a system call. -/
  | interrupt
  | unknown (opcode : UInt8)
deriving DecidableEq, Repr

/-- The instruction that a byte and the byte after it stand for. -/
def Instruction.decode (opcode : UInt8) (operand : Option UInt8) : Instruction :=
  if opcode = 0x89 then
    if operand = some 0xE5 then .keepFrame else .move
  else if opcode = 0x0F ∧ (operand = some 0x34 ∨ operand = some 0x05) then
    .enterKernel
  else if 0x50 ≤ opcode ∧ opcode ≤ 0x5F then
    .push
  else if opcode = 0xCD ∧ operand = some 0x80 then
    .interrupt
  else
    .unknown opcode

/-- Code bytes by offset: none past the end, or a read that fails. -/
abbrev Code := Nat → Except Abort (Option UInt8)

def Code.ofList (bytes : List UInt8) : Code :=
  fun offset => .ok bytes[offset]?

/-- The code at an address, as long as the inspected window and the one byte
that a last two-byte instruction reaches past it. -/
def Code.ofMemory (memory : Memory) (address : Word) : Code :=
  fun offset =>
    if offset ≤ scanWindow then
      (memory.readByte (address.offset offset)).map some
    else
      .ok none

inductive Ending where
  | kernelEntry (pushes : Nat)
  | framed
  | interrupt (pushes : Nat)
  | unknown (opcode : UInt8)
  | exhausted
deriving DecidableEq, Repr

/-- Scan instruction by instruction from an offset on, with the pushes counted
so far. -/
def scan (code : Code) (offset pushes : Nat) : Except Abort Ending :=
  if offset < scanWindow then
    match code offset with
    | .error cause => .error cause
    | .ok none => .ok .exhausted
    | .ok (some opcode) =>
        match code (offset + 1) with
        | .error cause => .error cause
        | .ok operand =>
            match Instruction.decode opcode operand with
            | .push => scan code (offset + 1) (pushes + 1)
            | .move => scan code (offset + 2) pushes
            | .keepFrame => .ok .framed
            | .enterKernel => .ok (.kernelEntry pushes)
            | .interrupt => .ok (.interrupt pushes)
            | .unknown opcode => .ok (.unknown opcode)
  else
    .ok .exhausted
termination_by scanWindow - offset

/-- The number of registers that the trampoline pushed, as a build counts
them.  It is 0 where no correction is needed or possible. -/
def Ending.pushes (build : Build) : Ending → Except Abort Nat
  | .kernelEntry pushes => .ok pushes
  | .framed => .ok 0
  | .interrupt pushes =>
      if pushes = 0 then .ok 0
      else build.refuse (.pushesBeforeInterrupt pushes) 0
  | .unknown opcode => build.refuse (.unexpectedInstruction opcode) 0
  | .exhausted => build.refuse .noKernelEntry 0

def countPushes (build : Build) (code : Code) : Except Abort Nat :=
  match scan code 0 0 with
  | .error cause => .error cause
  | .ok ending => ending.pushes build

end FrameChain.Trampoline
