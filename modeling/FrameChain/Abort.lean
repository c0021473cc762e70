import FrameChain.Word
/-!
# Causes that stop a computation

A computation over raw memory stops for one of four reasons: it reads a byte
that is not mapped, a checked sum leaves the word range, a buffer is written
past its end, or a checked assertion about the trampoline's code fails.  Each
is a cause of its own; the wording is in one place.
-/

namespace FrameChain

/-- What an assertion about the kernel's trampoline found instead. -/
inductive Assertion where
  /-- Registers were pushed before an interrupt instruction. -/
  | pushesBeforeInterrupt (pushes : Nat)
  /-- A byte starts no instruction that the scan knows. -/
  | unexpectedInstruction (opcode : UInt8)
  /-- The inspected bytes hold no instruction that enters the kernel. -/
  | noKernelEntry
  /-- The image is there, but one of the two trampolines is not. -/
  | missingSymbols
deriving DecidableEq, Repr

inductive Abort where
  | unmappedRead
  | additionOverflow
  | indexOutOfBounds (length index : Nat)
  | failed (assertion : Assertion)
deriving DecidableEq, Repr

/-- The text of a byte: `0x` and two hexadecimal digits. -/
def byteHex (byte : UInt8) : String :=
  (if byte < 16 then "0x0" else "0x") ++ Word.hexDigits byte.toNat

def scanWindow : Nat := 10

def Assertion.message : Assertion → String
  | .pushesBeforeInterrupt pushes =>
      "assertion `left == right` failed: push instructions before int $0x80\n  left: "
        ++ toString pushes ++ "\n right: 0"
  | .unexpectedInstruction opcode =>
      "unexpected instruction " ++ byteHex opcode ++ " in __kernel_vsyscall"
  | .noKernelEntry =>
      "did not find sysenter or syscall in the first " ++ toString scanWindow
        ++ " bytes of __kernel_vsyscall"
  | .missingSymbols => "VDSO is present, but doesn't have expected symbols"

def Abort.message : Abort → String
  | .unmappedRead => "read of unmapped memory"
  | .additionOverflow => "attempt to add with overflow"
  | .indexOutOfBounds length index =>
      "index out of bounds: the len is " ++ toString length
        ++ " but the index is " ++ toString index
  | .failed assertion => assertion.message

theorem bind_eq_ok_iff {first : Except ε α} {next : α → Except ε β}
    {result : β} :
    (first >>= next) = .ok result ↔
      ∃ value, first = .ok value ∧ next value = .ok result := by
  cases first <;> simp [bind, Except.bind]

theorem bind_eq_error_iff {first : Except ε α} {next : α → Except ε β}
    {cause : ε} :
    (first >>= next) = .error cause ↔
      first = .error cause ∨
        ∃ value, first = .ok value ∧ next value = .error cause := by
  cases first <;> simp [bind, Except.bind]

end FrameChain
