import FrameChain.Symbol
import FrameChain.Trampoline.Code
/-!
# What is known about the trampoline

A walk can step over the trampoline when three facts are known: where it
starts, where the code is that a signal handler returns into, and how many
registers the trampoline pushes before it enters the kernel.  They come from
two symbols and a look at the code, and are all known or all absent.
-/

namespace FrameChain.Trampoline

structure Analysis where
  entry : Word
  signalReturn : Word
  /-- The registers pushed before the kernel is entered; 0 says that no
  correction is needed. -/
  pushes : Word
deriving DecidableEq, Repr

namespace Analysis

/-- Nothing is known, and nothing is corrected. -/
def unknown : Analysis := ⟨0, 0, 0⟩

def NeedsCorrection (analysis : Analysis) : Prop :=
  analysis.pushes ≠ 0 ∧ analysis.signalReturn ≠ 0

instance (analysis : Analysis) : Decidable analysis.NeedsCorrection :=
  inferInstanceAs (Decidable (_ ∧ _))

/-- The instruction pointer lies in the inspected start of the trampoline. -/
def Covers (analysis : Analysis) (instructionPointer : Word) : Prop :=
  analysis.entry ≠ 0 ∧ analysis.entry ≤ instructionPointer ∧
    (instructionPointer - analysis.entry).toNat < scanWindow

instance (analysis : Analysis) (instructionPointer : Word) :
    Decidable (analysis.Covers instructionPointer) :=
  inferInstanceAs (Decidable (_ ∧ _ ∧ _))

/-- The inspected start does not wrap around the address space. -/
theorem covers_iff {analysis : Analysis} {instructionPointer : Word} :
    analysis.Covers instructionPointer ↔
      analysis.entry ≠ 0 ∧
        analysis.entry.toNat ≤ instructionPointer.toNat ∧
        instructionPointer.toNat < analysis.entry.toNat + scanWindow := by
  unfold Covers
  rw [UInt64.le_iff_toNat_le]
  refine and_congr_right fun _ => and_congr_right fun above => ?_
  rw [UInt64.toNat_sub_of_le _ _ (UInt64.le_iff_toNat_le.mpr above)]
  omega

/-- The version under which the kernel exports both trampolines. -/
def symbolVersion : String := "LINUX_2.5"

def signalReturnQuery : SymbolQuery :=
  ⟨"__kernel_rt_sigreturn", symbolVersion, SymbolQuery.functionKind⟩

def entryQuery : SymbolQuery :=
  ⟨"__kernel_vsyscall", symbolVersion, SymbolQuery.functionKind⟩

/-- The analysis that two answers allow.  Two addresses lead to a look at the
code; a missing object means that there is nothing to correct; any other
answer contradicts an object that is there. -/
def ofAnswers (build : Build) (memory : Memory)
    (signalReturn entry : SymbolAnswer) : Except Abort Analysis :=
  match signalReturn, entry with
  | .error .objectNotPresent, _ => .ok unknown
  | _, .error .objectNotPresent => .ok unknown
  | .ok signalReturn, .ok entry =>
      if signalReturn = 0 ∨ entry = 0 then
        build.refuse .missingSymbols unknown
      else
        (countPushes build (.ofMemory memory entry)).map fun pushes =>
          ⟨entry, signalReturn, UInt64.ofNat pushes⟩
  | _, _ => build.refuse .missingSymbols unknown

theorem ofAnswers_of_ne {build : Build} {memory : Memory}
    {signalReturn entry : Word}
    (returns : (.ok signalReturn : SymbolAnswer) ≠ .ok 0)
    (enters : (.ok entry : SymbolAnswer) ≠ .ok 0) :
    ofAnswers build memory (.ok signalReturn) (.ok entry) =
      (countPushes build (.ofMemory memory entry)).map fun pushes =>
        ⟨entry, signalReturn, UInt64.ofNat pushes⟩ := by
  have there : ¬ (signalReturn = 0 ∨ entry = 0) := by
    rintro (rfl | rfl)
    · exact returns rfl
    · exact enters rfl
  simp only [ofAnswers, there, if_false]

/-- Ask for the two symbols, in this order and both in any case, and draw the
conclusion.  The lookup may act on a state, such as a record of its calls. -/
def resolve {m : Type → Type} [Monad m] [MonadLiftT (Except Abort) m]
    (build : Build) (memory : Memory)
    (lookup : SymbolQuery → m SymbolAnswer) : m Analysis := do
  let signalReturn ← lookup signalReturnQuery
  let entry ← lookup entryQuery
  liftM (ofAnswers build memory signalReturn entry)

end Analysis

end FrameChain.Trampoline
