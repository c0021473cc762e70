import FrameChain.Abort
/-!
# Builds

One description of the library has several builds.  A build says whether
failed assertions and overflowing sums stop the computation, and which of the
two optional capabilities, frame sizes and signal contexts, are present.
-/

namespace FrameChain

structure Build where
  assertions : Bool
  overflowChecks : Bool
  frameSizes : Bool
  signalContext : Bool
deriving DecidableEq, Repr

namespace Build

/-- Everything is checked and every capability is present. -/
def development : Build := ⟨true, true, true, true⟩

/-- Assertions are skipped and sums wrap. -/
def release : Build := ⟨false, false, true, true⟩

/-- Checked, but without frame sizes and without signal contexts. -/
def minimal : Build := ⟨true, true, false, false⟩

/-- The sum of two addresses, refused when it is checked and does not fit. -/
def add (build : Build) (left right : Word) : Except Abort Word :=
  if build.overflowChecks ∧ UInt64.size ≤ left.toNat + right.toNat then
    .error .additionOverflow
  else
    .ok (left + right)

/-- Stop at a failed assertion, or go on with the fallback value. -/
def refuse (build : Build) (assertion : Assertion) (fallback : α) :
    Except Abort α :=
  if build.assertions then .error (.failed assertion) else .ok fallback

theorem add_eq_ok {build : Build} {left right sum : Word}
    (returned : build.add left right = .ok sum) : sum = left + right := by
  unfold add at returned
  split at returned
  · cases returned
  · exact (Except.ok.inj returned).symm

theorem add_of_fits {build : Build} {left right : Word}
    (fits : left.toNat + right.toNat < UInt64.size) :
    build.add left right = .ok (left + right) := by
  have unreached : ¬ UInt64.size ≤ left.toNat + right.toNat :=
    Nat.not_le.mpr fits
  simp [add, unreached]

end Build

end FrameChain
