import FrameChain.Text.Blank
import FrameChain.Text.Quoted
import FrameChain.Walk
/-!
# Configurations

A configuration says how deep a capture goes, how many frames it skips, how
strictly it walks and what it reports.  A configuration made from its parts
has a depth within the limits.
-/

namespace FrameChain

/-- How much a transition has to prove before it is accepted. -/
inductive Mode where
  /-- Callers lie above, a plausible distance away. -/
  | strict
  /-- Every readable frame is accepted. -/
  | lax
deriving DecidableEq, Repr

namespace Mode

def isStrict : Mode → Bool
  | .strict => true
  | .lax => false

def name : Mode → String
  | .strict => "strict"
  | .lax => "lax"

def variant : Mode → String
  | .strict => "Strict"
  | .lax => "Lax"

def ofName? (text : String) : Option Mode :=
  if text = "strict" then some .strict
  else if text = "lax" then some .lax
  else none

theorem ofName?_eq_some_iff {text : String} {mode : Mode} :
    ofName? text = some mode ↔ text = mode.name := by
  unfold ofName?
  split
  next strict =>
    subst strict
    cases mode <;> decide
  next notStrict =>
    split
    next lax =>
      subst lax
      cases mode <;> decide
    next notLax => cases mode <;> simp [name, notStrict, notLax]

/-- A text as modes are looked up: without blanks around it, in lower case. -/
def normalize (text : String) : String :=
  String.ofList (Text.lowerAscii (Text.trim text.toList))

/-- The mode that a text names, whatever the case of its ASCII letters and the
blanks around it. -/
def parse? (text : String) : Option Mode :=
  ofName? (normalize text)

def unknownMessage (text : String) : String :=
  "Unknown unwinding mode " ++ Text.quoted (normalize text)
    ++ ", expected strict or lax"

end Mode

structure Configuration where
  countDropped : Bool
  collectSizes : Bool
  maxDepth : Word
  skipCount : Word
  mode : Mode
deriving DecidableEq, Repr

namespace Configuration

def defaultDepth : Word := 128

def depthLimit : Word := 4096

def initial : Configuration := ⟨false, false, defaultDepth, 0, .strict⟩

instance : Inhabited Configuration := ⟨initial⟩

inductive DepthError where
  | zero
  | tooDeep (depth : Word)
deriving DecidableEq, Repr

def DepthError.message : DepthError → String
  | .zero => "max_depth must be at least 1"
  | .tooDeep depth =>
      "max_depth " ++ toString depth.toNat ++ " exceeds the limit of "
        ++ toString depthLimit.toNat

def create (maxDepth skipCount : Word) (mode : Mode)
    (collectSizes countDropped : Bool) : Except DepthError Configuration :=
  if maxDepth = 0 then .error .zero
  else if depthLimit < maxDepth then .error (.tooDeep maxDepth)
  else .ok ⟨countDropped, collectSizes, maxDepth, skipCount, mode⟩

def withMode (configuration : Configuration) (mode : Mode) : Configuration :=
  { configuration with mode }

def plan (configuration : Configuration) : WalkPlan :=
  { depth := configuration.maxDepth.toNat
    skip := configuration.skipCount.toNat
    strict := configuration.mode.isStrict
    countDropped := configuration.countDropped }

theorem create_depth {maxDepth skipCount : Word} {mode : Mode}
    {collectSizes countDropped : Bool} {configuration : Configuration}
    (created : create maxDepth skipCount mode collectSizes countDropped =
      .ok configuration) :
    configuration.maxDepth ≠ 0 ∧ configuration.maxDepth ≤ depthLimit := by
  unfold create at created
  split at created
  · cases created
  next nonzero =>
    split at created
    · cases created
    next bounded =>
      rw [← Except.ok.inj created]
      exact ⟨nonzero, UInt64.not_lt.mp bounded⟩

end Configuration

end FrameChain
