import FrameChain.Configuration.Basic
import FrameChain.Decimal.Natural
/-!
# Overrides from the environment

Two environment variables replace the mode and the depth of a configuration.
A variable that is unset, or whose bytes are not UTF-8, replaces nothing; a
value that cannot be used replaces nothing either, and leaves a notice.
-/

namespace FrameChain.Configuration

def modeVariable : String := "DD_STACKWALK_UNWINDING"

def depthVariable : String := "DD_STACKWALK_MAX_DEPTH"

/-- The bytes of the two variables, where they are set. -/
structure Environment where
  mode : Option ByteArray
  depth : Option ByteArray

def variableText (bytes : Option ByteArray) : Option String :=
  bytes.bind String.fromUTF8?

inductive Notice where
  | mode (text : String)
  | depth (text : String)
deriving DecidableEq, Repr

def Notice.message : Notice → String
  | .mode text =>
      "Ignoring " ++ modeVariable ++ ": " ++ Mode.unknownMessage text
  | .depth text =>
      "Ignoring " ++ depthVariable ++ "=" ++ Text.quoted text
        ++ ": expected a depth in 1..=" ++ toString depthLimit.toNat

/-- The depth that a text gives: a numeral between blanks, from 1 up to the
limit. -/
def parseDepth? (text : String) : Option Word :=
  match Decimal.natural? (Text.trim text.toList) with
  | none => none
  | some value =>
      if 1 ≤ value ∧ value ≤ depthLimit.toNat then some (UInt64.ofNat value)
      else none

def overrideMode (configuration : Configuration) :
    Option String → Configuration × List Notice
  | none => (configuration, [])
  | some text =>
      match Mode.parse? text with
      | some mode => (configuration.withMode mode, [])
      | none => (configuration, [.mode text])

def overrideDepth (configuration : Configuration) :
    Option String → Configuration × List Notice
  | none => (configuration, [])
  | some text =>
      match parseDepth? text with
      | some maxDepth => ({ configuration with maxDepth }, [])
      | none => (configuration, [.depth text])

/-- Apply both overrides, the mode first, and collect the notices in order. -/
def withOverrides (configuration : Configuration)
    (environment : Environment) : Configuration × List Notice :=
  let (moded, modeNotices) :=
    configuration.overrideMode (variableText environment.mode)
  let (deepened, depthNotices) :=
    moded.overrideDepth (variableText environment.depth)
  (deepened, modeNotices ++ depthNotices)

theorem parseDepth?_bounds {text : String} {depth : Word}
    (parsed : parseDepth? text = some depth) :
    1 ≤ depth.toNat ∧ depth.toNat ≤ depthLimit.toNat := by
  unfold parseDepth? at parsed
  split at parsed
  · cases parsed
  next value _ =>
    split at parsed
    next bounds =>
      cases parsed
      have limit := depthLimit.toNat_lt
      rw [UInt64.toNat_ofNat_of_lt' (Nat.lt_of_le_of_lt bounds.2 limit)]
      exact bounds
    next => cases parsed

theorem overrideMode_maxDepth (configuration : Configuration)
    (text : Option String) :
    (configuration.overrideMode text).1.maxDepth = configuration.maxDepth := by
  unfold overrideMode
  split
  · rfl
  · split <;> rfl

theorem overrideDepth_maxDepth (configuration : Configuration)
    (text : Option String) :
    (configuration.overrideDepth text).1.maxDepth =
      (text.bind parseDepth?).getD configuration.maxDepth := by
  cases text with
  | none => rfl
  | some text =>
      rw [Option.bind_some, overrideDepth]
      split
      next parsed => rw [parsed, Option.getD_some]
      next refused => rw [refused, Option.getD_none]

theorem withOverrides_maxDepth (configuration : Configuration)
    (environment : Environment) :
    (configuration.withOverrides environment).1.maxDepth =
      ((variableText environment.depth).bind parseDepth?).getD
        configuration.maxDepth := by
  rw [withOverrides, overrideDepth_maxDepth, overrideMode_maxDepth]

end FrameChain.Configuration
