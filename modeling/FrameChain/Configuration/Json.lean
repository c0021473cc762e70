import FrameChain.Configuration.Basic
import FrameChain.Json
/-!
# Configurations as JSON

A configuration is written as an object with its five members in a fixed
order.  It is read from an object with these members in any order and any
others beside them, or from an array of the five values in that order.  A
mode may be a string or an object whose only key is the mode and whose value
is null.  Reading does not check the depth.

Of several mistakes the one reported is the first: members are visited by
key, wrong values come before missing members, and missing members come in
the fixed order.
-/

namespace FrameChain.Configuration

inductive Field where
  | countDropped
  | collectSizes
  | maxDepth
  | skipCount
  | mode
deriving DecidableEq, Repr

namespace Field

/-- The fields in the order in which they are written. -/
def all : List Field :=
  [.countDropped, .collectSizes, .maxDepth, .skipCount, .mode]

def name : Field → String
  | .countDropped => "count_dropped_frames"
  | .collectSizes => "collect_sizes"
  | .maxDepth => "max_depth"
  | .skipCount => "skip_count"
  | .mode => "unwinding"

def ofName? (name : String) : Option Field :=
  all.find? (·.name = name)

end Field

def fieldValue (configuration : Configuration) : Field → Json
  | .countDropped => .bool configuration.countDropped
  | .collectSizes => .bool configuration.collectSizes
  | .maxDepth => .natural configuration.maxDepth
  | .skipCount => .natural configuration.skipCount
  | .mode => .string configuration.mode.name

def toJson (configuration : Configuration) : Json :=
  .object (Field.all.map fun field =>
    (field.name, configuration.fieldValue field))

def text (configuration : Configuration) : String :=
  configuration.toJson.compact

inductive Expectation where
  | configuration
  | boolean
  | word
  | mode
  | unit
deriving DecidableEq, Repr

def Expectation.phrase : Expectation → String
  | .configuration => "struct UnwindConfiguration"
  | .boolean => "a boolean"
  | .word => "usize"
  | .mode => "string or map"
  | .unit => "unit"

inductive ReadError where
  | wrongType (found : Json) (expected : Expectation)
  /-- A negative integer where a word was expected. -/
  | negative (found : Json)
  | unknownMode (name : String)
  /-- A mode written as an object without exactly one member. -/
  | notOneKey
  | missing (field : Field)
  | tooShort (length : Nat)
  | tooLong (length : Nat)

def ReadError.message : ReadError → String
  | .wrongType found expected =>
      "invalid type: " ++ found.described ++ ", expected " ++ expected.phrase
  | .negative found =>
      "invalid value: " ++ found.described ++ ", expected "
        ++ Expectation.word.phrase
  | .unknownMode name =>
      "unknown variant `" ++ name ++ "`, expected `strict` or `lax`"
  | .notOneKey => "invalid value: map, expected map with a single key"
  | .missing field => "missing field `" ++ field.name ++ "`"
  | .tooShort length =>
      "invalid length " ++ toString length ++ ", expected "
        ++ Expectation.configuration.phrase ++ " with "
        ++ toString Field.all.length ++ " elements"
  | .tooLong length =>
      "invalid length " ++ toString length
        ++ ", expected fewer elements in array"

def readBool : Json → Except ReadError Bool
  | .bool value => .ok value
  | other => .error (.wrongType other .boolean)

def readWord : Json → Except ReadError Word
  | .natural value => .ok value
  | .negative value => .error (.negative (.negative value))
  | other => .error (.wrongType other .word)

def readModeName (name : String) : Except ReadError Mode :=
  match Mode.ofName? name with
  | some mode => .ok mode
  | none => .error (.unknownMode name)

/-- A mode carries no value, and null stands for that. -/
def readUnit : Json → Except ReadError Unit
  | .null => .ok ()
  | other => .error (.wrongType other .unit)

def readMode : Json → Except ReadError Mode
  | .string name => readModeName name
  | .object members =>
      match Json.sortMembers members with
      | [(name, payload)] => do
          let mode ← readModeName name
          readUnit payload
          pure mode
      | _ => .error .notOneKey
  | other => .error (.wrongType other .mode)

structure Draft where
  countDropped : Option Bool
  collectSizes : Option Bool
  maxDepth : Option Word
  skipCount : Option Word
  mode : Option Mode

namespace Draft

def blank : Draft := ⟨none, none, none, none, none⟩

def set (draft : Draft) (field : Field) (value : Json) :
    Except ReadError Draft :=
  match field with
  | .countDropped => do
      let read ← readBool value
      pure { draft with countDropped := some read }
  | .collectSizes => do
      let read ← readBool value
      pure { draft with collectSizes := some read }
  | .maxDepth => do
      let read ← readWord value
      pure { draft with maxDepth := some read }
  | .skipCount => do
      let read ← readWord value
      pure { draft with skipCount := some read }
  | .mode => do
      let read ← readMode value
      pure { draft with mode := some read }

/-- Read the values of members whose keys are fields; others are passed over. -/
def setMembers (draft : Draft) :
    List (String × Json) → Except ReadError Draft
  | [] => .ok draft
  | (key, value) :: rest =>
      match Field.ofName? key with
      | none => draft.setMembers rest
      | some field => do
          let next ← draft.set field value
          next.setMembers rest

def setFields (draft : Draft) :
    List Field → List Json → Except ReadError Draft
  | field :: fields, value :: values => do
      let next ← draft.set field value
      next.setFields fields values
  | _, _ => .ok draft

/-- A value that is there, or its field as the missing one. -/
def require (field : Field) : Option α → Except ReadError α
  | some value => .ok value
  | none => .error (.missing field)

/-- The configuration with all fields, or the first field that is missing. -/
def complete (draft : Draft) : Except ReadError Configuration := do
  let countDropped ← require .countDropped draft.countDropped
  let collectSizes ← require .collectSizes draft.collectSizes
  let maxDepth ← require .maxDepth draft.maxDepth
  let skipCount ← require .skipCount draft.skipCount
  let mode ← require .mode draft.mode
  pure ⟨countDropped, collectSizes, maxDepth, skipCount, mode⟩

end Draft

def ofJson : Json → Except ReadError Configuration
  | .object members => do
      let draft ← Draft.blank.setMembers (Json.sortMembers members)
      draft.complete
  | .array items => do
      let draft ← Draft.blank.setFields Field.all items
      if items.length < Field.all.length then
        .error (.tooShort items.length)
      else if Field.all.length < items.length then
        .error (.tooLong items.length)
      else
        draft.complete
  | other => .error (.wrongType other .configuration)

end FrameChain.Configuration
