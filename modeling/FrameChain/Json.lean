import FrameChain.Decimal.Shortest
import FrameChain.Text.Quoted
/-!
# JSON values

A number is a natural number or a negative integer of 64 bits, or a double.
The members of an object are a list in written order; whoever visits them
does so in the order of their keys, and of two members with one key the later
one counts.
-/

namespace FrameChain

inductive Json where
  | null
  | bool (value : Bool)
  | natural (value : UInt64)
  | negative (value : Int64)
  | float (value : Float)
  | string (text : String)
  | array (items : List Json)
  | object (members : List (String × Json))
deriving Repr

namespace Json

/-- Put a member where its key belongs; it replaces one with the same key. -/
def insertMember (key : String) (value : Json) :
    List (String × Json) → List (String × Json)
  | [] => [(key, value)]
  | (first, held) :: rest =>
      if key < first then (key, value) :: (first, held) :: rest
      else if key = first then (key, value) :: rest
      else (first, held) :: insertMember key value rest

/-- The members by key, each key once, with the value written last. -/
def sortMembers (members : List (String × Json)) : List (String × Json) :=
  members.foldl (fun sorted member => insertMember member.1 member.2 sorted) []

/-- Exponents from -5 to 15 are written positionally. -/
def numberLayout : Decimal.Layout := ⟨-5, 15⟩

/-- How messages name a value that they did not expect. -/
def described : Json → String
  | .null => "null"
  | .bool value => "boolean `" ++ toString value ++ "`"
  | .natural value => "integer `" ++ toString value.toNat ++ "`"
  | .negative value => "integer `" ++ toString value.toInt ++ "`"
  | .float value =>
      "floating point `" ++ Decimal.doubleText numberLayout value ++ "`"
  | .string text => "string " ++ Text.quoted text
  | .array _ => "sequence"
  | .object _ => "map"

def escapeCharacter (character : Char) : String :=
  if character = '"' then "\\\""
  else if character = '\\' then "\\\\"
  else if character = '\n' then "\\n"
  else if character = '\r' then "\\r"
  else if character = '\t' then "\\t"
  else if character = '\x08' then "\\b"
  else if character = '\x0C' then "\\f"
  else if character.toNat < 0x10 then
    "\\u000" ++ Word.hexDigits character.toNat
  else if character.toNat < 0x20 then
    "\\u00" ++ Word.hexDigits character.toNat
  else character.toString

def stringText (text : String) : String :=
  "\"" ++ String.join (text.toList.map escapeCharacter) ++ "\""

mutual

def compact : Json → String
  | .null => "null"
  | .bool value => toString value
  | .natural value => toString value.toNat
  | .negative value => toString value.toInt
  | .float value => Decimal.doubleText numberLayout value
  | .string text => stringText text
  | .array items => "[" ++ ",".intercalate (compactItems items) ++ "]"
  | .object members =>
      "\x7b" ++ ",".intercalate (compactMembers members) ++ "\x7d"

def compactItems : List Json → List String
  | [] => []
  | item :: rest => item.compact :: compactItems rest

def compactMembers : List (String × Json) → List String
  | [] => []
  | (key, value) :: rest =>
      (stringText key ++ ":" ++ value.compact) :: compactMembers rest

end

end Json

end FrameChain
