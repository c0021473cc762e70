/-!
# Decimal numerals

A numeral is an optional plus sign and one or more ASCII digits.  Its value is
a natural number of any size, so no numeral is too long to be read.
-/

namespace FrameChain.Decimal

def digit? (character : Char) : Option Nat :=
  if '0' ≤ character ∧ character ≤ '9' then
    some (character.toNat - '0'.toNat)
  else
    none

def digitsFrom (value : Nat) : List Char → Option Nat
  | [] => some value
  | character :: rest =>
      match digit? character with
      | none => none
      | some digit => digitsFrom (10 * value + digit) rest

def digits? (characters : List Char) : Option Nat :=
  if characters = [] then none else digitsFrom 0 characters

def natural? : List Char → Option Nat
  | '+' :: rest => digits? rest
  | characters => digits? characters

end FrameChain.Decimal
