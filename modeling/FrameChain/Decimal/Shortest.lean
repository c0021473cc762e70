/-!
# Shortest decimals of binary fractions

A finite binary fraction has many decimals that read back as it.  The one
chosen here has the fewest digits, and of those it is the nearest.  The value
and the interval of numbers that round to it are compared with the points of
a decimal grid in exact arithmetic; if a grid has a point in the interval,
one of the two neighbours of the value is such a point, so only these two are
tried on each grid.
-/

namespace FrameChain.Decimal

/-- A positive number `mantissa * 2 ^ exponent`, with the distances to the
ends of its rounding interval, all in one unit. -/
structure BinaryFraction where
  mantissa : Nat
  below : Nat
  above : Nat
  exponent : Int
  closed : Bool

/-- The fraction that the bits of a positive double stand for.  The unit is a
quarter of the last place, so that both distances are whole. -/
def BinaryFraction.ofBits (bits : Nat) : BinaryFraction :=
  let fraction : Nat := bits % Nat.pow 2 52
  let biased : Nat := bits / Nat.pow 2 52 % Nat.pow 2 11
  let mantissa := if biased = 0 then fraction else fraction + Nat.pow 2 52
  let exponent : Int := if biased = 0 then -1074 else (biased : Int) - 1075
  { mantissa := 4 * mantissa
    below := if fraction = 0 ∧ 1 < biased then 1 else 2
    above := 2
    exponent := exponent - 2
    closed := decide (mantissa % 2 = 0) }

/-- The factor that a power with a non-negative exponent contributes. -/
def factor (base : Nat) (exponent : Int) : Nat :=
  Nat.pow base exponent.toNat

namespace BinaryFraction

/-- A multiple of the unit, scaled so that it compares with a scaled point of
the grid of a decimal exponent. -/
def scaled (number : BinaryFraction) (scale : Int) (multiple : Nat) : Nat :=
  multiple * factor 2 number.exponent * factor 10 (-scale)

/-- A point of the grid of a decimal exponent, scaled likewise. -/
def scaledPoint (number : BinaryFraction) (scale : Int) (point : Nat) : Nat :=
  point * factor 10 scale * factor 2 (-number.exponent)

/-- A grid point that reads back as the number. -/
def Contains (number : BinaryFraction) (scale : Int) (point : Nat) : Prop :=
  let low := number.scaled scale (number.mantissa - number.below)
  let high := number.scaled scale (number.mantissa + number.above)
  let here := number.scaledPoint scale point
  if number.closed then low ≤ here ∧ here ≤ high else low < here ∧ here < high

instance (number : BinaryFraction) (scale : Int) (point : Nat) :
    Decidable (number.Contains scale point) := by
  unfold Contains
  infer_instance

/-- The largest grid point that is not above the number. -/
def floorPoint (number : BinaryFraction) (scale : Int) : Nat :=
  number.scaled scale number.mantissa / number.scaledPoint scale 1

/-- The neighbour of the number on a grid that reads back as it, the nearer
one if both do; of two equally near ones the even one. -/
def pointOn? (number : BinaryFraction) (scale : Int) : Option Nat :=
  let lower := number.floorPoint scale
  let upper := lower + 1
  let value := number.scaled scale number.mantissa
  let lowerGap := value - number.scaledPoint scale lower
  let upperGap := number.scaledPoint scale upper - value
  let lowerFits := decide (0 < lower ∧ number.Contains scale lower)
  let upperFits := decide (number.Contains scale upper)
  if lowerFits ∧ upperFits then
    if lowerGap < upperGap ∨ (lowerGap = upperGap ∧ lower % 2 = 0) then
      some lower
    else
      some upper
  else if lowerFits then some lower
  else if upperFits then some upper
  else none

/-- The first grid point found, from a coarse grid to ever finer ones, with
the exponent of its grid. -/
def shortestFrom (number : BinaryFraction) (scale : Int) : Nat → Nat × Int
  | 0 => (number.floorPoint scale, scale)
  | finer + 1 =>
      match number.pointOn? scale with
      | some point => (point, scale)
      | none => shortestFrom number (scale - 1) finer

/-- Every double is below this power of ten. -/
def coarsest : Int := 310

/-- The grids between the coarsest and one that separates all doubles. -/
def gridCount : Nat := 660

/-- The fewest digits that read back, and the exponent of the last one. -/
def shortest (number : BinaryFraction) : Nat × Int :=
  shortestFrom number coarsest gridCount

end BinaryFraction

structure Layout where
  /-- The least exponent of the first digit that is written positionally. -/
  least : Int
  greatest : Int

/-- Digits with the exponent of the first one, in positional notation.  A
fraction part is always written. -/
def positional (digits : List Char) (leading : Int) : List Char :=
  if leading < 0 then
    ['0', '.'] ++ List.replicate (-leading - 1).toNat '0' ++ digits
  else
    let whole := leading.toNat + 1
    let padded := digits ++ List.replicate (whole - digits.length) '0'
    let fraction := padded.drop whole
    padded.take whole ++ ['.'] ++ if fraction = [] then ['0'] else fraction

/-- Digits with the exponent of the first one, in scientific notation.  The
exponent has a sign always. -/
def scientific (digits : List Char) (leading : Int) : List Char :=
  let exponent :=
    (if leading < 0 then '-' else '+') :: Nat.toDigits 10 leading.natAbs
  match digits with
  | [] => 'e' :: exponent
  | [single] => single :: 'e' :: exponent
  | first :: rest => first :: '.' :: rest ++ 'e' :: exponent

def positiveText (layout : Layout) (bits : Nat) : List Char :=
  let (point, scale) := (BinaryFraction.ofBits bits).shortest
  let digits := Nat.toDigits 10 point
  let leading := scale + (digits.length : Int) - 1
  if layout.least ≤ leading ∧ leading ≤ layout.greatest then
    positional digits leading
  else
    scientific digits leading

/-- The shortest decimal of a finite double; both zeros keep their sign. -/
def doubleText (layout : Layout) (value : Float) : String :=
  let bits := value.toBits.toNat
  let magnitude := bits % Nat.pow 2 63
  let body :=
    if magnitude = 0 then ['0', '.', '0'] else positiveText layout magnitude
  String.ofList (if Nat.pow 2 63 ≤ bits then '-' :: body else body)

end FrameChain.Decimal
