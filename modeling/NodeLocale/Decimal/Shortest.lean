import NodeLocale.Decimal.Binary64

/-!
# The shortest text of a number

A number is written with the fewest decimal digits that read back as the same number, and of
several such texts with the one nearest to it. A decimal reads back as a number when it lies in
the interval of the reals that round to the number, and if any decimal of a given number of
digits does, then so does one of the two neighbours of the number on the grid of that many
digits. It is therefore enough to test two decimals for each count of digits.
-/

namespace NodeLocale.Binary64

/-- A decimal: the integer `digits` times ten to the `exponent`. -/
structure Decimal where
  /-- The digits, read as an integer. -/
  digits : Nat
  /-- A power of ten. -/
  exponent : Int

/-- The least `count`, starting from a guess, with `den ≤ num * 10 ^ count`. -/
def scaleUp (num den : Nat) : Nat → Nat → Nat
  | 0, count => count
  | fuel + 1, count =>
    if den ≤ num * 10 ^ count then count else scaleUp num den fuel (count + 1)

/-- The power of ten of the leading digit of the positive fraction `num / den`. -/
def leadingExponent (num den : Nat) : Int :=
  if den ≤ num then ((Nat.toDigits 10 (num / den)).length : Int) - 1
  else -(scaleUp num den 400 1 : Int)

/-- The nearest decimal with the given exponent in the interval around a magnitude. -/
def nearestOnGrid? (magnitude : Magnitude) (exponent : Int) : Option Decimal :=
  let quarters := Magnitude.mk (4 * magnitude.significand) (magnitude.exponent - 2) false
  let (num, den) := quarters.fraction
  -- One unit of `step` is a quarter of the distance to the next larger number.
  let step := num / quarters.significand
  let belowReach := if magnitude.narrowBelow then step else 2 * step
  let gridNum := if 0 ≤ exponent then Nat.pow 10 exponent.toNat else 1
  let gridDen := if 0 ≤ exponent then 1 else Nat.pow 10 (-exponent).toNat
  -- All of the following are multiples of `1 / (den * gridDen)`.
  let value := num * gridDen
  let unit := gridNum * den
  let low := value - belowReach * gridDen
  let high := value + 2 * step * gridDen
  let closed := magnitude.significand % 2 == 0
  let inside (candidate : Nat) : Bool :=
    if closed then low ≤ candidate * unit && candidate * unit ≤ high
    else low < candidate * unit && candidate * unit < high
  let below := value / unit
  let above := below + 1
  let toBelow := value - below * unit
  let toAbove := above * unit - value
  match inside below, inside above with
  | true, true =>
    if toBelow < toAbove || (toBelow == toAbove && below % 2 == 0) then
      some ⟨below, exponent⟩
    else some ⟨above, exponent⟩
  | true, false => some ⟨below, exponent⟩
  | false, true => some ⟨above, exponent⟩
  | false, false => none

/-- Tries the grids of more and more digits. -/
def searchGrids (magnitude : Magnitude) (exponent : Int) : Nat → Option Decimal
  | 0 => none
  | fuel + 1 =>
    match nearestOnGrid? magnitude exponent with
    | some decimal => some decimal
    | none => searchGrids magnitude (exponent - 1) fuel

/-- Drops trailing zeros of the digits of a decimal. -/
def Decimal.strip : Nat → Decimal → Decimal
  | 0, decimal => decimal
  | fuel + 1, decimal =>
    if decimal.digits != 0 && decimal.digits % 10 == 0 then
      strip fuel ⟨decimal.digits / 10, decimal.exponent + 1⟩
    else decimal

/-- The shortest decimal that reads back as a positive magnitude. -/
def Magnitude.shortest (magnitude : Magnitude) : Decimal :=
  let (num, den) := magnitude.fraction
  match searchGrids magnitude (leadingExponent num den) 18 with
  | some decimal => decimal.strip 20
  | none => ⟨magnitude.significand, 0⟩

/-- How decimals are laid out: which exponents of the leading digit are written positionally. -/
structure Layout where
  /-- The least exponent of a positional text. -/
  lowest : Int
  /-- The largest exponent of a positional text. -/
  highest : Int

/-- Numbers from one hundred-thousandth up to ten to the sixteenth are written positionally. -/
def artifactLayout : Layout := ⟨-5, 15⟩

/-- Lays out a decimal. Whole numbers keep a zero after the point. -/
def Decimal.text (layout : Layout) (decimal : Decimal) : List Char :=
  let digits := Nat.toDigits 10 decimal.digits
  let leading := decimal.exponent + (digits.length : Int) - 1
  if leading < layout.lowest || layout.highest < leading then
    let mantissa := match digits with
      | first :: second :: rest => first :: '.' :: second :: rest
      | short => short
    let sign := if leading < 0 then '-' else '+'
    mantissa ++ ['e', sign] ++ Nat.toDigits 10 leading.natAbs
  else if 0 ≤ decimal.exponent then
    digits ++ List.replicate decimal.exponent.toNat '0' ++ ['.', '0']
  else if leading < 0 then
    ['0', '.'] ++ List.replicate ((-leading).toNat - 1) '0' ++ digits
  else
    let whole := leading.toNat + 1
    digits.take whole ++ ['.'] ++ digits.drop whole

/-- The shortest text of a number. Numbers that are not finite have none in an artifact. -/
def shortestText (value : Binary64) : String :=
  let sign := if value.isNegative then ['-'] else []
  match value.magnitude? with
  | none => "null"
  | some magnitude =>
    if magnitude.significand = 0 then String.ofList (sign ++ ['0', '.', '0'])
    else String.ofList (sign ++ magnitude.shortest.text artifactLayout)

end NodeLocale.Binary64
