/-!
# Double precision numbers

A number of an artifact that is not an integer is a double. It is kept as its 64 bits, so that
two numbers are equal exactly when they were written by the same computation; arithmetic is
that of the machine, and the two texts of a number read its exact value off the bits: the
shortest one (`Shortest`), and one with a fixed number of places, in which costs are reported.
-/

namespace NodeLocale

/-- A double precision number, by its bits. -/
structure Binary64 where
  /-- The sign bit, eleven bits of exponent and 52 bits of fraction. -/
  bits : UInt64
deriving DecidableEq, Inhabited

namespace Binary64

/-- The bits of a machine number. -/
def ofFloat (value : Float) : Binary64 := ⟨value.toBits⟩

/-- The machine number with these bits. -/
def toFloat (value : Binary64) : Float := Float.ofBits value.bits

/-- Whether the sign bit is set. -/
def isNegative (value : Binary64) : Bool := value.bits >>> 63 == 1

def exponentField (value : Binary64) : Nat := ((value.bits >>> 52) &&& 0x7ff).toNat

def fractionField (value : Binary64) : Nat := (value.bits &&& 0xfffffffffffff).toNat

/-- The absolute value of a finite number, as `significand` times two to the `exponent`. -/
structure Magnitude where
  /-- An integer below two to the 53. -/
  significand : Nat
  /-- A power of two. -/
  exponent : Int
  /-- Whether the next smaller number is half as far away as the next larger one. -/
  narrowBelow : Bool

/-- The magnitude of a number, where the number is finite. -/
def magnitude? (value : Binary64) : Option Magnitude :=
  let field := value.exponentField
  let fraction := value.fractionField
  if field = 0x7ff then none
  else if field = 0 then some ⟨fraction, -1074, false⟩
  else some ⟨fraction + 0x10000000000000, (field : Int) - 1075, fraction == 0 && 1 < field⟩

/-- Whether a number that is not finite is not a number at all. -/
def isNaN (value : Binary64) : Bool := value.exponentField == 0x7ff && value.fractionField != 0

/-- The sixteen hexadecimal digits of the bits. -/
def hexText (value : Binary64) : String :=
  let digits := Nat.toDigits 16 value.bits.toNat
  String.ofList (List.replicate (16 - digits.length) '0' ++ digits)

/-- A product with a power of two, as a fraction of natural numbers. -/
def Magnitude.fraction (magnitude : Magnitude) : Nat × Nat :=
  if 0 ≤ magnitude.exponent then
    (magnitude.significand * Nat.pow 2 magnitude.exponent.toNat, 1)
  else (magnitude.significand, Nat.pow 2 (-magnitude.exponent).toNat)

/-! ### A fixed number of places -/

/-- The quotient rounded to the nearest integer, ties to even. -/
def roundDiv (num den : Nat) : Nat :=
  let quotient := num / den
  let doubled := 2 * (num % den)
  if doubled < den then quotient
  else if den < doubled then quotient + 1
  else if quotient % 2 = 0 then quotient else quotient + 1

/-- A number with so many places after the point. The exact value is rounded to the nearest multiple
of the last place, and a tie goes to the even neighbour. -/
def fixedText (places : Nat) (value : Binary64) : String :=
  let sign := if value.isNegative then ['-'] else []
  match value.magnitude? with
  | none => if value.isNaN then "NaN" else String.ofList (sign ++ ['i', 'n', 'f'])
  | some magnitude =>
    let (num, den) := magnitude.fraction
    let digits := Nat.toDigits 10 (roundDiv (num * Nat.pow 10 places) den)
    let padded := List.replicate (places + 1 - digits.length) '0' ++ digits
    let whole := padded.length - places
    String.ofList (sign ++ padded.take whole ++ ['.'] ++ padded.drop whole)

end Binary64

end NodeLocale
