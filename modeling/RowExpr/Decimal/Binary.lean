/-!
# Floats as exact numbers

A finite float is `± coefficient · 2 ^ exponent`. Everything that has to be exact (printing,
reading, remainders) is done on that form with natural numbers.
-/

namespace RowExpr.Decimal

/-- A finite float. -/
structure Binary where
  negative : Bool
  coefficient : Nat
  exponent : Int
  deriving DecidableEq, Repr

/-- What the bits of a float say. -/
inductive FloatValue
  | nan
  | infinite (negative : Bool)
  | finite (value : Binary)
  deriving DecidableEq, Repr

def signBit : Nat := 9223372036854775808

/-- The bit above the fraction. It is not stored; a float that is not too small has it. -/
def hiddenBit : Nat := 4503599627370496

def twoTo (k : Nat) : Nat := Nat.pow 2 k

def tenTo (k : Nat) : Nat := Nat.pow 10 k

def minExponent : Int := -1074

/-- Reads the sign, exponent and fraction fields of a 64-bit pattern. -/
def FloatValue.ofBits (bits : Nat) : FloatValue :=
  let negative := decide (signBit ≤ bits)
  let field : Nat := bits / hiddenBit % 2048
  let fraction : Nat := bits % hiddenBit
  if field = 2047 then
    if fraction = 0 then .infinite negative else .nan
  else if field = 0 then
    .finite ⟨negative, fraction, minExponent⟩
  else
    .finite ⟨negative, hiddenBit + fraction, (field : Int) - 1075⟩

def FloatValue.ofFloat (x : Float) : FloatValue :=
  .ofBits x.toBits.toNat

/-! ## Rounding -/

/-- The quotient to the nearest whole number; a half goes to the even neighbour. -/
def divNearest (num den : Nat) : Nat :=
  let q := num / den
  let r := num % den
  if den < 2 * r ∨ (2 * r = den ∧ q % 2 = 1) then q + 1 else q

/-- `num / (den · 2 ^ exponent)` to the nearest whole number. -/
def scaledQuotient (num den : Nat) (exponent : Int) : Nat :=
  divNearest (num * twoTo (-exponent).toNat) (den * twoTo exponent.toNat)

/-- The exponent at which `num / den` has 53 bits, or the smallest one. -/
def quotientExponent (num den : Nat) : Int :=
  let guess : Int := (num.log2 : Int) - (den.log2 : Int) - 53
  let fits := num * twoTo (-guess).toNat < den * twoTo guess.toNat * (2 * hiddenBit)
  max minExponent (if fits then guess else guess + 1)

/-- The bits of the float nearest to `num / den`, infinite when it is out of range. -/
def nearestBits (num den : Nat) : Nat :=
  if num = 0 then 0
  else
    let exponent := quotientExponent num den
    let bits := (exponent - minExponent).toNat * hiddenBit + scaledQuotient num den exponent
    min bits (2047 * hiddenBit)

def nearestFloat (negative : Bool) (num den : Nat) : Float :=
  let bits := nearestBits num den + (if negative then signBit else 0)
  Float.ofBits (UInt64.ofNat bits)

def floatOfInt (i : Int64) : Float := .ofModel (.ofInt64 i)

/-! ## Whole parts and remainders -/

/-- The exact value without its fraction. -/
def Binary.truncate (b : Binary) : Int :=
  let size := b.coefficient * twoTo b.exponent.toNat / twoTo (-b.exponent).toNat
  if b.negative then -size else size

/-- The remainder of `a / b`, of the sign of `a`; the quotient is cut toward zero. -/
def Binary.remainder (a b : Binary) : Float :=
  let low := min a.exponent b.exponent
  let x := a.coefficient * twoTo (a.exponent - low).toNat
  let y := b.coefficient * twoTo (b.exponent - low).toNat
  nearestFloat a.negative (x % y * twoTo low.toNat) (twoTo (-low).toNat)

/-- The remainder of two floats. A divisor of zero or an infinite dividend has none. -/
def remainder (x y : Float) : Float :=
  match FloatValue.ofFloat x, FloatValue.ofFloat y with
  | .finite a, .finite b => if b.coefficient = 0 then 0.0 / 0.0 else a.remainder b
  | .finite _, .infinite _ => x
  | _, _ => 0.0 / 0.0

end RowExpr.Decimal
