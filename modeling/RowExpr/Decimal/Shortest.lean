import RowExpr.Decimal.Binary

/-!
# The shortest decimal of a float

The decimals that read back as a float fill an interval around it. `shortest` takes the
coarsest power of ten that has a multiple in that interval, and the multiple nearest to
the float.
-/

namespace RowExpr.Decimal

/-- `digits · 10 ^ exponent`. -/
structure Digits where
  digits : Nat
  exponent : Int
  deriving DecidableEq, Repr

/-- Which neighbour a value halfway between two decimals takes. -/
inductive Tie
  | up
  | even
  deriving DecidableEq, Repr

/-- A float and the ends of its interval, as fractions of one denominator. -/
structure Interval where
  low : Nat
  value : Nat
  high : Nat
  den : Nat
  /-- Whether the ends belong to it. -/
  closed : Bool
  deriving DecidableEq, Repr

/-- The numbers nearer to this float than to any other. Below a power of two the
neighbour is only half as far away. -/
def Binary.interval (b : Binary) : Interval :=
  let unit := twoTo (b.exponent - 2).toNat
  let value := 4 * b.coefficient * unit
  let below := if b.coefficient = hiddenBit ∧ minExponent < b.exponent then unit else 2 * unit
  { low := value - below
    value := value
    high := value + 2 * unit
    den := twoTo (2 - b.exponent).toNat
    closed := b.coefficient % 2 = 0 }

/-- Whether `n · 10 ^ k` lies in the interval. -/
def Interval.holds (i : Interval) (n : Nat) (k : Int) : Bool :=
  let x := n * tenTo k.toNat * i.den
  let scale := tenTo (-k).toNat
  if i.closed then i.low * scale ≤ x ∧ x ≤ i.high * scale
  else i.low * scale < x ∧ x < i.high * scale

/-- The greatest multiple of `10 ^ k` that is at most the value, counted in steps. -/
def Interval.floor (i : Interval) (k : Int) : Nat :=
  i.value * tenTo (-k).toNat / (i.den * tenTo k.toNat)

/-- Whether the step above `n` is the one to take: nearer to the value, or as near and
preferred. -/
def Interval.prefersNext (i : Interval) (tie : Tie) (n : Nat) (k : Int) : Bool :=
  let twice := 2 * i.value * tenTo (-k).toNat
  let middle := (2 * n + 1) * i.den * tenTo k.toNat
  if twice = middle then
    match tie with
    | .up => true
    | .even => n % 2 = 1
  else middle < twice

/-- The multiple of `10 ^ k` in the interval that is nearest to the value. -/
def Interval.onGrid? (i : Interval) (tie : Tie) (k : Int) : Option Digits :=
  let n := i.floor k
  match i.holds n k, i.holds (n + 1) k with
  | true, true => some ⟨if i.prefersNext tie n k then n + 1 else n, k⟩
  | true, false => some ⟨n, k⟩
  | false, true => some ⟨n + 1, k⟩
  | false, false => none

/-- The number of places before the point: the value is below `10 ^ places`. -/
def Interval.places (i : Interval) : Int :=
  let guess : Int := ((i.value.log2 : Int) - (i.den.log2 : Int)) * 1233 / 4096
  let below (p : Int) : Bool := i.value * tenTo (-p).toNat < i.den * tenTo p.toNat
  (([-1, 0, 1, 2].map (guess + ·)).find? below).getD (guess + 3)

def Digits.trimZeros (d : Digits) : Nat → Digits
  | 0 => d
  | fuel + 1 =>
    if d.digits ≠ 0 ∧ d.digits % 10 = 0 then
      Digits.trimZeros ⟨d.digits / 10, d.exponent + 1⟩ fuel
    else d

/-- The shortest decimal that reads back as this float, without its sign. Seventeen digits
are always enough. -/
def Binary.shortest (tie : Tie) (b : Binary) : Digits :=
  if b.coefficient = 0 then ⟨0, 0⟩
  else
    let i := b.interval
    let places := i.places
    let grids := (List.range 17).map fun (n : Nat) => places - (n + 1)
    ((grids.findSome? (i.onGrid? tie)).getD ⟨0, 0⟩).trimZeros 20

end RowExpr.Decimal
