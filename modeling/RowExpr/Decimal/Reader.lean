import RowExpr.Decimal.Binary

/-!
# Reading floats

A sign, then digits with or without a point and an exponent, or one of the words `inf`,
`infinity` and `nan` in any letter case. The float nearest to the decimal is read.
-/

namespace RowExpr.Decimal

/-- The float nearest to `± n · 10 ^ exponent`, where `n` has at most `count` digits. Exponents
that leave no doubt are cut, so that no power gets too large. -/
def nearestDecimal (negative : Bool) (n count : Nat) (exponent : Int) : Float :=
  let e := max (-(400 + count : Int)) (min 400 exponent)
  nearestFloat negative (n * tenTo e.toNat) (tenTo (-e).toNat)

def natOf (digits : List Char) : Nat :=
  digits.foldl (fun n c => 10 * n + (c.toNat - '0'.toNat)) 0

/-- Digits, of which there has to be one. -/
def exponentDigits? (cs : List Char) : Option Nat :=
  if cs.isEmpty || !cs.all Char.isDigit then none else some (natOf cs)

/-- An exponent with its mark, or nothing. -/
def exponent? : List Char → Option Int
  | [] => some 0
  | mark :: rest =>
    if mark = 'e' ∨ mark = 'E' then
      match rest with
      | '-' :: digits => (exponentDigits? digits).map fun n => -(n : Int)
      | '+' :: digits => (exponentDigits? digits).map fun n => (n : Int)
      | digits => (exponentDigits? digits).map fun n => (n : Int)
    else none

/-- A number without its sign. -/
def readNumber (negative : Bool) (cs : List Char) : Option Float :=
  let whole := cs.takeWhile Char.isDigit
  let (fraction, rest) := match cs.dropWhile Char.isDigit with
    | '.' :: rest => (rest.takeWhile Char.isDigit, rest.dropWhile Char.isDigit)
    | rest => ([], rest)
  let digits := whole ++ fraction
  if digits.isEmpty then none
  else
    (exponent? rest).map fun e =>
      nearestDecimal negative (natOf digits) digits.length (e - fraction.length)

def infinity (negative : Bool) : Float := if negative then -1.0 / 0.0 else 1.0 / 0.0

/-- A float without its sign. -/
def readMagnitude (negative : Bool) (cs : List Char) : Option Float :=
  let word := String.ofList (cs.map Char.toLower)
  if word = "inf" ∨ word = "infinity" then some (infinity negative)
  else if word = "nan" then some (0.0 / 0.0)
  else readNumber negative cs

def readFloat (s : String) : Option Float :=
  match s.toList with
  | '-' :: cs => readMagnitude true cs
  | '+' :: cs => readMagnitude false cs
  | cs => readMagnitude false cs

end RowExpr.Decimal
