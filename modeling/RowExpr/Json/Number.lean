import RowExpr.Decimal.Binary
import RowExpr.Json.Basic

/-!
# Numbers in JSON text

A whole number that fits in 64 bits is an integer. Any other number is a float: as many digits
as fit in 64 bits, scaled by a power of ten. Digits that do not fit count as zeros. The scaling
is done in floats, so the last bit may differ from the nearest float.
-/

namespace RowExpr.Json.Number

def maxWord : Nat := 18446744073709551615

/-- The greatest power of ten that is written out in an exponent. -/
def maxExponent : Nat := 2147483647

def digit (c : Char) : Nat := c.toNat - '0'.toNat

def startsWithDigit : List Char → Bool
  | c :: _ => c.isDigit
  | [] => false

/-- Reads digits onto a number as long as it stays within a limit. Gives the number, how many
digits were read, and what follows them. -/
def takeDigits (limit n : Nat) : List Char → Nat × Nat × List Char
  | [] => (n, 0, [])
  | c :: rest =>
    if c.isDigit ∧ 10 * n + digit c ≤ limit then
      let (m, count, rest) := takeDigits limit (10 * n + digit c) rest
      (m, count + 1, rest)
    else (n, 0, c :: rest)

def wordFloat (n : Nat) : Float := Decimal.nearestFloat false n 1

def powerFloat (k : Nat) : Float := Decimal.nearestFloat false (Decimal.tenTo k) 1

/-- `x / 10 ^ k`, in steps of at most 308 powers, until nothing is left of `x`. -/
def divideByPower : Nat → Float → Nat → Float
  | 0, x, _ => x
  | steps + 1, x, k =>
    if k ≤ 308 then x / powerFloat k
    else if x == 0 then x
    else divideByPower steps (x / powerFloat 308) (k - 308)

/-- `n · 10 ^ exponent`. There is no such float where it would be infinite. -/
def scale? (n : Nat) (exponent : Int) : Option Float :=
  if exponent < 0 then
    let k := (-exponent).toNat
    some (divideByPower (k / 308 + 1) (wordFloat n) k)
  else if exponent ≤ 308 then
    let x := wordFloat n * powerFloat exponent.toNat
    if x.isInf then none else some x
  else if n = 0 then some 0
  else none

/-- A number and what follows it. -/
abbrev Reading := Option (Json × List Char)

def signed (positive : Bool) (x : Float) : Json := .float (if positive then x else -x)

def scaled (positive : Bool) (n : Nat) (exponent : Int) (rest : List Char) : Reading :=
  (scale? n exponent).map fun x => (signed positive x, rest)

def clampExponent (e : Int) : Int := max (-2147483648) (min 2147483647 e)

/-- What follows the mark of an exponent. An exponent that is too large leaves zero of a small
number, and nothing of a large one. -/
def afterMark (positive : Bool) (n : Nat) (exponent : Int) (cs : List Char) : Reading :=
  let (up, digits) := match cs with
    | '+' :: rest => (true, rest)
    | '-' :: rest => (false, rest)
    | _ => (true, cs)
  if !startsWithDigit digits then none
  else
    let (e, _, rest) := takeDigits maxExponent 0 digits
    if startsWithDigit rest then
      if up && n ≠ 0 then none
      else some (signed positive 0, rest.dropWhile Char.isDigit)
    else
      scaled positive n (clampExponent (if up then exponent + e else exponent - e)) rest

/-- An exponent, where there is one. -/
def withExponent (positive : Bool) (n : Nat) (exponent : Int) : List Char → Reading
  | 'e' :: rest | 'E' :: rest => afterMark positive n exponent rest
  | rest => scaled positive n exponent rest

/-- What follows the point. There has to be a digit. -/
def afterPoint (positive : Bool) (n : Nat) (exponent : Int) (cs : List Char) : Reading :=
  let (m, count, rest) := takeDigits maxWord n cs
  if startsWithDigit rest then
    withExponent positive m (exponent - count) (rest.dropWhile Char.isDigit)
  else if count = 0 then none
  else withExponent positive m (exponent - count) rest

/-- A whole number. A minus sign before zero, or before what is below the least 64-bit
integer, makes a float. -/
def whole (positive : Bool) (n : Nat) : Json :=
  if positive then .int n
  else if n ≠ 0 ∧ n ≤ 9223372036854775808 then .int (-(n : Int))
  else .float (-(wordFloat n))

/-- What follows the digits before the point, of which `dropped` did not fit. -/
def afterWhole (positive : Bool) (n dropped : Nat) : List Char → Reading
  | '.' :: rest => afterPoint positive n dropped rest
  | 'e' :: rest | 'E' :: rest => afterMark positive n dropped rest
  | rest => if dropped = 0 then some (whole positive n, rest) else scaled positive n dropped rest

/-- A number without its sign. A zero may not stand before another digit. -/
def magnitude (positive : Bool) : List Char → Reading
  | '0' :: rest => if startsWithDigit rest then none else afterWhole positive 0 0 rest
  | c :: rest =>
    if !c.isDigit then none
    else
      let (n, _, rest) := takeDigits maxWord (digit c) rest
      let more := rest.takeWhile Char.isDigit
      afterWhole positive n more.length (rest.drop more.length)
  | [] => none

def read : List Char → Reading
  | '-' :: rest => magnitude false rest
  | cs => magnitude true cs

end RowExpr.Json.Number
