import RowExpr.Decimal.Shortest

/-!
# Writing floats

A `Layout` says how the shortest digits of a float are set out. The program has three:
one for SQL text, one for messages, one for JSON.
-/

namespace RowExpr.Decimal

structure Layout where
  /-- The places before the point, counted below zero for leading zeros, for which the
  number is written without an exponent. -/
  positional : Int → Bool
  /-- Whether a whole number keeps `.0`. -/
  keepsPoint : Bool
  /-- Whether an exponent above zero has a sign. -/
  signsExponent : Bool
  tie : Tie
  nan : String
  infinity : String

/-- SQL text: an exponent from `1e16` on and below `0.0001`. -/
def Layout.sql : Layout :=
  { positional := fun places => -3 ≤ places ∧ places ≤ 16
    keepsPoint := true
    signsExponent := false
    tie := .up
    nan := "NaN"
    infinity := "inf" }

/-- Messages: never an exponent, and no `.0`. -/
def Layout.plain : Layout :=
  { positional := fun _ => true
    keepsPoint := false
    signsExponent := false
    tie := .up
    nan := "NaN"
    infinity := "inf" }

/-- JSON numbers: an exponent from `1e+16` on and below `0.00001`. A number that JSON cannot
hold is null. -/
def Layout.json : Layout :=
  { positional := fun places => -4 ≤ places ∧ places ≤ 16
    keepsPoint := true
    signsExponent := true
    tie := .even
    nan := "null"
    infinity := "null" }

def zeros (n : Nat) : List Char := List.replicate n '0'

/-- The digits set out around a point, `places` of them before it. -/
def positionalText (keepsPoint : Bool) (digits : List Char) (places : Int) : List Char :=
  if places ≤ 0 then
    '0' :: '.' :: (zeros (-places).toNat ++ digits)
  else if digits.length ≤ places.toNat then
    digits ++ zeros (places.toNat - digits.length) ++ (if keepsPoint then ['.', '0'] else [])
  else
    digits.take places.toNat ++ '.' :: digits.drop places.toNat

/-- One digit, the others behind the point, and the power of ten. -/
def exponentText (signed : Bool) (digits : List Char) (places : Int) : List Char :=
  let head := match digits with
    | [] => []
    | [d] => [d]
    | d :: rest => d :: '.' :: rest
  let sign := if signed && 1 < places then ['+'] else []
  head ++ 'e' :: (sign ++ (toString (places - 1)).toList)

/-- A finite float without its sign. -/
def Layout.magnitude (layout : Layout) (b : Binary) : List Char :=
  if b.coefficient = 0 then
    if layout.keepsPoint then ['0', '.', '0'] else ['0']
  else
    let d := b.shortest layout.tie
    let digits := Nat.toDigits 10 d.digits
    let places : Int := digits.length + d.exponent
    if layout.positional places then positionalText layout.keepsPoint digits places
    else exponentText layout.signsExponent digits places

def Layout.write (layout : Layout) (x : Float) : String :=
  match FloatValue.ofFloat x with
  | .nan => layout.nan
  | .infinite false => layout.infinity
  | .infinite true => if layout.infinity = "null" then "null" else "-" ++ layout.infinity
  | .finite b =>
    let digits := layout.magnitude b
    String.ofList (if b.negative then '-' :: digits else digits)

end RowExpr.Decimal
