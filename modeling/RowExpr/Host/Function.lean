import RowExpr.Host.Error
import RowExpr.Text.Case

/-!
# SQL functions on host values

The functions that the standard methods compute. Positions in a string are counted in
characters from one.
-/

namespace RowExpr.Host.Function

def maxPosition : Int := 9223372036854775807

/-- The position behind a window; what would overflow stays at the greatest integer. -/
def windowEnd (start length : Int64) : Int := min maxPosition (start.toInt + length.toInt)

/-- Whether a position lies in a window. A start before one counts as one. -/
def inWindow (start : Int64) (length : Option Int64) (position : Nat) : Bool :=
  max start.toInt 1 ≤ position &&
    match length with
    | none => true
    | some n => position < windowEnd start n

/-- The characters of a window. Positions before one shorten it. -/
def substring (s : String) (start : Int64) (length : Option Int64) :
    Except MethodFailure String :=
  match length with
  | some n =>
    if n < 0 then .error (.negativeLength n)
    else .ok (String.ofList (((s.toList.zipIdx 1).filter (inWindow start length ·.2)).map (·.1)))
  | none =>
    .ok (String.ofList (((s.toList.zipIdx 1).filter (inWindow start none ·.2)).map (·.1)))

/-- Takes one character off the ends that the flag names, as often as it stands there. -/
def trimChar (flag : TrimFlag) (c : Char) (s : List Char) : List Char :=
  match flag with
  | .both => Text.stripBy (· == c) s
  | .leading => s.dropWhile (· == c)
  | .trailing => (s.reverse.dropWhile (· == c)).reverse

/-- The least 64-bit integer has no absolute value. -/
def absInt (i : Int64) : Except MethodFailure Int64 :=
  if i = Int64.minValue then .error .absOverflow else .ok (if i < 0 then -i else i)

def pi : Float := 3.141592653589793

end RowExpr.Host.Function
