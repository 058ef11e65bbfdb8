import RowExpr.Sql.Name

/-!
# Trims as regular expressions

For an engine that only trims blanks, other characters are taken off by replacing the matches
of a pattern.
-/

namespace RowExpr.Sql

/-- Characters that a pattern does not take literally. -/
def patternSpecials : List Char :=
  ['\\', '^', '$', '\x7b', '\x7d', '[', ']', '(', ')', '.', '*', '+', '?', '|', '<', '>', '-',
   '&', '%', '@']

def escapePattern (s : List Char) : List Char :=
  s.flatMap fun c => if patternSpecials.contains c then ['\\', c] else [c]

/-- Any number of repetitions. -/
def repeated (s : List Char) : List Char := '(' :: escapePattern s ++ [')', '*']

/-- The pattern of what a trim takes off. -/
def trimPattern (flag : TrimFlag) (s : List Char) : List Char :=
  let leading := '^' :: repeated s
  let trailing := repeated s ++ ['$']
  match flag with
  | .both => leading ++ '|' :: trailing
  | .leading => leading
  | .trailing => trailing

/-- The function that trims on one side; both sides are trimmed by `name`. -/
def trimFunction (name : String) : TrimFlag → String
  | .both => name
  | .leading => "LTRIM"
  | .trailing => "RTRIM"

/-- The side that a flag operand names. What is no flag stands for both. -/
def flagOf (flag : Node) : TrimFlag :=
  match flag.value? with
  | some (.flag f) => f
  | _ => .both

/-- The characters of an operand that is a string literal. -/
def charsOf? (chars : Node) : Option (List Char) :=
  match chars.value? with
  | some (.string s) => some s.toList
  | _ => none

end RowExpr.Sql
