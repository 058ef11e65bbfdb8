import RowExpr.Decimal.Layout

/-!
# Values

What a literal, a cell of a row and a result can be.
-/

namespace RowExpr

/-- The side that a trim takes characters from. -/
inductive TrimFlag
  | both
  | leading
  | trailing
  deriving DecidableEq, Repr, Inhabited

def TrimFlag.keyword : TrimFlag → String
  | both => "BOTH"
  | leading => "LEADING"
  | trailing => "TRAILING"

def TrimFlag.all : List TrimFlag := [both, leading, trailing]

def TrimFlag.ofKeyword? (s : String) : Option TrimFlag :=
  all.find? (·.keyword == s)

theorem TrimFlag.ofKeyword?_keyword (f : TrimFlag) : ofKeyword? f.keyword = some f := by
  cases f <;> decide

theorem TrimFlag.ofKeyword?_eq_some_iff {s : String} {f : TrimFlag} :
    ofKeyword? s = some f ↔ f.keyword = s := by
  constructor
  · intro h
    simpa using List.find?_some h
  · rintro rfl
    exact f.ofKeyword?_keyword

inductive Value
  | null
  | bool (b : Bool)
  | int (i : Int64)
  | float (x : Float)
  | string (s : String)
  | flag (f : TrimFlag)
  deriving DecidableEq, Repr, Inhabited

namespace Value

def isNull : Value → Bool
  | null => true
  | _ => false

def text : Value → String
  | null => "NULL"
  | bool true => "true"
  | bool false => "false"
  | int i => toString i.toInt
  | float x => Decimal.Layout.plain.write x
  | string s => s
  | flag f => f.keyword

/-- Equality of values; a float that is not a number equals none. -/
def same : Value → Value → Bool
  | float x, float y => x == y
  | a, b => decide (a = b)

theorem isNull_iff (v : Value) : v.isNull = true ↔ v = null := by
  cases v <;> simp [isNull]

end Value

end RowExpr
