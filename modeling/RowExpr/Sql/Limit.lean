import RowExpr.Sql.Render

/-!
# Row limits in SQL

Rows are limited by an offset and a count, each of which may be absent.
-/

namespace RowExpr.Sql

/-- The count that stands for no limit where an offset needs one: the largest that is taken. -/
def unlimitedRows : String := "18446744073709551615"

def limitClause (style : LimitStyle) : Option String → Option String → Option String
  | none, none => none
  | none, some n => some ("LIMIT " ++ n)
  | some o, some n =>
    match style with
    | .limitComma => some ("LIMIT " ++ o ++ ", " ++ n)
    | .limitOffset => some ("LIMIT " ++ n ++ " OFFSET " ++ o)
  | some o, none =>
    match style with
    | .limitComma => some ("LIMIT " ++ o ++ ", " ++ unlimitedRows)
    | .limitOffset => some ("OFFSET " ++ o)

/-- `OFFSET … ROWS FETCH NEXT … ROWS ONLY`, or the half of it that is asked for. -/
def fetchClause : Option String → Option String → Option String
  | none, none => none
  | some o, none => some ("OFFSET " ++ o ++ " ROWS")
  | none, some n => some ("FETCH NEXT " ++ n ++ " ROWS ONLY")
  | some o, some n => some ("OFFSET " ++ o ++ " ROWS FETCH NEXT " ++ n ++ " ROWS ONLY")

/-- The clause of a dialect that has no `OFFSET … FETCH`. -/
def emulatedLimit? (d : Dialect) (offset limit : Option Node) : Option String :=
  if d.has .nativeOffsetFetch then none
  else limitClause d.limitStyle (offset.map (text d ·)) (limit.map (text d ·))

/-- The clause that limits rows; there is none when nothing is asked for. -/
def limitText? (d : Dialect) (offset limit : Option Node) : Option String :=
  if d.has .nativeOffsetFetch then fetchClause (offset.map (text d ·)) (limit.map (text d ·))
  else emulatedLimit? d offset limit

end RowExpr.Sql
