import RowExpr.Sql.Render

/-!
# Sort keys in SQL

An engine that cannot say where nulls go sorts by a null indicator first. The keys that come
out need no more such help.
-/

namespace RowExpr

/-- One where `n` is null, zero elsewhere. -/
def Node.nullIndicator (n : Node) : Node :=
  .call Catalog.nullIndicator [n] (Catalog.nullIndicator.returns.infer [n.type])

namespace Dialect

/-- The indicator that puts the nulls of a key at the wanted end, where one is needed. -/
def nullIndicator? (d : Dialect) (key : Node) (nullsFirst descending : Bool) : Option Node :=
  if d.has .nativeNullsOrdering || key.isCallTo Catalog.nullIndicator.id
      || d.nullCollation.isDefaultOrder nullsFirst descending then none
  else some key.nullIndicator

/-- A key as an indicator and the key itself, where nulls need one. -/
def splitKey? (d : Dialect) (key : SortKey) : Option (List SortKey) :=
  let split (nullsFirst : Bool) : Option (List SortKey) :=
    (d.nullIndicator? key.expr nullsFirst key.isDescending).map fun indicator =>
      [{ expr := indicator, direction := if nullsFirst then .descending else .ascending },
       { expr := key.expr, direction := key.direction }]
  match key.nulls with
  | .first => split true
  | .last => split false
  | .unspecified => none

/-- The keys that stand for one key. Where nulls already go to the wanted end, an engine
that cannot say so is told nothing. -/
def sortKey (d : Dialect) (key : SortKey) : List SortKey :=
  match d.splitKey? key with
  | some keys => keys
  | none => [if d.has .nativeNullsOrdering then key else { key with nulls := .unspecified }]

/-- The keys that sort in this dialect as the given ones ask for. -/
def orderBy (d : Dialect) (keys : List SortKey) : List SortKey := keys.flatMap d.sortKey

theorem sortKey_of_native {d : Dialect} (hnative : d.has .nativeNullsOrdering = true)
    (k : SortKey) : d.sortKey k = [k] := by
  have hwhole : d.splitKey? k = none := by
    cases hk : k.nulls <;> simp [splitKey?, nullIndicator?, hk, hnative]
  simp [sortKey, hwhole, hnative]

theorem sortKey_of_unspecified (d : Dialect) {k : SortKey} (h : k.nulls = .unspecified) :
    d.sortKey k = [k] := by
  have hsame : { k with nulls := .unspecified } = k := by rw [← h]
  simp [sortKey, splitKey?, h, hsame]

theorem orderBy_append (d : Dialect) (as bs : List SortKey) :
    d.orderBy (as ++ bs) = d.orderBy as ++ d.orderBy bs := by
  simp [orderBy]

end Dialect

namespace Sql

def keySteps (d : Dialect) (key : SortKey) : List Step :=
  render d key.expr 0 0
    ++ (if key.isDescending then [.word "DESC"] else [])
    ++ match key.nulls with
      | .first => [.word "NULLS FIRST"]
      | .last => [.word "NULLS LAST"]
      | .unspecified => []

def keyText (d : Dialect) (key : SortKey) : String := layout (keySteps d key)

/-- The clause for sort keys, empty when there are none. -/
def orderByText (d : Dialect) (keys : List SortKey) : String :=
  match d.orderBy keys with
  | [] => ""
  | keys => "ORDER BY " ++ ", ".intercalate (keys.map (keyText d))

end Sql

end RowExpr
