import RowExpr.Sql.OrderBy

/-!
# What sort keys mean

An engine sorts rows by one key after another. Putting an indicator before a key does not
change what the keys mean.
-/

namespace RowExpr

/-- A null indicator, by whether its operand is null. -/
def Value.indicator (isNull : Bool) : Value := .int (if isNull then 1 else 0)

/-- An engine that sorts: what a key is on a row, and how values other than null compare. -/
structure Engine (Row : Type) where
  eval : Row → Node → Value
  order : Value → Value → Ordering
  eval_indicator : ∀ (row : Row) (op : Operator) (operands : List Node) (type : SqlType),
    op.id = Catalog.nullIndicator.id →
      eval row (.call op operands type) =
        .indicator (operands.head?.all fun n => (eval row n).isNull)
  order_int : ∀ a b : Int64, order (.int a) (.int b) = compare a.toInt b.toInt

def Direction.apply : Direction → Ordering → Ordering
  | ascending, o => o
  | descending, o => o.swap

/-- How null compares with a value under a key that does not say. -/
def NullCollation.nullOrder (c : NullCollation) (direction : Direction) : Ordering :=
  match c with
  | first => .lt
  | last => .gt
  | low => direction.apply .lt
  | high => direction.apply .gt

def SortKey.nullOrder (k : SortKey) (c : NullCollation) : Ordering :=
  match k.nulls with
  | .first => .lt
  | .last => .gt
  | .unspecified => c.nullOrder k.direction

/-- The keys as an engine reads them: one that cannot say where nulls go reads nothing of it. -/
def Dialect.understood (d : Dialect) (keys : List SortKey) : List SortKey :=
  if d.has .nativeNullsOrdering then keys else keys.map ({ · with nulls := .unspecified })

namespace Engine

variable {Row : Type}

def compareKey (e : Engine Row) (c : NullCollation) (k : SortKey) (r s : Row) : Ordering :=
  let a := e.eval r k.expr
  let b := e.eval s k.expr
  match a.isNull, b.isNull with
  | true, true => .eq
  | true, false => k.nullOrder c
  | false, true => (k.nullOrder c).swap
  | false, false => k.direction.apply (e.order a b)

def compareRows (e : Engine Row) (c : NullCollation) (keys : List SortKey) (r s : Row) :
    Ordering :=
  keys.foldr (fun k o => (e.compareKey c k r s).then o) .eq

variable {e : Engine Row} {c : NullCollation}

theorem compareRows_append (as bs : List SortKey) (r s : Row) :
    e.compareRows c (as ++ bs) r s = (e.compareRows c as r s).then (e.compareRows c bs r s) := by
  induction as with
  | nil => rfl
  | cons k rest ih =>
    simp only [compareRows, List.cons_append, List.foldr_cons] at ih ⊢
    rw [ih, Ordering.then_assoc]

theorem compareRows_singleton (k : SortKey) (r s : Row) :
    e.compareRows c [k] r s = e.compareKey c k r s := by
  simp [compareRows]

/-! ## Keys that are never null -/

theorem isNull_eval_indicator {n : Node} (h : n.isCallTo Catalog.nullIndicator.id = true)
    (row : Row) : (e.eval row n).isNull = false := by
  cases n with
  | call op operands type =>
    rw [e.eval_indicator row op operands type (by simpa [Node.isCallTo] using h)]
    rfl
  | _ => simp [Node.isCallTo] at h

/-- Where an indicator is sorted, nothing that is said of nulls matters. -/
theorem compareKey_indicator {k : SortKey} (h : k.expr.isCallTo Catalog.nullIndicator.id = true)
    (nulls : NullPlacement) (r s : Row) :
    e.compareKey c { k with nulls } r s = e.compareKey c k r s := by
  simp [compareKey, isNull_eval_indicator h]

/-! ## Keys that stand for others -/

/-- A null placement that the collation agrees with need not be said. -/
theorem compareKey_unspecified {k : SortKey}
    (h : k.nullOrder c = c.nullOrder k.direction) (r s : Row) :
    e.compareKey c { k with nulls := .unspecified } r s = e.compareKey c k r s := by
  simp [compareKey, SortKey.nullOrder] at h ⊢
  rw [h]

theorem eval_nullIndicator (row : Row) (n : Node) :
    e.eval row n.nullIndicator = .indicator (e.eval row n).isNull := by
  simp [Node.nullIndicator, e.eval_indicator]

theorem order_indicator (a b : Bool) :
    e.order (.indicator a) (.indicator b) = compare a.toNat b.toNat := by
  cases a <;> cases b <;> simp [Value.indicator, e.order_int] <;> decide

theorem compareKey_nullIndicator (n : Node) (direction : Direction) (r s : Row) :
    e.compareKey c { expr := n.nullIndicator, direction } r s =
      direction.apply (compare (e.eval r n).isNull.toNat (e.eval s n).isNull.toNat) := by
  have hnull : ∀ b, (Value.indicator b).isNull = false := fun _ => rfl
  simp only [compareKey, eval_nullIndicator, hnull, order_indicator]

theorem compareRows_indicator {k : SortKey} {nullsFirst : Bool}
    (h : k.nullOrder c = if nullsFirst then .lt else .gt) (r s : Row) :
    e.compareRows c
        [{ expr := k.expr.nullIndicator,
           direction := if nullsFirst then .descending else .ascending },
         { expr := k.expr, direction := k.direction }] r s =
      e.compareKey c k r s := by
  have hbits : compare 1 0 = .gt ∧ compare 0 1 = .lt := by decide
  simp only [compareRows, List.foldr_cons, List.foldr_nil, compareKey_nullIndicator]
  cases hr : (e.eval r k.expr).isNull <;> cases hs : (e.eval s k.expr).isNull <;>
    cases nullsFirst <;> simp [compareKey, hr, hs, h, hbits, Direction.apply]

/-! ## Dialects -/

theorem nullOrder_of_isDefaultOrder {k : SortKey} {nullsFirst : Bool}
    (hk : k.nullOrder c = if nullsFirst then .lt else .gt)
    (h : c.isDefaultOrder nullsFirst k.isDescending = true) :
    k.nullOrder c = c.nullOrder k.direction := by
  rw [hk]
  cases c <;> cases hd : k.direction <;> cases nullsFirst <;>
    simp [NullCollation.isDefaultOrder, NullCollation.nullsFirst, SortKey.isDescending, hd,
      NullCollation.nullOrder, Direction.apply] at h ⊢

theorem understood_append (d : Dialect) (as bs : List SortKey) :
    d.understood (as ++ bs) = d.understood as ++ d.understood bs := by
  unfold Dialect.understood
  split <;> simp

variable {d : Dialect}

/-- The keys that stand for a key that says where nulls go. -/
theorem compareRows_placed {k : SortKey} (nullsFirst : Bool)
    (hnative : d.has .nativeNullsOrdering = false)
    (hk : k.nulls = if nullsFirst then .first else .last) (r s : Row) :
    e.compareRows d.nullCollation (d.understood (d.sortKey k)) r s =
      e.compareKey d.nullCollation k r s := by
  have horder : k.nullOrder d.nullCollation = if nullsFirst then .lt else .gt := by
    cases nullsFirst <;> simp [SortKey.nullOrder, hk]
  have hsplit : d.splitKey? k =
      (d.nullIndicator? k.expr nullsFirst k.isDescending).map fun indicator =>
        [{ expr := indicator, direction := if nullsFirst then .descending else .ascending },
         { expr := k.expr, direction := k.direction }] := by
    cases nullsFirst <;> simp [Dialect.splitKey?, hk]
  by_cases hindicator : k.expr.isCallTo Catalog.nullIndicator.id = true
  · have hnone : d.splitKey? k = none := by simp [hsplit, Dialect.nullIndicator?, hindicator]
    simp [Dialect.sortKey, hnone, hnative, Dialect.understood, compareRows_singleton,
      compareKey_indicator hindicator]
  by_cases hdefault : d.nullCollation.isDefaultOrder nullsFirst k.isDescending = true
  · have hnone : d.splitKey? k = none := by simp [hsplit, Dialect.nullIndicator?, hdefault]
    have hsame := nullOrder_of_isDefaultOrder horder hdefault
    simp [Dialect.sortKey, hnone, hnative, Dialect.understood, compareRows_singleton,
      compareKey_unspecified hsame]
  · have hsome : d.splitKey? k =
        some [{ expr := k.expr.nullIndicator,
                direction := if nullsFirst then .descending else .ascending },
              { expr := k.expr, direction := k.direction }] := by
      simp [hsplit, Dialect.nullIndicator?, hnative, hindicator, hdefault]
    simpa [Dialect.sortKey, hsome, hnative, Dialect.understood] using
      compareRows_indicator horder r s

theorem compareRows_sortKey (k : SortKey) (r s : Row) :
    e.compareRows d.nullCollation (d.understood (d.sortKey k)) r s =
      e.compareKey d.nullCollation k r s := by
  cases hnative : d.has .nativeNullsOrdering with
  | true =>
    simp [Dialect.sortKey_of_native hnative, Dialect.understood, hnative, compareRows_singleton]
  | false =>
    cases hk : k.nulls with
    | first => exact compareRows_placed true hnative (by simpa using hk) r s
    | last => exact compareRows_placed false hnative (by simpa using hk) r s
    | unspecified =>
      have hsame : { k with nulls := .unspecified } = k := by rw [← hk]
      simp [Dialect.sortKey_of_unspecified d hk, hnative, Dialect.understood, hsame,
        compareRows_singleton]

/-- The keys that a dialect sorts by order rows as the given keys do. -/
theorem compareRows_orderBy (e : Engine Row) (d : Dialect) (keys : List SortKey) (r s : Row) :
    e.compareRows d.nullCollation (d.understood (d.orderBy keys)) r s =
      e.compareRows d.nullCollation keys r s := by
  induction keys with
  | nil => simp [Dialect.orderBy, Dialect.understood]
  | cons k rest ih =>
    have hcons : d.orderBy (k :: rest) = d.sortKey k ++ d.orderBy rest := by
      simp [Dialect.orderBy]
    rw [hcons, understood_append, compareRows_append, compareRows_sortKey, ih]
    rfl

/-! ## Columns -/

def columnValue (row : List Value) : Node → Value
  | .literal v _ => v
  | .input index _ _ => row.getD index.toNat .null
  | .call op [] _ => if op.id = Catalog.nullIndicator.id then .indicator true else .null
  | .call op (n :: _) _ =>
    if op.id = Catalog.nullIndicator.id then .indicator (columnValue row n).isNull else .null

def columns : Engine (List Value) where
  eval := columnValue
  order
    | .int a, .int b => compare a.toInt b.toInt
    | _, _ => .eq
  eval_indicator row op operands type h := by
    cases operands <;> simp [columnValue, h]
  order_int _ _ := rfl

instance : Inhabited (Engine (List Value)) := ⟨columns⟩

/-- A dialect whose nulls are low sorts them last by an indicator. -/
example :
    let key : SortKey := { expr := .column 0 "x" (.orNull .integer), nulls := .last }
    let d : Dialect := { product := .hive, nullCollation := .low }
    (d.orderBy [key]).length = 2 ∧
      columns.compareRows .low (d.understood (d.orderBy [key])) [.null] [.int 1] = .gt := by
  decide

end Engine

end RowExpr
