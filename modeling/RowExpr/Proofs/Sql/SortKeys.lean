import Mathlib.Data.List.Forall2
import RowExpr.Dialect.Profile
import RowExpr.Sql.OrderBy

/-!
# Sort keys in one pass

The keys that a dialect sorts by say where nulls go only where the dialect can. Such keys stay
as they are, so nothing is left to a second pass.
-/

namespace RowExpr

/-- Keys that stand for one key: the same expression in the same direction, and in front of it
at most one null indicator of that expression. -/
inductive SortKey.SplitInto (k : SortKey) : List SortKey → Prop
  | whole (nulls : NullPlacement) : k.SplitInto [{ k with nulls }]
  | indicated {indicator : SortKey} (nulls : NullPlacement) :
    Node.infer Catalog.nullIndicator [k.expr] = .ok indicator.expr →
      k.SplitInto [indicator, { k with nulls }]

theorem Node.infer_nullIndicator (n : Node) :
    Node.infer Catalog.nullIndicator [n] = .ok n.nullIndicator := rfl

/-- The text of a key that says nothing of nulls. -/
def Sql.directedText (d : Dialect) (k : SortKey) : String :=
  layout (render d k.expr 0 0 ++ if k.isDescending then [.word "DESC"] else [])

theorem Sql.keyText_of_unspecified (d : Dialect) {k : SortKey} (h : k.nulls = .unspecified) :
    keyText d k = directedText d k := by
  simp only [keyText, keySteps, directedText, h, List.append_nil]

namespace Dialect

variable {d : Dialect}

/-! ## One key -/

theorem sortKey_cases (hnative : d.has .nativeNullsOrdering = false) (k : SortKey) :
    d.sortKey k = [{ k with nulls := .unspecified }] ∨
      ∃ direction, d.sortKey k =
        [{ expr := k.expr.nullIndicator, direction }, { k with nulls := .unspecified }] := by
  cases hsplit : d.splitKey? k with
  | none =>
    left
    simp [sortKey, hsplit, hnative]
  | some keys =>
    right
    have hsplitAt : ∀ nullsFirst direction,
        (d.nullIndicator? k.expr nullsFirst k.isDescending).map (fun indicator =>
          [{ expr := indicator, direction },
           { expr := k.expr, direction := k.direction : SortKey }]) = some keys →
        keys = [{ expr := k.expr.nullIndicator, direction }, { k with nulls := .unspecified }] := by
      intro nullsFirst direction h
      obtain ⟨indicator, hindicator, rfl⟩ := Option.map_eq_some_iff.1 h
      unfold nullIndicator? at hindicator
      split at hindicator
      · cases hindicator
      · cases hindicator
        rfl
    simp only [sortKey, hsplit]
    cases hk : k.nulls with
    | first => exact ⟨_, hsplitAt true _ (by simpa [splitKey?, hk] using hsplit)⟩
    | last => exact ⟨_, hsplitAt false _ (by simpa [splitKey?, hk] using hsplit)⟩
    | unspecified => simp [splitKey?, hk] at hsplit

theorem splitInto_sortKey (d : Dialect) (k : SortKey) : k.SplitInto (d.sortKey k) := by
  cases hnative : d.has .nativeNullsOrdering with
  | true =>
    rw [sortKey_of_native hnative]
    exact .whole k.nulls
  | false =>
    rcases sortKey_cases hnative k with h | ⟨direction, h⟩
    · rw [h]
      exact .whole _
    · rw [h]
      exact .indicated _ (Node.infer_nullIndicator _)

theorem nulls_of_mem_sortKey (hnative : d.has .nativeNullsOrdering = false) {k k' : SortKey}
    (h : k' ∈ d.sortKey k) : k'.nulls = .unspecified := by
  rcases sortKey_cases hnative k with hk | ⟨direction, hk⟩
  · rw [hk, List.mem_singleton] at h
    rw [h]
  · rw [hk, List.mem_cons, List.mem_singleton] at h
    rcases h with rfl | rfl <;> rfl

/-! ## Lists of keys -/

theorem orderBy_eq_self {keys : List SortKey} (h : ∀ k ∈ keys, d.sortKey k = [k]) :
    d.orderBy keys = keys := by
  induction keys with
  | nil => rfl
  | cons k rest ih =>
    rw [List.forall_mem_cons] at h
    rw [orderBy, List.flatMap_cons, h.1, ← orderBy, ih h.2]
    rfl

theorem orderBy_of_native (hnative : d.has .nativeNullsOrdering = true) (keys : List SortKey) :
    d.orderBy keys = keys :=
  orderBy_eq_self fun k _ => sortKey_of_native hnative k

theorem nulls_of_mem_orderBy (hnative : d.has .nativeNullsOrdering = false)
    {keys : List SortKey} : ∀ k ∈ d.orderBy keys, k.nulls = .unspecified := by
  intro k hk
  obtain ⟨k₀, -, hk⟩ := List.mem_flatMap.1 hk
  exact nulls_of_mem_sortKey hnative hk

theorem forall₂_splitInto (d : Dialect) (keys : List SortKey) :
    List.Forall₂ SortKey.SplitInto keys (keys.map d.sortKey) := by
  rw [List.forall₂_map_right_iff, List.forall₂_same]
  exact fun k _ => splitInto_sortKey d k

theorem orderByText_of_unspecified {keys : List SortKey}
    (h : ∀ k ∈ d.orderBy keys, k.nulls = .unspecified) (hkeys : d.orderBy keys ≠ []) :
    Sql.orderByText d keys =
      "ORDER BY " ++ ", ".intercalate ((d.orderBy keys).map (Sql.directedText d)) := by
  have htexts : (d.orderBy keys).map (Sql.keyText d) =
      (d.orderBy keys).map (Sql.directedText d) :=
    List.map_congr_left fun k hk => Sql.keyText_of_unspecified d (h k hk)
  rw [← htexts]
  unfold Sql.orderByText
  split
  · next hnil => exact absurd hnil hkeys
  · rfl

/-- The keys that a dialect sorts by need no second pass. They are the given keys in their order
and directions, each behind at most one null indicator. A dialect that can say where nulls go
takes the keys as they are; for any other, no key says it, and neither does the clause. -/
theorem orderBy_normal (d : Dialect) (keys : List SortKey) :
    d.orderBy (d.orderBy keys) = d.orderBy keys ∧
      (∃ groups, List.Forall₂ SortKey.SplitInto keys groups ∧ d.orderBy keys = groups.flatten) ∧
      (d.has .nativeNullsOrdering = true → d.orderBy keys = keys) ∧
      (d.has .nativeNullsOrdering = false →
        (∀ k ∈ d.orderBy keys, k.nulls = .unspecified) ∧
          (d.orderBy keys ≠ [] → Sql.orderByText d keys =
            "ORDER BY " ++ ", ".intercalate ((d.orderBy keys).map (Sql.directedText d)))) := by
  refine ⟨?_, ⟨_, forall₂_splitInto d keys, List.flatMap_def⟩, fun h => orderBy_of_native h keys,
    fun h => ⟨nulls_of_mem_orderBy h, orderByText_of_unspecified (nulls_of_mem_orderBy h)⟩⟩
  cases hnative : d.has .nativeNullsOrdering with
  | true => exact orderBy_of_native hnative _
  | false =>
    exact orderBy_eq_self fun k hk => sortKey_of_unspecified d (nulls_of_mem_orderBy hnative k hk)

namespace Seats

def price : Node := .column 0 "price" (.orNull .integer)

def row : Node := .column 1 "row" (.orNull .varchar)

/-- The second key asks for what an engine does anyway that puts nulls lowest. -/
def keys : List SortKey := [{ expr := price, nulls := .last }, { expr := row, nulls := .first }]

theorem orderBy_keys : (mySql none).orderBy keys =
    [{ expr := price.nullIndicator }, { expr := price }, { expr := row }] := rfl

theorem orderBy_normal_of_keys :
    ((mySql none).has .nativeNullsOrdering = false ∧ (mySql none).orderBy keys ≠ [] ∧
      ansi.has .nativeNullsOrdering = true) ∧
    (∀ k ∈ (mySql none).orderBy keys, k.nulls = .unspecified) ∧
      Sql.orderByText (mySql none) keys = "ORDER BY " ++
        ", ".intercalate (((mySql none).orderBy keys).map (Sql.directedText (mySql none))) ∧
      ansi.orderBy keys = keys := by
  have hkeys : (mySql none).orderBy keys ≠ [] := by
    rw [orderBy_keys]
    exact List.cons_ne_nil _ _
  obtain ⟨hnulls, htext⟩ := (orderBy_normal (mySql none) keys).2.2.2 rfl
  exact ⟨⟨rfl, hkeys, rfl⟩, hnulls, htext hkeys, (orderBy_normal ansi keys).2.2.1 rfl⟩

example : Sql.orderByText (mySql none) keys =
    "ORDER BY CASE WHEN price IS NULL THEN 1 ELSE 0 END, price, row" := by rfl

end Seats

end Dialect

end RowExpr
