import Mathlib.Data.List.Perm.Basic
import Mathlib.Data.Prod.Basic
import Mathlib.Order.Lattice
import RowExpr.Operator.Rule

/-!
# Promotion as a join

The numeric types are points of a lattice, and the less restrictive of two is their join. Main
statement: the least restrictive type of operands does not depend on their order or on how they
are grouped, and it absorbs each of them (`leastRestrictive_join`).
-/

namespace RowExpr

namespace TypeName

/-- Where a numeric type stands: its rank, its precision and its scale. An integer type counts as
smaller than every decimal in both, an approximate type as larger. -/
def place : TypeName → Nat × Nat × Nat
  | decimal p s => (5, p.toNat, s.toNat)
  | real => (6, 255, 255)
  | double => (7, 255, 255)
  | t => (t.rank?.getD 0, 0, 0)

theorem place_injective {a b : TypeName} (ha : a.isNumeric = true) (hb : b.isNumeric = true)
    (h : a.place = b.place) : a = b := by
  cases a <;> first
    | contradiction
    | cases b <;> first
      | contradiction
      | rfl
      | cases h
      | exact congrArg₂ decimal (UInt8.toNat_inj.1 (congrArg (·.2.1) h))
          (UInt8.toNat_inj.1 (congrArg (·.2.2) h))

theorem place_le_of_isIntegral {t : TypeName} (h : t.isIntegral = true) :
    t.place ≤ (4, 0, 0) := by
  cases t <;> first | contradiction | decide

theorem place_le_decimal {t : TypeName} (h : t.isIntegral = true) (p s : UInt8) :
    t.place ≤ (decimal p s).place :=
  (place_le_of_isIntegral h).trans ⟨Nat.le_succ 4, Nat.zero_le _, Nat.zero_le _⟩

theorem decimal_place_le {t : TypeName} (h : t.isApproximate = true) (p s : UInt8) :
    (decimal p s).place ≤ t.place := by
  calc (decimal p s).place
    _ ≤ (6, 255, 255) :=
      ⟨Nat.le_succ 5, Nat.le_of_lt_succ p.toNat_lt, Nat.le_of_lt_succ s.toNat_lt⟩
    _ ≤ t.place := by cases t <;> first | contradiction | exact ⟨by decide, le_rfl, le_rfl⟩

/-- Two decimals meet above both; of any other two, one is already above. -/
theorem promote_of_isNumeric {a b : TypeName} (ha : a.isNumeric = true) (hb : b.isNumeric = true) :
    ∃ c, a.promote b = some c ∧ c.isNumeric = true ∧ c.place = a.place ⊔ b.place := by
  cases a <;> first
    | contradiction
    | cases b <;> first
      | contradiction
      | exact ⟨_, rfl, rfl, rfl⟩
      | exact ⟨_, rfl, rfl, (sup_eq_left.2 (place_le_decimal rfl _ _)).symm⟩
      | exact ⟨_, rfl, rfl, (sup_eq_right.2 (place_le_decimal rfl _ _)).symm⟩
      | exact ⟨_, rfl, rfl, (sup_eq_left.2 (decimal_place_le rfl _ _)).symm⟩
      | exact ⟨_, rfl, rfl, (sup_eq_right.2 (decimal_place_le rfl _ _)).symm⟩
      | exact ⟨_, rfl, rfl, Prod.ext rfl (Prod.ext (UInt8.toNat_max ..) (UInt8.toNat_max ..))⟩

variable {a b c : TypeName}

theorem promote_eq_some_iff (ha : a.isNumeric = true) (hb : b.isNumeric = true) :
    a.promote b = some c ↔ c.isNumeric = true ∧ c.place = a.place ⊔ b.place := by
  obtain ⟨d, hd, hnumeric, hplace⟩ := promote_of_isNumeric ha hb
  rw [hd, Option.some.injEq]
  constructor
  · rintro rfl
    exact ⟨hnumeric, hplace⟩
  · rintro ⟨hc, h⟩
    exact place_injective hnumeric hc (hplace.trans h.symm)

/-! ## Many types -/

/-- A numeric type stands at the join of these. -/
structure Joins (r : TypeName) (names : List TypeName) : Prop where
  isNumeric : r.isNumeric = true
  place_le_iff : ∀ x, r.place ≤ x ↔ ∀ t ∈ names, t.place ≤ x

namespace Joins

variable {r s : TypeName} {names more : List TypeName}

theorem singleton (ha : a.isNumeric = true) : a.Joins [a] :=
  ⟨ha, fun x => by simp⟩

theorem unique (hr : r.Joins names) (hs : s.Joins names) : r = s := by
  refine place_injective hr.isNumeric hs.isNumeric (eq_of_forall_ge_iff fun x => ?_)
  rw [hr.place_le_iff, hs.place_le_iff]

theorem of_perm (hr : r.Joins names) (h : names.Perm more) : r.Joins more :=
  ⟨hr.isNumeric, fun x => by simp only [hr.place_le_iff, h.mem_iff]⟩

/-- What joins two lists one after the other is what comes of promoting what joins each. -/
theorem promote_eq_some (hr : r.Joins names) (hs : s.Joins more) (hc : c.Joins (names ++ more)) :
    r.promote s = some c := by
  refine (promote_eq_some_iff hr.isNumeric hs.isNumeric).2 ⟨hc.isNumeric, ?_⟩
  refine eq_of_forall_ge_iff fun x => ?_
  rw [hc.place_le_iff, List.forall_mem_append, sup_le_iff, hr.place_le_iff, hs.place_le_iff]

theorem absorbs (hr : r.Joins names) (ha : a ∈ names) (hnumeric : a.isNumeric = true) :
    r.promote a = some r ∧ a.promote r = some r := by
  have hle : a.place ≤ r.place := (hr.place_le_iff _).1 le_rfl a ha
  constructor
  · exact (promote_eq_some_iff hr.isNumeric hnumeric).2 ⟨hr.isNumeric, (sup_eq_left.2 hle).symm⟩
  · exact (promote_eq_some_iff hnumeric hr.isNumeric).2 ⟨hr.isNumeric, (sup_eq_right.2 hle).symm⟩

/-- What absorbs each of the types absorbs their join. -/
theorem absorbed (hr : r.Joins names) (hne : names ≠ []) (h : ∀ t ∈ names, a.promote t = some a) :
    a.promote r = some a := by
  obtain ⟨t, ht⟩ := List.exists_mem_of_ne_nil names hne
  obtain ⟨ha, -, -⟩ := isNumeric_of_promote (h t ht)
  refine (promote_eq_some_iff ha hr.isNumeric).2 ⟨ha, (sup_eq_left.2 ?_).symm⟩
  refine (hr.place_le_iff _).2 fun t ht => ?_
  obtain ⟨-, hnumeric, -⟩ := isNumeric_of_promote (h t ht)
  exact sup_eq_left.1 ((promote_eq_some_iff ha hnumeric).1 (h t ht)).2.symm

end Joins

end TypeName

section

variable {names more : List TypeName}

theorem foldlM_promote {first : TypeName} (hfirst : first.isNumeric = true)
    (hnames : ∀ t ∈ names, t.isNumeric = true) :
    ∃ r, names.foldlM TypeName.promote first = some r ∧ r.Joins (first :: names) := by
  induction names generalizing first with
  | nil => exact ⟨first, rfl, .singleton hfirst⟩
  | cons t rest ih =>
    obtain ⟨ht, hrest⟩ := List.forall_mem_cons.1 hnames
    obtain ⟨c, hc, hnumeric, hplace⟩ := TypeName.promote_of_isNumeric hfirst ht
    obtain ⟨r, hr, hjoins⟩ := ih hnumeric hrest
    refine ⟨r, by rw [List.foldlM_cons, hc]; exact hr, hjoins.isNumeric, fun x => ?_⟩
    simp only [hjoins.place_le_iff, List.forall_mem_cons, hplace, sup_le_iff, and_assoc]

theorem exists_joins_of_numeric (hne : names ≠ []) (hnames : ∀ t ∈ names, t.isNumeric = true) :
    ∃ r, leastRestrictive? names = some r ∧ r.Joins names := by
  obtain ⟨first, rest, rfl⟩ := List.exists_cons_of_ne_nil hne
  obtain ⟨hfirst, hrest⟩ := List.forall_mem_cons.1 hnames
  exact foldlM_promote hfirst hrest

theorem isNumeric_of_foldlM {first r : TypeName} (hne : names ≠ [])
    (h : names.foldlM TypeName.promote first = some r) :
    ∀ t ∈ first :: names, t.isNumeric = true := by
  induction names generalizing first with
  | nil => exact absurd rfl hne
  | cons t rest ih =>
    obtain ⟨c, hc, hr⟩ := Option.bind_eq_some_iff.1 h
    obtain ⟨hfirst, ht, -⟩ := TypeName.isNumeric_of_promote hc
    refine List.forall_mem_cons.2 ⟨hfirst, List.forall_mem_cons.2 ⟨ht, ?_⟩⟩
    by_cases hrest : rest = []
    · simp [hrest]
    · exact (List.forall_mem_cons.1 (ih hrest hr)).2

/-- One type that is no number is enough, unless it stands alone. -/
theorem leastRestrictive?_eq_none (hlength : 2 ≤ names.length)
    (h : ∃ t ∈ names, t.isNumeric = false) : leastRestrictive? names = none := by
  obtain ⟨t, ht, hnot⟩ := h
  match names, hlength with
  | first :: second :: rest, _ =>
    rw [Option.eq_none_iff_forall_ne_some]
    intro r hr
    have hnumeric := isNumeric_of_foldlM (List.cons_ne_nil second rest) hr t ht
    rw [hnot] at hnumeric
    cases hnumeric

theorem leastRestrictive?_perm (h : names.Perm more) :
    leastRestrictive? names = leastRestrictive? more := by
  by_cases hlength : 2 ≤ names.length
  · by_cases hnumeric : ∀ t ∈ names, t.isNumeric = true
    · have hne : names ≠ [] := List.ne_nil_of_length_pos (by omega)
      obtain ⟨r, hr, hjoins⟩ := exists_joins_of_numeric hne hnumeric
      obtain ⟨s, hs, hjoins'⟩ := exists_joins_of_numeric
        (fun hmore => hne (hmore ▸ h).eq_nil) fun t ht => hnumeric t (h.mem_iff.2 ht)
      rw [hr, hs, (hjoins.of_perm h).unique hjoins']
    · obtain ⟨t, ht, hnot⟩ : ∃ t ∈ names, t.isNumeric = false := by simpa using hnumeric
      rw [leastRestrictive?_eq_none hlength ⟨t, ht, hnot⟩,
        leastRestrictive?_eq_none (h.length_eq ▸ hlength) ⟨t, h.mem_iff.1 ht, hnot⟩]
  · match names, hlength with
    | [], _ => rw [h.nil_eq]
    | [t], _ => rw [h.singleton_eq]
    | _ :: _ :: _, hlength => exact absurd (by simp) hlength

end

/-! ## Types of operands -/

namespace ReturnRule

theorem joins_infer {ts : List SqlType} (hne : ts ≠ [])
    (hnumeric : ∀ t ∈ ts, t.name.isNumeric = true) :
    (leastRestrictive.infer ts).name.Joins (ts.map (·.name)) := by
  have hnames : ∀ name ∈ ts.map (·.name), name.isNumeric = true := by simpa using hnumeric
  obtain ⟨r, hr, hjoins⟩ := exists_joins_of_numeric (by simpa using hne) hnames
  simpa [infer, hr] using hjoins

/-- The order of the operands does not matter, nor how they are grouped. Where all are numbers,
the type absorbs each of them, and whatever else absorbs them all absorbs it too. -/
theorem leastRestrictive_join :
    (∀ ts us : List SqlType, ts.Perm us → leastRestrictive.infer ts = leastRestrictive.infer us) ∧
    (∀ ts : List SqlType, 2 ≤ ts.length → (∃ t ∈ ts, t.name.isNumeric = false) →
      (leastRestrictive.infer ts).name = .any) ∧
    (∀ ts : List SqlType, ts ≠ [] → (∀ t ∈ ts, t.name.isNumeric = true) →
      (∀ t ∈ ts,
        (leastRestrictive.infer ts).name.promote t.name = some (leastRestrictive.infer ts).name ∧
          t.name.promote (leastRestrictive.infer ts).name =
            some (leastRestrictive.infer ts).name) ∧
        ∀ u : TypeName, (∀ t ∈ ts, u.promote t.name = some u) →
          u.promote (leastRestrictive.infer ts).name = some u) ∧
    ∀ ts us : List SqlType, ts ≠ [] → us ≠ [] → (∀ t ∈ ts ++ us, t.name.isNumeric = true) →
      (leastRestrictive.infer ts).name.promote (leastRestrictive.infer us).name =
        some (leastRestrictive.infer (ts ++ us)).name := by
  refine ⟨fun ts us h => ?_, fun ts hlength h => ?_, fun ts hne hnumeric => ⟨fun t ht => ?_,
    fun u hu => ?_⟩, fun ts us hts hus hnumeric => ?_⟩
  · simp only [infer, leastRestrictive?_perm (h.map _), h.any_eq]
  · have hnone : leastRestrictive? (ts.map (·.name)) = none :=
      leastRestrictive?_eq_none (by simpa using hlength) (by simpa using h)
    simp [infer, hnone]
  · exact (joins_infer hne hnumeric).absorbs (List.mem_map_of_mem ht) (hnumeric t ht)
  · exact (joins_infer hne hnumeric).absorbed (by simpa using hne) (by simpa using hu)
  · obtain ⟨hts', hus'⟩ := List.forall_mem_append.1 hnumeric
    have hboth := joins_infer (List.append_ne_nil_of_left_ne_nil hts us) hnumeric
    rw [List.map_append] at hboth
    exact (joins_infer hts hts').promote_eq_some (joins_infer hus hus') hboth

namespace Invoice

def price : SqlType := .notNull (.decimal 10 2)

def pieces : SqlType := .orNull .integer

def rate : SqlType := .notNull (.decimal 6 4)

def weight : SqlType := .notNull .real

def day : SqlType := .notNull .date

theorem infer_terms : leastRestrictive.infer [price, pieces, rate] = .orNull (.decimal 10 4) := by
  decide

/-- The scale comes from one operand and the precision from another. -/
theorem leastRestrictive_join_of_terms :
    ([price, pieces, rate].Perm [rate, price, pieces] ∧
      (2 ≤ [pieces, day].length ∧ ∃ t ∈ [pieces, day], t.name.isNumeric = false) ∧
      ∀ t ∈ [price, pieces, rate] ++ [weight], t.name.isNumeric = true) ∧
    leastRestrictive.infer [rate, price, pieces] = .orNull (.decimal 10 4) ∧
      (leastRestrictive.infer [pieces, day]).name = .any ∧
      TypeName.promote (.decimal 10 4) (.decimal 6 4) = some (.decimal 10 4) ∧
      TypeName.promote .real (.decimal 10 4) = some .real ∧
      TypeName.promote (.decimal 10 4) .real =
        some (leastRestrictive.infer [price, pieces, rate, weight]).name := by
  obtain ⟨hperm, hany, hbound, hgroups⟩ := leastRestrictive_join
  have hterms : [price, pieces, rate].Perm [rate, price, pieces] := by decide
  have hday : ∃ t ∈ [pieces, day], t.name.isNumeric = false := ⟨day, by simp, rfl⟩
  have hnumeric : ∀ t ∈ [price, pieces, rate] ++ [weight], t.name.isNumeric = true := by decide
  obtain ⟨habsorbs, hleast⟩ := hbound [price, pieces, rate] (by simp)
    (List.forall_mem_append.1 hnumeric).1
  have hweight := hgroups _ [weight] (by simp) (by simp) hnumeric
  rw [infer_terms] at habsorbs hleast hweight
  exact ⟨⟨hterms, ⟨le_rfl, hday⟩, hnumeric⟩, by rw [← hperm _ _ hterms, infer_terms],
    hany _ le_rfl hday, (habsorbs rate (by simp)).1, hleast .real (by decide), hweight⟩

end Invoice

end ReturnRule

end RowExpr
