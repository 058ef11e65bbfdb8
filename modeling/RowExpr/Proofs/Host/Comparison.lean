import RowExpr.Proofs.Host.Conformity

/-!
# Comparing what may be compared

Whether two operands may be compared goes by their types, and how they compare by their values.
Wherever the types admit a comparison the values have an order, unless they are flags
(`comesTo_comparison`).
-/

namespace RowExpr.Host

/-! ## Values of a type -/

/-- A value, not null, of the host type that stands for a SQL type. -/
structure Held (t : SqlType) (v : Value) : Prop where
  ne_any : t.name ≠ .any
  ne_null : t.name ≠ .null
  holds : (HostType.ofSqlType t).kind.holds v = true

section

variable {t : SqlType} {v : Value}

theorem Held.isNull_eq_false (h : Held t v) : v.isNull = false := by
  obtain ⟨⟨name, nullable⟩, hany, hnull, hholds⟩ := t, h
  cases v with
  | null => cases name <;> contradiction
  | _ => rfl

theorem Held.value_ne_null (h : Held t v) : v ≠ .null := by
  rintro rfl
  cases h.isNull_eq_false

theorem Held.conforms (h : Held t v) : Conforms t.name v := .inr ⟨h.ne_null, h.holds⟩

theorem Held.fits (h : Held t v) : Fits t.name v := .of_conforms h.ne_any h.conforms

end

/-! ## Orders -/

section

variable {l r : SqlType} (haccepts : OperandRule.comparable.accepts [l, r] = true) {a b : Value}
  (ha : Held l a) (hb : Held r b)

include haccepts ha hb

theorem family_eq_of_held :
    (Kind.ofTypeName l.name).family = (Kind.ofTypeName r.name).family := by
  rcases family_eq_of_areComparable haccepts with h | h | h
  · exact absurd h ha.ne_null
  · exact absurd h hb.ne_null
  · exact h

theorem exists_order (hl : l.name ≠ .symbol) (hanan : isNaN a = false) (hbnan : isNaN b = false) :
    ∃ o, order? a b = some o := by
  rw [← Option.ne_none_iff_exists']
  intro hnone
  rcases isNaN_of_order?_eq_none (family_eq_of_held haccepts ha hb) hl ha.fits hb.fits
    ha.isNull_eq_false hb.isNull_eq_false hnone with h | h
  · simp [h] at hanan
  · simp [h] at hbnan

/-- Flags have no order. -/
theorem order?_eq_none_of_symbol (hl : l.name = .symbol) : order? a b = none := by
  have hr : r.name = .symbol := by
    have hfamily := family_eq_of_held haccepts ha hb
    rw [hl] at hfamily
    cases hname : r.name <;> rw [hname] at hfamily <;> first | rfl | cases hfamily
  have hafits := ha.fits
  have hbfits := hb.fits
  rw [hl] at hafits
  rw [hr] at hbfits
  obtain ⟨f, rfl⟩ := hafits.symbol ha.value_ne_null
  obtain ⟨g, rfl⟩ := hbfits.symbol hb.value_ne_null
  rfl

end

/-! ## Comparisons -/

section

variable {row : List Value} {l r : SqlType} {a b : Value} {i j : UInt64}

theorem result_of_held (ha : Held l a) (hi : row[i.toNat]? = some a) (name : Option String)
    (mode : NullMode) : result .standard row (.input i name l) mode = .ok a := by
  have hfield : field row i = .ok a := by simp [field, hi]
  rw [result, hfield, ok_bind]
  exact settle_of_conforms (fun _ => rfl) ha.conforms ha.value_ne_null mode

variable {c : Operator × (Ordering → Bool)} (hc : c ∈ Catalog.comparisons) (ha : Held l a)
  (hb : Held r b) (hi : row[i.toNat]? = some a) (hj : row[j.toNat]? = some b)

include hc ha hb hi hj

theorem result_comparison (m n : Option String) (mode : NullMode) :
    result .standard row (.call c.1 [.input i m l, .input j n r] (c.1.returns.infer [l, r])) mode =
      (order? a b).elim (.error (.mismatch (.incomparable a b)))
        fun o => .ok (.bool (c.2 o)) := by
  obtain ⟨-, -, hreturns, host, hfind, htest⟩ := find_of_mem_comparisons hc
  have hcombine : host.combine (.ok a) (.ok b) = applyBinary host a b :=
    combine_of_comparison (by rw [htest]; rfl) _ _
  rw [result_standard_call, hfind, hreturns]
  simp only [resultAll, Implementor.operandMode, Implementor.apply, onTwo,
    result_of_held ha hi, result_of_held hb hj, hcombine,
    applyBinary_of_test htest ha.isNull_eq_false hb.isNull_eq_false]
  cases order? a b with
  | none => rfl
  | some o =>
    have htruth : Conforms .boolean (.bool (c.2 o)) := .inr ⟨by decide, rfl⟩
    exact settle_of_conforms (fun _ => rfl) htruth (by simp) mode

theorem comesTo_of_order (m n : Option String) (mode : NullMode) :
    ComesTo .standard row (.call c.1 [.input i m l, .input j n r] (c.1.returns.infer [l, r])) mode
      ((order? a b).elim (.error (.mismatch (.incomparable a b)))
        fun o => .ok (.bool (c.2 o))) := by
  obtain ⟨hop, harity, -⟩ := find_of_mem_comparisons hc
  rw [← result_comparison hc ha hb hi hj m n mode]
  refine comesTo_standard ((Node.everywhere_call ..).2 ⟨⟨hop, ?_⟩, ?_⟩) mode
  · rw [harity]
    rfl
  · simp [Node.Admitted]

end

/-- Where the rule lets two types be compared, their values have an order that all comparisons
go by. The rule lets flags be compared, which have none. -/
theorem comesTo_comparison {l r : SqlType}
    (haccepts : OperandRule.comparable.accepts [l, r] = true) {a b : Value} (ha : Held l a)
    (hb : Held r b) (hanan : isNaN a = false) (hbnan : isNaN b = false) {row : List Value}
    {i j : UInt64} (hi : row[i.toNat]? = some a) (hj : row[j.toNat]? = some b)
    (m n : Option String) :
    (l.name ≠ .symbol → ∃ o, order? a b = some o ∧
      ∀ c ∈ Catalog.comparisons, ∀ mode, ComesTo .standard row
        (.call c.1 [.input i m l, .input j n r] (c.1.returns.infer [l, r])) mode
        (.ok (.bool (c.2 o)))) ∧
    (l.name = .symbol → ∀ c ∈ Catalog.comparisons, ∀ mode, ComesTo .standard row
      (.call c.1 [.input i m l, .input j n r] (c.1.returns.infer [l, r])) mode
      (.error (.mismatch (.incomparable a b)))) := by
  constructor
  · intro hl
    obtain ⟨o, ho⟩ := exists_order haccepts ha hb hl hanan hbnan
    refine ⟨o, ho, fun c hc mode => ?_⟩
    have hcomes := comesTo_of_order hc ha hb hi hj m n mode
    rwa [ho] at hcomes
  · intro hl c hc mode
    have hcomes := comesTo_of_order hc ha hb hi hj m n mode
    rwa [order?_eq_none_of_symbol haccepts ha hb hl] at hcomes

namespace Sorting

def given : SqlType := .orNull .varchar

def family : SqlType := .notNull .char

def ada : List Value := [.string "Ada", .string "Byron"]

theorem comesTo_given_before_family :
    OperandRule.comparable.accepts [given, family] = true ∧ Held given (.string "Ada") ∧
      Held family (.string "Byron") ∧ given.name ≠ .symbol ∧
      ComesTo .standard ada
        (.call Catalog.lessThan [.input 0 (some "given") given, .input 1 none family]
          (.orNull .boolean)) .notPossible (.ok (.bool true)) := by
  have hgiven : Held given (.string "Ada") := ⟨by decide, by decide, rfl⟩
  have hfamily : Held family (.string "Byron") := ⟨by decide, by decide, rfl⟩
  have hfirst : ada[(0 : UInt64).toNat]? = some (.string "Ada") := rfl
  have hlast : ada[(1 : UInt64).toNat]? = some (.string "Byron") := rfl
  obtain ⟨hordered, -⟩ :=
    comesTo_comparison rfl hgiven hfamily rfl rfl hfirst hlast (some "given") none
  obtain ⟨o, ho, hcomes⟩ := hordered (by decide)
  have hlt : order? (.string "Ada") (.string "Byron") = some .lt := by decide
  rw [hlt] at ho
  cases ho
  have hmem : (Catalog.lessThan, (· == .lt)) ∈ Catalog.comparisons := by simp [Catalog.comparisons]
  exact ⟨rfl, hgiven, hfamily, by decide, hcomes _ hmem .notPossible⟩

def side : SqlType := .notNull .symbol

def sides : List Value := [.flag .both, .flag .both]

/-- A flag is not even equal to itself. -/
theorem incomparable_of_flags :
    OperandRule.comparable.accepts [side, side] = true ∧ Held side (.flag .both) ∧
      isNaN (.flag .both) = false ∧
      ∀ t, ¬ ComesTo .standard sides
        (.call Catalog.equals [.input 0 none side, .input 1 none side] (.notNull .boolean)) .null
        (.ok (.bool t)) := by
  have hside : Held side (.flag .both) := ⟨by decide, by decide, rfl⟩
  have hfirst : sides[(0 : UInt64).toNat]? = some (.flag .both) := rfl
  have hlast : sides[(1 : UInt64).toNat]? = some (.flag .both) := rfl
  have hmem : (Catalog.equals, (· == .eq)) ∈ Catalog.comparisons := by simp [Catalog.comparisons]
  have hfails := comesTo_of_order hmem hside hside hfirst hlast none none .null
  exact ⟨rfl, hside, rfl, fun t ht => by cases ht.unique hfails⟩

end Sorting

end RowExpr.Host
