import Mathlib.Algebra.Order.Field.Rat
import Mathlib.Tactic.FieldSimp
import Mathlib.Tactic.Linarith
import Mathlib.Tactic.NormNum.Pow
import RowExpr.Proofs.Operator.Promotion

/-!
# What exact numeric types hold

An integer type holds the integers of so many bits, a decimal the numbers with so many digits in
all and behind the point. Main statement: the least restrictive type of exact operands never takes
digits behind the point away, so it holds all values of an operand exactly if it has as many digits
before the point (`holds_leastRestrictive_iff`). Beside it stands a decimal that ranks above an
integer type and holds less.
-/

namespace RowExpr

namespace TypeName

/-- An integer that fits in so many bits, one of them for the sign. -/
def IsSigned (bits : ℕ) (x : ℚ) : Prop :=
  ∃ n : ℤ, x = n ∧ -2 ^ (bits - 1) ≤ n ∧ n < 2 ^ (bits - 1)

/-- A number with so many digits behind the point. -/
def IsMultiple (scale : ℕ) (x : ℚ) : Prop := ∃ n : ℤ, x = n / 10 ^ scale

/-- Whether a number is a value of an exact numeric type. -/
def Holds : TypeName → ℚ → Prop
  | tinyInt, x => IsSigned 8 x
  | smallInt, x => IsSigned 16 x
  | integer, x => IsSigned 32 x
  | bigInt, x => IsSigned 64 x
  | decimal p s, x => IsMultiple s.toNat x ∧ |x| < 10 ^ (p.toNat - s.toNat)
  | _, _ => False

/-- The exact numeric types. A decimal has no more digits behind the point than in all. -/
def IsExact : TypeName → Prop
  | tinyInt | smallInt | integer | bigInt => True
  | decimal p s => s ≤ p
  | _ => False

/-- How many digits before the point the values of an exact numeric type have at most. -/
def wholeDigits : TypeName → ℕ
  | tinyInt => 3
  | smallInt => 5
  | integer => 10
  | bigInt => 19
  | decimal p s => p.toNat - s.toNat
  | _ => 0

theorem IsExact.isNumeric {t : TypeName} (ht : t.IsExact) : t.isNumeric = true := by
  cases t <;> first | rfl | exact ht.elim

/-! ## Digits before the point -/

theorem IsSigned.forall_abs_lt_iff {bits digits : ℕ} (hlow : 10 ^ (digits - 1) ≤ 2 ^ (bits - 1))
    (hhigh : 2 ^ (bits - 1) < 10 ^ digits) (n : ℕ) :
    (∀ x, IsSigned bits x → |x| < 10 ^ n) ↔ digits ≤ n := by
  constructor
  · -- The least integer of so many bits has all these digits.
    intro h
    by_contra hn
    have hleast : (2 : ℚ) ^ (bits - 1) < 10 ^ n := by
      have := h (-2 ^ (bits - 1)) ⟨-2 ^ (bits - 1), by push_cast; rfl, le_rfl, by
        have : (0 : ℤ) < 2 ^ (bits - 1) := by positivity
        linarith⟩
      rwa [abs_neg, abs_of_nonneg (by positivity)] at this
    have hpow : 10 ^ n ≤ 10 ^ (digits - 1) := Nat.pow_le_pow_right (by decide) (by omega)
    exact absurd (hpow.trans hlow) (by exact_mod_cast hleast.not_ge)
  · rintro hn x ⟨m, rfl, hmin, hmax⟩
    have habs : |m| ≤ 2 ^ (bits - 1) := abs_le.2 ⟨hmin, hmax.le⟩
    have hpow : 10 ^ digits ≤ 10 ^ n := Nat.pow_le_pow_right (by decide) hn
    have hlt : |m| < 10 ^ n := habs.trans_lt (by exact_mod_cast hhigh.trans_le hpow)
    exact_mod_cast hlt

theorem forall_abs_lt_iff_decimal (p s : UInt8) (n : ℕ) :
    (∀ x, (decimal p s).Holds x → |x| < 10 ^ n) ↔ p.toNat - s.toNat ≤ n := by
  constructor
  · intro h
    by_contra hn
    have hten : (decimal p s).Holds (10 ^ n) := by
      refine ⟨⟨10 ^ n * 10 ^ s.toNat, by push_cast; field_simp⟩, ?_⟩
      rw [abs_of_nonneg (by positivity)]
      exact pow_lt_pow_right₀ (by norm_num) (by omega)
    have := h _ hten
    rw [abs_of_nonneg (by positivity)] at this
    exact lt_irrefl _ this
  · rintro hn x ⟨-, hx⟩
    exact hx.trans_le (pow_le_pow_right₀ (by norm_num) hn)

theorem forall_abs_lt_iff {t : TypeName} (ht : t.IsExact) (n : ℕ) :
    (∀ x, t.Holds x → |x| < 10 ^ n) ↔ t.wholeDigits ≤ n := by
  cases t with
  | tinyInt | smallInt | integer | bigInt =>
    exact IsSigned.forall_abs_lt_iff (by decide) (by decide) n
  | decimal p s => exact forall_abs_lt_iff_decimal p s n
  | _ => exact ht.elim

/-! ## One type in another -/

theorem IsSigned.mono {m n : ℕ} (h : m ≤ n) {x : ℚ} (hx : IsSigned m x) : IsSigned n x := by
  obtain ⟨i, hi, hmin, hmax⟩ := hx
  have hpow : (2 : ℤ) ^ (m - 1) ≤ 2 ^ (n - 1) := pow_le_pow_right₀ (by norm_num) (by omega)
  exact ⟨i, hi, by linarith, by linarith⟩

theorem IsSigned.isMultiple {bits : ℕ} {x : ℚ} (hx : IsSigned bits x) (scale : ℕ) :
    IsMultiple scale x := by
  obtain ⟨n, rfl, -⟩ := hx
  exact ⟨n * 10 ^ scale, by push_cast; field_simp⟩

theorem IsMultiple.mono {m n : ℕ} (h : m ≤ n) {x : ℚ} (hx : IsMultiple m x) : IsMultiple n x := by
  obtain ⟨i, rfl⟩ := hx
  obtain ⟨k, rfl⟩ := Nat.exists_eq_add_of_le h
  refine ⟨i * 10 ^ k, ?_⟩
  push_cast
  rw [pow_add]
  field_simp

section

variable {r t : TypeName} {names : List TypeName}

/-- No digits behind the point are lost on the way up to a decimal. -/
theorem isMultiple_of_holds {p s : UInt8} (h : t.place ≤ (decimal p s).place) {x : ℚ}
    (hx : t.Holds x) : IsMultiple s.toNat x := by
  cases t with
  | tinyInt | smallInt | integer | bigInt => exact hx.isMultiple _
  | decimal q t => exact hx.1.mono h.2.2
  | _ => exact hx.elim

theorem holds_of_isIntegral (hr : r.isIntegral = true) (h : t.place ≤ r.place) {x : ℚ}
    (hx : t.Holds x) : r.Holds x := by
  cases t with
  | tinyInt | smallInt | integer | bigInt =>
    cases r <;> first | contradiction | exact IsSigned.mono (by decide) hx
  | decimal p s =>
    have hrank : 5 ≤ 4 := h.1.trans (place_le_of_isIntegral hr).1
    exact absurd hrank (by decide)
  | _ => exact hx.elim

theorem forall_holds_iff (ht : t.IsExact) (hr : r.IsExact) (h : t.place ≤ r.place) :
    (∀ x, t.Holds x → r.Holds x) ↔ t.wholeDigits ≤ r.wholeDigits := by
  constructor
  · intro hholds
    exact (forall_abs_lt_iff ht _).1 fun x hx => (forall_abs_lt_iff hr _).2 le_rfl x (hholds x hx)
  · intro hdigits x hx
    cases r with
    | tinyInt | smallInt | integer | bigInt => exact holds_of_isIntegral rfl h hx
    | decimal p s => exact ⟨isMultiple_of_holds h hx, (forall_abs_lt_iff ht _).2 hdigits x hx⟩
    | _ => exact hr.elim

/-! ## Joins of exact types -/

theorem place_le_of_isExact (ht : t.IsExact) {precision : ℕ} (h : t.place.2.1 ≤ precision) :
    t.place ≤ (5, precision, precision) := by
  cases t with
  | tinyInt | smallInt | integer | bigInt =>
    exact (place_le_of_isIntegral rfl).trans ⟨Nat.le_succ 4, Nat.zero_le _, Nat.zero_le _⟩
  | decimal p s => exact ⟨le_rfl, h, (UInt8.le_iff_toNat_le.1 ht).trans h⟩
  | _ => exact ht.elim

theorem Joins.isExact (hr : r.Joins names) (h : ∀ t ∈ names, t.IsExact) : r.IsExact := by
  have hle : ∀ precision, r.place.2.1 ≤ precision → r.place ≤ (5, precision, precision) :=
    fun precision hprecision => (hr.place_le_iff _).2 fun t ht =>
      place_le_of_isExact (h t ht) (((hr.place_le_iff _).1 le_rfl t ht).2.1.trans hprecision)
  cases r with
  | tinyInt | smallInt | integer | bigInt => trivial
  | decimal p s => exact UInt8.le_iff_toNat_le.2 (hle _ le_rfl).2.2
  | real | double => exact absurd (hle 255 le_rfl).1 (by decide)
  | _ => cases hr.isNumeric

theorem Joins.isIntegral (hr : r.Joins names) (h : ∀ t ∈ names, t.isIntegral = true) :
    r.isIntegral = true := by
  have hle : r.place ≤ (4, 0, 0) :=
    (hr.place_le_iff _).2 fun t ht => place_le_of_isIntegral (h t ht)
  cases r with
  | tinyInt | smallInt | integer | bigInt => rfl
  | decimal => exact absurd hle.1 (by decide : ¬ 5 ≤ 4)
  | real | double => exact absurd hle.1 (by decide)
  | _ => cases hr.isNumeric

end

end TypeName

/-! ## Types of operands -/

namespace ReturnRule

/-- The least restrictive type of exact operands is exact. It holds all values of an operand
exactly if it has as many digits before the point, which among integer types is always so. -/
theorem holds_leastRestrictive_iff {ts : List SqlType} (hne : ts ≠ [])
    (hexact : ∀ t ∈ ts, t.name.IsExact) :
    (leastRestrictive.infer ts).name.IsExact ∧
      (∀ t ∈ ts, (∀ x, t.name.Holds x → (leastRestrictive.infer ts).name.Holds x) ↔
        t.name.wholeDigits ≤ (leastRestrictive.infer ts).name.wholeDigits) ∧
      ((∀ t ∈ ts, t.name.isIntegral = true) → ∀ t ∈ ts, ∀ x, t.name.Holds x →
        (leastRestrictive.infer ts).name.Holds x) := by
  have hjoins := joins_infer hne fun t ht => (hexact t ht).isNumeric
  have hle : ∀ t ∈ ts, t.name.place ≤ (leastRestrictive.infer ts).name.place := fun t ht =>
    (hjoins.place_le_iff _).1 le_rfl _ (List.mem_map_of_mem ht)
  have hresult := hjoins.isExact (by simpa using hexact)
  refine ⟨hresult, fun t ht => TypeName.forall_holds_iff (hexact t ht) hresult (hle t ht), ?_⟩
  intro hintegral t ht x hx
  exact TypeName.holds_of_isIntegral (hjoins.isIntegral (by simpa using hintegral)) (hle t ht) hx

namespace Stock

def pieces : SqlType := .orNull .integer

def value : SqlType := .notNull (.decimal 12 2)

/-- Ten digits before the point are just enough for 32 bits. -/
theorem holds_pieces :
    ([pieces, value] ≠ [] ∧ ∀ t ∈ [pieces, value], t.name.IsExact) ∧
      (leastRestrictive.infer [pieces, value]).name = .decimal 12 2 ∧
      ∀ x, TypeName.integer.Holds x → (TypeName.decimal 12 2).Holds x := by
  have hexact : ∀ t ∈ [pieces, value], t.name.IsExact :=
    List.forall_mem_cons.2 ⟨trivial, List.forall_mem_singleton.2 (by decide : (2 : UInt8) ≤ 12)⟩
  have hname : (leastRestrictive.infer [pieces, value]).name = .decimal 12 2 := by decide
  obtain ⟨-, hdigits, -⟩ := holds_leastRestrictive_iff (by simp) hexact
  have hpieces := hdigits pieces (by simp)
  rw [hname] at hpieces
  exact ⟨⟨by simp, hexact⟩, hname, hpieces.2 (by decide)⟩

/-- Any decimal ranks above an integer type, and of two decimals the greater scale leaves the
greater precision fewer digits before the point. -/
theorem lost_of_narrow_decimal :
    (TypeName.integer.Holds 10 ∧
      ¬ (leastRestrictive.infer [pieces, .notNull (.decimal 1 0)]).name.Holds 10) ∧
    (TypeName.decimal 4 0).Holds 9999 ∧
      ¬ (leastRestrictive.infer [.notNull (.decimal 4 0), .notNull (.decimal 4 2)]).name.Holds
        9999 := by
  have hrank : (leastRestrictive.infer [pieces, .notNull (.decimal 1 0)]).name = .decimal 1 0 := by
    decide
  have hscale : (leastRestrictive.infer [.notNull (.decimal 4 0), .notNull (.decimal 4 2)]).name =
      .decimal 4 2 := by decide
  rw [hrank, hscale]
  refine ⟨⟨⟨10, by norm_num⟩, fun h => ?_⟩, ⟨⟨9999, by norm_num⟩, ?_⟩, fun h => ?_⟩
  · exact absurd h.2 (by norm_num [UInt8.toNat_ofNat])
  · norm_num [UInt8.toNat_ofNat]
  · exact absurd h.2 (by norm_num [UInt8.toNat_ofNat])

end Stock

end ReturnRule

end RowExpr
