import RowExpr.Proofs.Host.FloatOrder
import RowExpr.Proofs.Host.Typing

/-!
# Outcomes

An evaluation gives a value that fits a type, or fails in a way that a well-typed expression
may fail. Operators and conversions keep to this.
-/

namespace RowExpr.Host

def isNaN : Value → Bool
  | .float x => x.isNaN
  | _ => false

/-- Why a well-typed expression may have no value. -/
inductive Tolerated : EvalError → Prop
  | divisionByZero : Tolerated .divisionByZero
  | method (cause : MethodFailure) : Tolerated (.method cause)
  | nullConversion (type : HostType) : Tolerated (.nullConversion type)
  | incomparable {l r : Value} :
    isNaN l = true ∨ isNaN r = true → Tolerated (.mismatch (.incomparable l r))

/-- What a well-typed expression comes to. -/
def Outcome {α : Type} (P : α → Prop) : Except EvalError α → Prop
  | .ok v => P v
  | .error e => Tolerated e

theorem Outcome.bind {α β : Type} {P : α → Prop} {Q : β → Prop} {x : Except EvalError α}
    {f : α → Except EvalError β} (hx : Outcome P x) (hf : ∀ v, P v → Outcome Q (f v)) :
    Outcome Q (x >>= f) := by
  cases x with
  | ok v => exact hf v hx
  | error e => exact hx

theorem Outcome.imp {α : Type} {P Q : α → Prop} {x : Except EvalError α} (hx : Outcome P x)
    (h : ∀ v, P v → Q v) : Outcome Q x := by
  cases x with
  | ok v => exact h v hx
  | error e => exact hx

/-! ## Conversions -/

theorem outcome_convertTo_long {t : TypeName} (ht : t = .any ∨ t.isNumeric = true) {v : Value}
    (h : Fits t v) (boxed : Bool) : Outcome (Fits .bigInt) (convertTo v ⟨.long, boxed⟩) := by
  cases h with
  | null =>
    rw [convertTo_null]
    split
    · exact .null
    · exact .nullConversion _
  | int | float | anyInt | anyFloat => exact .int rfl
  | bool | flag => nomatch ht
  | string hk => cases t <;> contradiction

/-! ## Arithmetic -/

def BinaryOp.isArithmetic : BinaryOp → Bool
  | plus | minus | times | divide | mod => true
  | _ => false

section

variable {op : BinaryOp} {P : Value → Prop}

theorem outcome_arithmeticInt (hop : op.isArithmetic = true) (hP : ∀ i, P (.int i))
    (a b : Int64) : Outcome P (arithmeticInt op a b) := by
  cases op <;> try cases hop
  case divide | mod =>
    unfold arithmeticInt
    dsimp only
    split
    · exact .divisionByZero
    · exact hP _
  all_goals exact hP _

theorem outcome_arithmeticFloat (hop : op.isArithmetic = true) (hP : ∀ x, P (.float x))
    (x y : Float) : Outcome P (arithmeticFloat op x y) := by
  cases op <;> try cases hop
  case divide | mod =>
    unfold arithmeticFloat
    dsimp only
    split
    · exact .divisionByZero
    · exact hP _
  all_goals exact hP _

theorem applyBinary_arithmetic (hop : op.isArithmetic = true) {a b : Value}
    (ha : a.isNull = false) (hb : b.isNull = false) :
    applyBinary op a b = arithmetic op a b := by
  have htest : op.test? = none := by cases op <;> first | rfl | contradiction
  simp [applyBinary, ha, hb, htest]

theorem outcome_arithmetic (hop : op.isArithmetic = true) {l r : SqlType}
    (hl : OperandRule.isNumberOrInterval l = true) (hr : OperandRule.isNumberOrInterval r = true)
    {a b : Value} (ha : Fits l.name a) (hb : Fits r.name b) :
    Outcome (Fits ((leastRestrictive? [l.name, r.name]).getD .any)) (applyBinary op a b) := by
  have hinteger : ∀ {k : Kind}, k.isInteger = true → k.isNumber = true := by
    intro k hk
    simp [Kind.isNumber, hk]
  have hdouble : ∀ {k : Kind}, k = .double → k.isNumber = true := by
    rintro _ rfl
    rfl
  rcases ha.number hl with rfl | ⟨i, rfl, hi⟩ | ⟨x, rfl, hx⟩
  · exact .null
  · rcases hb.number hr with rfl | ⟨j, rfl, hj⟩ | ⟨y, rfl, hy⟩
    · rw [applyBinary_null_right]
      exact .null
    · rw [applyBinary_arithmetic hop rfl rfl]
      exact outcome_arithmeticInt hop (fits_leastRestrictive_int hi hj) i j
    · rw [applyBinary_arithmetic hop rfl rfl]
      exact outcome_arithmeticFloat hop
        (fits_leastRestrictive_float (hinteger hi) (hdouble hy) (.inr hy)) _ y
  · rcases hb.number hr with rfl | ⟨j, rfl, hj⟩ | ⟨y, rfl, hy⟩
    · rw [applyBinary_null_right]
      exact .null
    · rw [applyBinary_arithmetic hop rfl rfl]
      exact outcome_arithmeticFloat hop
        (fits_leastRestrictive_float (hdouble hx) (hinteger hj) (.inl hx)) x _
    · rw [applyBinary_arithmetic hop rfl rfl]
      exact outcome_arithmeticFloat hop
        (fits_leastRestrictive_float (hdouble hx) (hdouble hy) (.inl hx)) x y

end

/-! ## Comparisons -/

/-- Kinds whose values are compared with each other. -/
def Kind.family : Kind → Kind
  | .int | .long | .double => .double
  | k => k

theorem family_eq_of_areComparable {l r : TypeName}
    (h : OperandRule.areComparable l r = true) :
    l = .null ∨ r = .null ∨ (Kind.ofTypeName l).family = (Kind.ofTypeName r).family := by
  have hnumeric : ∀ t : TypeName, t.isNumeric = true → (Kind.ofTypeName t).family = .double := by
    intro t ht
    cases t <;> first | rfl | contradiction
  have hcharacter : ∀ t : TypeName, t.isCharacter = true → Kind.ofTypeName t = .string := by
    intro t ht
    cases t <;> first | rfl | contradiction
  simp only [OperandRule.areComparable, Bool.or_eq_true, beq_iff_eq, Bool.and_eq_true] at h
  rcases h with (((h | h) | rfl) | h) | ⟨hl, hr⟩
  · exact .inl h
  · exact .inr (.inl h)
  · exact .inr (.inr rfl)
  · obtain ⟨t, ht⟩ := Option.isSome_iff_exists.1 h
    obtain ⟨hl, hr, -⟩ := TypeName.isNumeric_of_promote ht
    exact .inr (.inr (by rw [hnumeric l hl, hnumeric r hr]))
  · exact .inr (.inr (by rw [hcharacter l hl, hcharacter r hr]))

theorem isNaN_of_numbers {a b : Value} (ha : (∃ i, a = .int i) ∨ ∃ x, a = .float x)
    (hb : (∃ i, b = .int i) ∨ ∃ x, b = .float x) (h : order? a b = none) :
    isNaN a = true ∨ isNaN b = true := by
  rcases ha with ⟨i, rfl⟩ | ⟨x, rfl⟩ <;> rcases hb with ⟨j, rfl⟩ | ⟨y, rfl⟩
  · cases h
  · rcases isNaN_of_orderFloats_eq_none h with hi | hy
    · rw [isNaN_floatOfInt] at hi
      cases hi
    · exact .inr hy
  · rcases isNaN_of_orderFloats_eq_none h with hx | hj
    · exact .inl hx
    · rw [isNaN_floatOfInt] at hj
      cases hj
  · exact isNaN_of_orderFloats_eq_none h

/-- What a value that is not null looks like, by the family of its type. -/
theorem shape_of_family {t : TypeName} {v : Value} (h : Fits t v) (hv : v.isNull = false) :
    match (Kind.ofTypeName t).family with
    | .bool => ∃ b, v = .bool b
    | .string => ∃ s, v = .string s
    | .symbol => t = .symbol
    | _ => (∃ i, v = .int i) ∨ ∃ x, v = .float x := by
  cases h with
  | null => cases hv
  | bool => exact ⟨_, rfl⟩
  | flag => rfl
  | int hk => cases t <;> first | contradiction | exact .inl ⟨_, rfl⟩
  | float hk => cases t <;> first | contradiction | exact .inr ⟨_, rfl⟩
  | string hk => cases t <;> first | contradiction | exact ⟨_, rfl⟩
  | anyInt => exact .inl ⟨_, rfl⟩
  | anyFloat => exact .inr ⟨_, rfl⟩

theorem isNaN_of_order?_eq_none {l r : TypeName}
    (hfamily : (Kind.ofTypeName l).family = (Kind.ofTypeName r).family) (hl : l ≠ .symbol)
    {a b : Value} (ha : Fits l a) (hb : Fits r b) (hanull : a.isNull = false)
    (hbnull : b.isNull = false) (h : order? a b = none) : isNaN a = true ∨ isNaN b = true := by
  have ha := shape_of_family ha hanull
  have hb := shape_of_family hb hbnull
  rw [← hfamily] at hb
  cases hk : (Kind.ofTypeName l).family <;> simp only [hk] at ha hb
  case bool | string =>
    obtain ⟨a, rfl⟩ := ha
    obtain ⟨b, rfl⟩ := hb
    cases h
  case symbol => exact absurd ha hl
  all_goals exact isNaN_of_numbers ha hb h

theorem applyBinary_of_test {host : BinaryOp} {test : Ordering → Bool}
    (hhost : host.test? = some test) {a b : Value} (ha : a.isNull = false)
    (hb : b.isNull = false) :
    applyBinary host a b =
      (order? a b).elim (.error (.mismatch (.incomparable a b))) fun o => .ok (.bool (test o)) := by
  simp only [applyBinary, ha, hb, hhost, Bool.or_self, Bool.false_eq_true, if_false]
  cases order? a b <;> rfl

theorem outcome_comparison {op : BinaryOp} (hop : op.test?.isSome = true) {l r : TypeName}
    (hcomparable : OperandRule.areComparable l r = true) (hl : l ≠ .symbol) {a b : Value}
    (ha : Fits l a) (hb : Fits r b) : Outcome (Fits .boolean) (applyBinary op a b) := by
  obtain ⟨test, htest⟩ := Option.isSome_iff_exists.1 hop
  by_cases hanull : a.isNull = true
  · rw [(Value.isNull_iff a).1 hanull, applyBinary_null_left]
    exact .null
  by_cases hbnull : b.isNull = true
  · rw [(Value.isNull_iff b).1 hbnull, applyBinary_null_right]
    exact .null
  have hnotNull : ∀ {v : Value}, v.isNull ≠ true → ¬ Fits .null v := by
    intro v hv h
    rw [h.eq_null] at hv
    exact hv rfl
  have hfamily : (Kind.ofTypeName l).family = (Kind.ofTypeName r).family := by
    rcases family_eq_of_areComparable hcomparable with rfl | rfl | h
    · exact absurd ha (hnotNull hanull)
    · exact absurd hb (hnotNull hbnull)
    · exact h
  rw [Bool.not_eq_true] at hanull hbnull
  rw [applyBinary_of_test htest hanull hbnull]
  cases horder : order? a b with
  | some o => exact .bool
  | none => exact .incomparable (isNaN_of_order?_eq_none hfamily hl ha hb hanull hbnull horder)

/-! ## Logic -/

section

variable {l r : TypeName} (hl : l = .boolean ∨ l = .null) (hr : r = .boolean ∨ r = .null)
  {a : Value} (ha : Fits l a) {right : Except EvalError Value} (hright : Outcome (Fits r) right)

include hl hr ha hright

theorem outcome_conjunction : Outcome (Fits .boolean) (conjunction a right) := by
  rcases ha.truth hl with rfl | ⟨_ | _, rfl⟩
  · refine hright.bind fun v hv => ?_
    rcases hv.truth hr with rfl | ⟨_ | _, rfl⟩
    · exact .null
    · exact .bool
    · exact .null
  · exact .bool
  · refine hright.bind fun v hv => ?_
    rcases hv.truth hr with rfl | ⟨b, rfl⟩
    · exact .null
    · exact .bool

theorem outcome_disjunction : Outcome (Fits .boolean) (disjunction a right) := by
  rcases ha.truth hl with rfl | ⟨_ | _, rfl⟩
  · refine hright.bind fun v hv => ?_
    rcases hv.truth hr with rfl | ⟨_ | _, rfl⟩
    · exact .null
    · exact .null
    · exact .bool
  · refine hright.bind fun v hv => ?_
    rcases hv.truth hr with rfl | ⟨b, rfl⟩
    · exact .null
    · exact .bool
  · exact .bool

end

theorem outcome_isNull (v : Value) : Outcome (Fits .boolean) (applyUnary .isNull v) := .bool

theorem outcome_isNotNull (v : Value) : Outcome (Fits .boolean) (applyUnary .isNotNull v) := .bool

theorem outcome_not {t : TypeName} (ht : t = .boolean ∨ t = .null) {v : Value} (h : Fits t v) :
    Outcome (Fits .boolean) (applyUnary .not v) := by
  rcases h.truth ht with rfl | ⟨b, rfl⟩
  · exact .null
  · exact .bool

theorem outcome_negate {t : SqlType} (ht : OperandRule.isNumberOrInterval t = true) {v : Value}
    (h : Fits t.name v) : Outcome (Fits t.name) (applyUnary .negate v) := by
  rcases h.number ht with rfl | ⟨i, rfl, hi⟩ | ⟨x, rfl, hx⟩
  · exact .null
  · exact .int hi
  · exact .float hx

end RowExpr.Host
