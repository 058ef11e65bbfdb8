import RowExpr.Proofs.Host.Conformity

/-!
# Quotients and remainders

The quotient of two 64-bit integers is cut toward zero, and the remainder takes its sign from the
dividend. Sums and products wrap around, and so does the one quotient that does not fit; still
the quotient times the divisor, with the remainder added, is the dividend again
(`comesTo_division`).
-/

namespace RowExpr

/-- The call that is built with the type that is inferred. -/
def Node.inferred (op : Operator) (ns : List Node) : Node :=
  .call op ns (op.returns.infer (types ns))

/-- A column of this type that holds this value in a row. -/
def Node.IsColumn (row : List Value) (t : TypeName) (v : Value) : Node → Prop
  | .input index _ type => type.name = t ∧ row[index.toNat]? = some v
  | _ => False

/-- The operators of arithmetic on two operands, with those of the host. -/
def Catalog.arithmetic : List (Operator × Host.BinaryOp) :=
  [(plus, .plus), (minus, .minus), (times, .times), (divide, .divide), (mod, .mod)]

theorem Catalog.plus_mem_arithmetic : (plus, .plus) ∈ arithmetic := by simp [arithmetic]

theorem Catalog.times_mem_arithmetic : (times, .times) ∈ arithmetic := by simp [arithmetic]

theorem Catalog.divide_mem_arithmetic : (divide, .divide) ∈ arithmetic := by simp [arithmetic]

theorem Catalog.mod_mem_arithmetic : (mod, .mod) ∈ arithmetic := by simp [arithmetic]

namespace Host

/-! ## 64-bit integers -/

/-- Cut toward zero. The one quotient that does not fit in 64 bits is the least integer. -/
def IsQuotient (a b q : Int64) : Prop :=
  if a = Int64.minValue ∧ b = -1 then q = Int64.minValue else q.toInt = a.toInt.tdiv b.toInt

def IsRemainder (a b r : Int64) : Prop :=
  r = 0 ∨ r.toInt.sign = a.toInt.sign ∧ r.toInt.natAbs < b.toInt.natAbs

theorem isQuotient_div (a b : Int64) : IsQuotient a b (a / b) := by
  unfold IsQuotient
  split
  · next h =>
    obtain ⟨rfl, rfl⟩ := h
    exact Int64.minValue_div_neg_one
  · next h =>
    by_cases ha : a = Int64.minValue
    · exact Int64.toInt_div_of_ne_right a b fun hb => h ⟨ha, hb⟩
    · exact Int64.toInt_div_of_ne_left a b ha

theorem isRemainder_mod (a : Int64) {b : Int64} (hb : b ≠ 0) : IsRemainder a b (a % b) := by
  have hpos : 0 < b.toInt.natAbs := by
    rw [Int.natAbs_pos, ← Int64.toInt_zero]
    exact fun h => hb (Int64.toInt_inj.1 h)
  -- Zero is the only remainder that has not the sign of the dividend.
  by_cases hdvd : b.toInt ∣ a.toInt
  · left
    rw [← Int64.toInt_inj, Int64.toInt_mod, Int64.toInt_zero]
    exact Int.tmod_eq_zero_of_dvd hdvd
  · right
    rw [Int64.toInt_mod, Int.sign_tmod, if_neg hdvd, Int.natAbs_tmod]
    exact ⟨rfl, Nat.mod_lt _ hpos⟩

/-- What the quotient, the product or the sum lose to 64 bits comes back. -/
theorem div_mul_add_mod (a b : Int64) : a / b * b + a % b = a := by
  have hexact : a.toInt.tdiv b.toInt * b.toInt + a.toInt.tmod b.toInt = a.toInt :=
    Int.tdiv_mul_add_tmod a.toInt b.toInt
  rw [← Int64.toInt_inj, Int64.toInt_add, Int64.toInt_mul, Int64.toInt_div, Int64.toInt_mod,
    Int.bmod_mul_bmod, Int.bmod_add_bmod, hexact]
  exact a.toInt_bmod

/-! ## Calls -/

theorem find_of_mem_arithmetic : ∀ c ∈ Catalog.arithmetic,
    c.1 ∈ Catalog.all ∧ c.1.arity = .two ∧ c.1.returns = .leastRestrictive ∧
      c.2.isArithmetic = true ∧ Implementors.standard.find c.1.id = .binary c.2 := by
  simp only [find_standard, Catalog.arithmetic, List.forall_mem_cons]
  refine ⟨?_, ?_, ?_, ?_, ?_, List.forall_mem_nil _⟩ <;>
    exact ⟨by decide, rfl, rfl, rfl, rfl⟩

theorem find_datetimeDivide :
    Implementors.standard.find Catalog.datetimeDivide.id = .datetimeDivide := by
  rw [find_standard]
  rfl

theorem arithmeticInt_eq_ok {op : BinaryOp} (hop : op.isArithmetic = true) {a b : Int64}
    {v : Value} (h : arithmeticInt op a b = .ok v) : ∃ i, v = .int i := by
  have houtcome : Outcome (fun v => ∃ i, v = .int i) (arithmeticInt op a b) :=
    outcome_arithmeticInt hop (fun i => ⟨i, rfl⟩) a b
  rwa [h] at houtcome

theorem arithmeticInt_eq_error_iff {op : BinaryOp} (hop : op = .divide ∨ op = .mod)
    (a b : Int64) : arithmeticInt op a b = .error .divisionByZero ↔ b = 0 := by
  rcases hop with rfl | rfl <;> simp [arithmeticInt]

/-- What leaves integers as they are leaves the outcome as it is. -/
theorem arithmeticInt_bind {op : BinaryOp} (hop : op.isArithmetic = true)
    {f : Value → Except EvalError Value} (hf : ∀ i, f (.int i) = .ok (.int i)) (a b : Int64) :
    arithmeticInt op a b >>= f = arithmeticInt op a b := by
  cases hvalue : arithmeticInt op a b with
  | error e => rfl
  | ok v =>
    obtain ⟨i, rfl⟩ := arithmeticInt_eq_ok hop hvalue
    exact hf i

theorem combine_int {op : BinaryOp} (hop : op.isArithmetic = true) (a b : Int64) :
    op.combine (.ok (.int a)) (.ok (.int b)) = arithmeticInt op a b := by
  have happly : op.combine (.ok (.int a)) (.ok (.int b)) = applyBinary op (.int a) (.int b) := by
    cases op <;> first | rfl | cases hop
  rw [happly, applyBinary_arithmetic hop rfl rfl]
  rfl

/-- In every mode the expression comes to this integer, and its type is one that is held as an
integer. -/
structure Yields (row : List Value) (t : TypeName) (a : Int64) (n : Node) : Prop where
  type_name : n.type.name = t
  isInteger : (Kind.ofTypeName t).isInteger = true
  admitted : n.Everywhere Node.Admitted
  result (mode : NullMode) : result .standard row n mode = .ok (.int a)

section

variable {row : List Value} {t u : TypeName} {a b : Int64} {x y : Node}

theorem settle_int (ht : Conforms t (.int a)) {held : HostType}
    (hheld : held.isBoxedPrimitive = true → held.kind = Kind.ofTypeName t) (mode : NullMode) :
    mode.settle t held (.int a) = .ok (.int a) :=
  settle_of_conforms hheld ht (by simp) mode

theorem Yields.comesTo (h : Yields row t a x) (mode : NullMode) :
    ComesTo .standard row x mode (.ok (.int a)) := by
  rw [← h.result mode]
  exact comesTo_standard h.admitted mode

theorem yields_column (ht : (Kind.ofTypeName t).isInteger = true)
    (h : x.IsColumn row t (.int a)) : Yields row t a x := by
  cases x with
  | literal | call => cases h
  | input index name type =>
    obtain ⟨rfl, hrow⟩ := h
    refine ⟨rfl, ht, (Node.everywhere_input ..).2 trivial, fun mode => ?_⟩
    have hfield : field row index = .ok (.int a) := by rw [field, hrow]
    rw [Host.result, hfield, ok_bind]
    exact settle_int (Fits.int ht).conforms (fun _ => rfl) mode

variable (hx : Yields row t a x) (hy : Yields row u b y)

include hx hy

theorem admitted_inferred {op : Operator} (hop : op ∈ Catalog.all) (harity : op.arity = .two) :
    (Node.inferred op [x, y]).Everywhere Node.Admitted := by
  refine (Node.everywhere_call ..).2 ⟨⟨hop, by rw [harity]; rfl⟩, ?_⟩
  exact List.forall_mem_cons.2 ⟨hx.admitted, List.forall_mem_singleton.2 hy.admitted⟩

theorem result_arithmetic {c : Operator × BinaryOp} (hc : c ∈ Catalog.arithmetic)
    (mode : NullMode) :
    result .standard row (.inferred c.1 [x, y]) mode = arithmeticInt c.2 a b := by
  obtain ⟨-, -, hreturns, hop, hfind⟩ := find_of_mem_arithmetic c hc
  rw [Node.inferred, result_standard_call, hfind, hreturns]
  simp only [resultAll, Implementor.operandMode, Implementor.apply, onTwo, hx.result, hy.result,
    combine_int hop]
  have hl : (Kind.ofTypeName x.type.name).isInteger = true := hx.type_name ▸ hx.isInteger
  have hr : (Kind.ofTypeName y.type.name).isInteger = true := hy.type_name ▸ hy.isInteger
  exact arithmeticInt_bind hop
    (fun i => settle_int (fits_leastRestrictive_int hl hr i).conforms (fun _ => rfl) mode) a b

theorem comesTo_arithmetic_iff {c : Operator × BinaryOp} (hc : c ∈ Catalog.arithmetic)
    (mode : NullMode) (v : Except EvalError Value) :
    ComesTo .standard row (.inferred c.1 [x, y]) mode v ↔ arithmeticInt c.2 a b = v := by
  obtain ⟨hop, harity, -⟩ := find_of_mem_arithmetic c hc
  rw [comesTo_standard_iff (admitted_inferred hx hy hop harity), result_arithmetic hx hy hc mode]

theorem result_datetimeDivide (mode : NullMode) :
    result .standard row (.inferred Catalog.datetimeDivide [x, y]) mode =
      arithmeticInt .divide a b := by
  have hcombine : BinaryOp.divide.combine (.ok (.int a)) (.ok (.int b)) =
      arithmeticInt .divide a b := combine_int rfl a b
  rw [Node.inferred, result_standard_call, find_datetimeDivide]
  simp only [resultAll, Implementor.operandMode, Implementor.apply, onTwo, hx.result, hy.result,
    hcombine]
  -- The quotient is held as a long integer first, and then as the type of the call.
  rw [arithmeticInt_bind (f := (convertTo · ⟨.long, _⟩)) rfl (fun _ => rfl)]
  exact arithmeticInt_bind rfl
    (fun _ => settle_int (Fits.conforms (.int rfl)) (fun _ => rfl) mode) a b

theorem comesTo_datetimeDivide_iff (mode : NullMode) (v : Except EvalError Value) :
    ComesTo .standard row (.inferred Catalog.datetimeDivide [x, y]) mode v ↔
      arithmeticInt .divide a b = v := by
  rw [comesTo_standard_iff (admitted_inferred hx hy (by decide) rfl),
    result_datetimeDivide hx hy mode]

end

/-! ## Division -/

section

variable {row : List Value} {a b : Int64} {x y : Node}

/-- The quotient of two expressions, times the second, and their remainder added. -/
def recombined (x y : Node) : Node :=
  .inferred Catalog.plus [.inferred Catalog.times [.inferred Catalog.divide [x, y], y],
    .inferred Catalog.mod [x, y]]

variable (hx : Yields row .bigInt a x) (hy : Yields row .bigInt b y)

include hx hy

theorem yields_arithmetic {c : Operator × BinaryOp} (hc : c ∈ Catalog.arithmetic) {i : Int64}
    (h : arithmeticInt c.2 a b = .ok (.int i)) :
    Yields row .bigInt i (.inferred c.1 [x, y]) := by
  obtain ⟨hop, harity, hreturns, -, -⟩ := find_of_mem_arithmetic c hc
  refine ⟨?_, rfl, admitted_inferred hx hy hop harity, fun mode => ?_⟩
  · show (c.1.returns.infer [x.type, y.type]).name = .bigInt
    rw [hreturns]
    simp only [ReturnRule.infer, List.map_cons, List.map_nil, hx.type_name, hy.type_name]
    rfl
  · rw [result_arithmetic hx hy hc mode, h]

variable (hb : b ≠ 0)

include hb

theorem yields_quotient : Yields row .bigInt (a / b) (.inferred Catalog.divide [x, y]) :=
  yields_arithmetic hx hy Catalog.divide_mem_arithmetic (if_neg hb)

theorem yields_remainder : Yields row .bigInt (a % b) (.inferred Catalog.mod [x, y]) :=
  yields_arithmetic hx hy Catalog.mod_mem_arithmetic (if_neg hb)

theorem yields_recombined : Yields row .bigInt a (recombined x y) := by
  have hproduct : Yields row .bigInt (a / b * b)
      (.inferred Catalog.times [.inferred Catalog.divide [x, y], y]) :=
    yields_arithmetic (yields_quotient hx hy hb) hy Catalog.times_mem_arithmetic rfl
  have hsum : Yields row .bigInt (a / b * b + a % b) (recombined x y) :=
    yields_arithmetic hproduct (yields_remainder hx hy hb) Catalog.plus_mem_arithmetic rfl
  rwa [div_mul_add_mod] at hsum

end

/-- A division fails for a divisor of zero alone. Else the quotient and the remainder are those
of the integers, as far as they fit, and give the dividend back. An interval is divided as the
number that stands for it. -/
theorem comesTo_division {row : List Value} {a b : Int64} {x y z : Node} {t : TypeName}
    (hx : x.IsColumn row .bigInt (.int a)) (hy : y.IsColumn row .bigInt (.int b))
    (ht : t.isInterval = true) (hz : z.IsColumn row t (.int a)) (mode : NullMode) :
    (ComesTo .standard row (.inferred Catalog.divide [x, y]) mode (.error .divisionByZero) ↔
      b = 0) ∧
    (ComesTo .standard row (.inferred Catalog.mod [x, y]) mode (.error .divisionByZero) ↔
      b = 0) ∧
    (∀ v, ComesTo .standard row (.inferred Catalog.datetimeDivide [z, y]) mode v ↔
      ComesTo .standard row (.inferred Catalog.divide [x, y]) mode v) ∧
    (b ≠ 0 → ∃ q r, IsQuotient a b q ∧ IsRemainder a b r ∧
      ComesTo .standard row (.inferred Catalog.divide [x, y]) mode (.ok (.int q)) ∧
      ComesTo .standard row (.inferred Catalog.mod [x, y]) mode (.ok (.int r)) ∧
      ComesTo .standard row (recombined x y) mode (.ok (.int a))) := by
  have hinterval : (Kind.ofTypeName t).isInteger = true := by
    cases t <;> first | rfl | cases ht
  have hx := yields_column rfl hx
  have hy := yields_column rfl hy
  have hz := yields_column hinterval hz
  have hdivide := fun v => comesTo_arithmetic_iff hx hy Catalog.divide_mem_arithmetic mode v
  have hmod := fun v => comesTo_arithmetic_iff hx hy Catalog.mod_mem_arithmetic mode v
  have hdatetime := fun v => comesTo_datetimeDivide_iff hz hy mode v
  refine ⟨?_, ?_, fun v => (hdatetime v).trans (hdivide v).symm, fun hb => ?_⟩
  · exact (hdivide _).trans (arithmeticInt_eq_error_iff (.inl rfl) a b)
  · exact (hmod _).trans (arithmeticInt_eq_error_iff (.inr rfl) a b)
  · exact ⟨a / b, a % b, isQuotient_div a b, isRemainder_mod a hb,
      (yields_quotient hx hy hb).comesTo mode, (yields_remainder hx hy hb).comesTo mode,
      (yields_recombined hx hy hb).comesTo mode⟩

namespace Wrapping

/-- The least integer and minus one. -/
def row : List Value := [.int Int64.minValue, .int (-1)]

def dividend : Node := .input 0 none (.orNull .bigInt)

def divisor : Node := .input 1 (some "divisor") (.notNull .bigInt)

def interval : Node := .input 0 (some "elapsed") (.orNull .intervalYearMonth)

/-- The quotient wraps around, and so does its product with the divisor. -/
theorem comesTo_least :
    (dividend.IsColumn row .bigInt (.int Int64.minValue) ∧
      divisor.IsColumn row .bigInt (.int (-1)) ∧ TypeName.intervalYearMonth.isInterval = true ∧
      interval.IsColumn row .intervalYearMonth (.int Int64.minValue) ∧ (-1 : Int64) ≠ 0) ∧
    ComesTo .standard row (.inferred Catalog.datetimeDivide [interval, divisor]) .notPossible
        (.ok (.int Int64.minValue)) ∧
      ComesTo .standard row (.inferred Catalog.mod [dividend, divisor]) .notPossible
        (.ok (.int 0)) ∧
      ComesTo .standard row (recombined dividend divisor) .notPossible
        (.ok (.int Int64.minValue)) := by
  have hdividend : dividend.IsColumn row .bigInt (.int Int64.minValue) := ⟨rfl, rfl⟩
  have hdivisor : divisor.IsColumn row .bigInt (.int (-1)) := ⟨rfl, rfl⟩
  have hinterval : interval.IsColumn row .intervalYearMonth (.int Int64.minValue) := ⟨rfl, rfl⟩
  have hne : (-1 : Int64) ≠ 0 := by decide
  obtain ⟨-, -, hsame, hvalues⟩ :=
    comesTo_division hdividend hdivisor rfl hinterval .notPossible
  obtain ⟨q, r, hq, hr, hquotient, hremainder, hwhole⟩ := hvalues hne
  have hleast : q = Int64.minValue := by rwa [IsQuotient, if_pos ⟨rfl, rfl⟩] at hq
  have hzero : r = 0 := by
    rcases hr with hr | ⟨-, hsmall⟩
    · exact hr
    · have hone : (-1 : Int64).toInt.natAbs = 1 := rfl
      rw [← Int64.toInt_inj, Int64.toInt_zero]
      omega
  rw [hleast] at hquotient
  rw [hzero] at hremainder
  exact ⟨⟨hdividend, hdivisor, rfl, hinterval, hne⟩, (hsame _).2 hquotient, hremainder, hwhole⟩

end Wrapping

end Host

end RowExpr
