import RowExpr.Host.Eval
import RowExpr.Proofs.Node.Everywhere

/-!
# Types and values

Which values belong to a type, what conversions keep, what type rules make of types, and which
expressions are typed: calls of standard operators with the type that was inferred, on operands
that were checked.
-/

namespace RowExpr

/-! ## Values of a type -/

def Host.Kind.holds : Kind → Value → Bool
  | .object, _ => true
  | .bool, .bool _ | .int, .int _ | .long, .int _ => true
  | .double, .float _ | .string, .string _ | .symbol, .flag _ => true
  | _, _ => false

def Host.Kind.isInteger (k : Kind) : Bool := k == .int || k == .long

def Host.Kind.isNumber (k : Kind) : Bool := k.isInteger || k == .double

/-- What a literal or a column of a type holds. -/
def Conforms (t : TypeName) (v : Value) : Prop :=
  v = .null ∨ t ≠ .null ∧ (Host.Kind.ofTypeName t).holds v = true

/-- What an expression of a type comes to. No type but a number is ever `ANY`. -/
inductive Fits : TypeName → Value → Prop
  | null {t : TypeName} : Fits t .null
  | bool {b : Bool} : Fits .boolean (.bool b)
  | int {t : TypeName} {i : Int64} :
    (Host.Kind.ofTypeName t).isInteger = true → Fits t (.int i)
  | float {t : TypeName} {x : Float} : Host.Kind.ofTypeName t = .double → Fits t (.float x)
  | string {t : TypeName} {s : String} : Host.Kind.ofTypeName t = .string → Fits t (.string s)
  | flag {f : TrimFlag} : Fits .symbol (.flag f)
  | anyInt {i : Int64} : Fits .any (.int i)
  | anyFloat {x : Float} : Fits .any (.float x)

theorem Fits.of_conforms {t : TypeName} {v : Value} (ht : t ≠ .any) (h : Conforms t v) :
    Fits t v := by
  rcases h with rfl | ⟨hnull, hholds⟩
  · exact .null
  cases v with
  | null => exact .null
  | bool b => cases t <;> first | exact .bool | contradiction
  | int i => cases t <;> first | exact .int rfl | contradiction
  | float x => cases t <;> first | exact .float rfl | contradiction
  | string s => cases t <;> first | exact .string rfl | contradiction
  | flag f => cases t <;> first | exact .flag | contradiction

theorem Fits.holds {t : TypeName} {v : Value} (h : Fits t v) :
    v = .null ∨ (Host.Kind.ofTypeName t).holds v = true := by
  cases h with
  | null => exact .inl rfl
  | int h =>
    simp only [Host.Kind.isInteger, Bool.or_eq_true, beq_iff_eq] at h
    rcases h with h | h <;> simp [h, Host.Kind.holds]
  | float h | string h => simp [h, Host.Kind.holds]
  | bool | flag | anyInt | anyFloat => exact .inr rfl

theorem Fits.eq_null {v : Value} (h : Fits .null v) : v = .null := by
  cases h <;> first | rfl | contradiction

/-! ## Conversions -/

namespace Host

theorem eq_null_of_convertTo {t : HostType} {v : Value} (h : convertTo .null t = .ok v) :
    v = .null := by
  rw [convertTo_null] at h
  split at h <;> cases h
  rfl

theorem convertTo_of_holds {t : HostType} {v : Value} (hv : v ≠ .null)
    (h : t.kind.holds v = true) : convertTo v t = .ok v := by
  obtain ⟨kind, boxed⟩ := t
  cases kind <;> cases v <;> first | contradiction | rfl

theorem holds_of_convertTo {t : HostType} {v w : Value} (hv : v ≠ .null)
    (h : convertTo v t = .ok w) : w ≠ .null ∧ t.kind.holds w = true := by
  obtain ⟨kind, boxed⟩ := t
  cases v with
  | null => exact absurd rfl hv
  | _ =>
    cases kind <;> cases h
    all_goals exact ⟨by simp, rfl⟩

/-- What was converted to a type stays as it is. -/
theorem convertTo_of_converted {t : HostType} {v w : Value} (h : convertTo v t = .ok w) :
    convertTo w t = .ok w := by
  by_cases hv : v = .null
  · subst hv
    cases eq_null_of_convertTo h
    exact h
  · obtain ⟨hw, hholds⟩ := holds_of_convertTo hv h
    exact convertTo_of_holds hw hholds

theorem convertTo_inBox {k : Kind} {v : Value} (h : v = .null ∨ k.holds v = true) :
    convertTo v (.inBox k) = .ok v := by
  by_cases hv : v = .null
  · rw [hv, convertTo_null]
    rfl
  · exact convertTo_of_holds hv (h.resolve_left hv)

theorem convertTo_nullify {t : SqlType} {v : Value}
    (h : v = .null ∨ (Kind.ofTypeName t.name).holds v = true) :
    convertTo v (.ofSqlType t.nullify) = .ok v := by
  have hbox : HostType.ofSqlType t.nullify = .inBox (Kind.ofTypeName t.name) := by
    simp [HostType.ofSqlType, HostType.inBox, SqlType.nullify]
  rw [hbox]
  exact convertTo_inBox h

end Host

/-! ## Types of operands -/

theorem Fits.truth {t : TypeName} (ht : t = .boolean ∨ t = .null) {v : Value} (h : Fits t v) :
    v = .null ∨ ∃ b, v = .bool b := by
  rcases ht with rfl | rfl
  · cases h <;> first | exact .inl rfl | exact .inr ⟨_, rfl⟩ | contradiction
  · exact .inl h.eq_null

/-- A numeric operand holds an integer or a float, as its type says, or null. -/
theorem Fits.number {t : SqlType} {v : Value} (h : Fits t.name v)
    (ht : OperandRule.isNumberOrInterval t = true) :
    v = .null ∨
      (∃ i, v = .int i ∧ (Host.Kind.ofTypeName t.name).isInteger = true) ∨
      ∃ x, v = .float x ∧ Host.Kind.ofTypeName t.name = .double := by
  obtain ⟨name, nullable⟩ := t
  cases h with
  | null => exact .inl rfl
  | int hk => exact .inr (.inl ⟨_, rfl, hk⟩)
  | float hk => exact .inr (.inr ⟨_, rfl, hk⟩)
  | bool | flag | anyInt | anyFloat => cases ht
  | string hk => cases name <;> contradiction

theorem Fits.text {t : SqlType} {v : Value} (h : Fits t.name v)
    (ht : OperandRule.isText t = true) (hv : v ≠ .null) :
    ∃ s, v = .string s ∧ Host.Kind.ofTypeName t.name = .string := by
  obtain ⟨name, nullable⟩ := t
  cases h with
  | null => exact absurd rfl hv
  | string hk => exact ⟨_, rfl, hk⟩
  | bool | flag | anyInt | anyFloat => cases ht
  | int hk | float hk => cases name <;> contradiction

theorem Fits.integral {t : TypeName} {v : Value} (h : Fits t v) (ht : t.isIntegral = true)
    (hv : v ≠ .null) : ∃ i, v = .int i := by
  cases h with
  | null => exact absurd rfl hv
  | int => exact ⟨_, rfl⟩
  | bool | flag | anyInt | anyFloat => cases ht
  | float hk | string hk => cases t <;> contradiction

theorem Fits.symbol {v : Value} (h : Fits .symbol v) (hv : v ≠ .null) : ∃ f, v = .flag f := by
  cases h <;> first | contradiction | exact ⟨_, rfl⟩

theorem OperandRule.all_isNumberOrInterval {rule : OperandRule}
    (hrule : rule.isNumericOrTemporal = true) {ts : List SqlType} (h : rule.accepts ts = true) :
    ∀ t ∈ ts, isNumberOrInterval t = true := by
  cases rule <;> simp only [isNumericOrTemporal, Bool.false_eq_true] at hrule
  · intro t ht
    have := List.all_eq_true.1 h t ht
    simp [isNumberOrInterval, this]
  · exact List.all_eq_true.1 h
  · match ts, h with
    | [l, r], h =>
      simp only [accepts, Bool.and_eq_true] at h
      have hr : isNumberOrInterval r = true := by simp [isNumberOrInterval, h.2]
      simp [h.1, hr]

/-! ## Types of results -/

theorem leastRestrictive_isNumeric (l r : TypeName) :
    (leastRestrictive? [l, r]).getD .any = .any ∨
      ((leastRestrictive? [l, r]).getD .any).isNumeric = true := by
  cases h : leastRestrictive? [l, r] with
  | none => exact .inl rfl
  | some t =>
    simp only [leastRestrictive?, List.foldlM, bind_pure] at h
    exact .inr (TypeName.isNumeric_of_promote h).2.2

theorem fits_leastRestrictive_int {l r : TypeName}
    (hl : (Host.Kind.ofTypeName l).isInteger = true)
    (hr : (Host.Kind.ofTypeName r).isInteger = true) (i : Int64) :
    Fits ((leastRestrictive? [l, r]).getD .any) (.int i) := by
  cases l <;> first
    | contradiction
    | cases r <;> first | contradiction | exact .int rfl | exact .anyInt

theorem fits_leastRestrictive_float {l r : TypeName}
    (hl : (Host.Kind.ofTypeName l).isNumber = true)
    (hr : (Host.Kind.ofTypeName r).isNumber = true)
    (h : Host.Kind.ofTypeName l = .double ∨ Host.Kind.ofTypeName r = .double) (x : Float) :
    Fits ((leastRestrictive? [l, r]).getD .any) (.float x) := by
  cases l <;> first
    | contradiction
    | cases r <;> first | contradiction | exact .float rfl | exact .anyFloat

/-! ## Typed expressions -/

namespace Node

/-- A call of a standard operator, of the type that is inferred, on operands that it takes. -/
def Checked : Node → Prop
  | call op operands type =>
    op ∈ Catalog.all ∧ infer op operands = .ok (call op operands type) ∧
      checkOperands op operands = .ok ()
  | _ => True

def ComparesNoFlags : Node → Prop
  | call op operands _ => op.operands = .comparable → ∀ n ∈ operands, n.type.name ≠ .symbol
  | _ => True

/-- A leaf of a type but `ANY`, with a value of that type in the literal or in the row. -/
def LeafConforms (row : List Value) : Node → Prop
  | literal v type => type.name ≠ .any ∧ Conforms type.name v
  | input index _ type =>
    type.name ≠ .any ∧ ∃ v, row[index.toNat]? = some v ∧ Conforms type.name v
  | _ => True

theorem checked_call {op : Operator} {ns : List Node} {type : SqlType}
    (h : (call op ns type).Checked) :
    op ∈ Catalog.all ∧ op.arity.admits ns.length = true ∧
      op.operands.accepts (types ns) = true ∧ type = op.returns.infer (types ns) := by
  obtain ⟨hop, hinfer, hcheck⟩ := h
  obtain ⟨htype, hcount⟩ := ofCall_eq_ok_iff.1 hinfer
  have haccepts : op.operands.accepts (types ns) = true := by
    unfold checkOperands at hcheck
    split at hcheck
    · assumption
    · cases hcheck
  cases htype
  exact ⟨hop, hcount, haccepts, rfl⟩

end Node

end RowExpr
