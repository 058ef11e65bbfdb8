import Mathlib.Data.List.Forall2
import RowExpr.Proofs.Host.Methods

/-!
# Calls of the standard operators

Each standard operator has an implementor that goes with its type rules: on operands that come
to values of their types, a call comes to a value of the inferred type, or fails as a typed
expression may.
-/

namespace RowExpr.Host

def SoundAs (row : List Value) (t : TypeName) (r : Except LowerError Expr) : Prop :=
  ∃ e, r = .ok e ∧ Outcome (Fits t) (e.eval .standard row)

def Operand.Sound (row : List Value) (o : Operand) : Prop :=
  SoundAs row o.type.name (o.lower .null)

variable {row : List Value}

/-! ## Operators -/

section

variable (op : Operator) {host : BinaryOp} {l r : Operand} {t : TypeName}

theorem eval_binary (hlogic : host ≠ .andAlso ∧ host ≠ .orElse) (methods : MethodTable)
    (a b : Expr) (type : HostType) :
    (Expr.binary host a b type).eval methods row =
      a.eval methods row >>= fun left => b.eval methods row >>= fun right =>
        applyBinary host left right := by
  cases host <;> first | rfl | simp at hlogic

theorem soundAs_binary (hlogic : host ≠ .andAlso ∧ host ≠ .orElse) (hl : l.Sound row)
    (hr : r.Sound row)
    (happly : ∀ a b, Fits l.type.name a → Fits r.type.name b →
      Outcome (Fits t) (applyBinary host a b)) (type : SqlType) :
    SoundAs row t (implementBinary op host .null type [l, r]) := by
  obtain ⟨el, hel, hl⟩ := hl
  obtain ⟨er, her, hr⟩ := hr
  refine ⟨.binary host el er (.ofSqlType type), ?_, ?_⟩
  · simp only [implementBinary, hel, her]
    rfl
  · rw [eval_binary hlogic]
    exact hl.bind fun a ha => hr.bind fun b hb => happly a b ha hb

theorem soundAs_logical (hhost : host = .andAlso ∨ host = .orElse) (hl : l.Sound row)
    (hr : r.Sound row) (hlt : l.type.name = .boolean ∨ l.type.name = .null)
    (hrt : r.type.name = .boolean ∨ r.type.name = .null) (type : SqlType) :
    SoundAs row .boolean (implementBinary op host .null type [l, r]) := by
  obtain ⟨el, hel, hl⟩ := hl
  obtain ⟨er, her, hr⟩ := hr
  refine ⟨.binary host el er (.ofSqlType type), ?_, ?_⟩
  · simp only [implementBinary, hel, her]
    rfl
  · rcases hhost with rfl | rfl
    · exact hl.bind fun a ha => outcome_conjunction hlt hrt ha hr
    · exact hl.bind fun a ha => outcome_disjunction hlt hrt ha hr

theorem soundAs_unary {host : UnaryOp} {o : Operand} (ho : o.Sound row)
    (happly : ∀ v, Fits o.type.name v → Outcome (Fits t) (applyUnary host v)) (type : HostType) :
    SoundAs row t (implementUnary op host .null type [o]) := by
  obtain ⟨e, he, ho⟩ := ho
  refine ⟨.unary host e type, ?_, ho.bind happly⟩
  simp only [implementUnary, he]
  rfl

end

/-! ## Method calls -/

/-- Operands reach the method as they were, or the first that fails decides. -/
theorem outcome_methodArgs {os : List Operand} {params : List HostType}
    (htakes : List.Forall₂ (fun (o : Operand) p => Takes p o.type.name) os params)
    (hos : ∀ o ∈ os, o.Sound row) :
    ∃ args, methodArgs .null os params = .ok args ∧
      Outcome (List.Forall₂ (fun (o : Operand) v => Fits o.type.name v) os)
        (Expr.evalAll .standard row args) := by
  induction htakes with
  | nil => exact ⟨[], rfl, .nil⟩
  | @cons o p os params htake _ ih =>
    obtain ⟨e, he, hvalue⟩ := hos o List.mem_cons_self
    obtain ⟨args, hargs, hrest⟩ := ih fun o ho => hos o (List.mem_cons_of_mem _ ho)
    let arg := Expr.convert e (.ofSqlType o.type.nullify)
    let passed := if HostType.ofSqlType o.type.nullify = p then arg else .convert arg p
    have harg : Outcome (Fits o.type.name) (arg.eval .standard row) := by
      refine hvalue.bind fun v hv => ?_
      rw [convertTo_nullify hv.holds]
      exact hv
    have hpassed : Outcome (Fits o.type.name) (passed.eval .standard row) := by
      unfold passed
      split
      · exact harg
      · refine harg.bind fun v hv => ?_
        rw [htake v hv]
        exact hv
    refine ⟨passed :: args, ?_, ?_⟩
    · simp only [methodArgs, he, hargs]
      rfl
    · exact hpassed.bind fun v hv => hrest.bind fun vs hvs => .cons hv hvs

theorem resolve_standard {m : Method} (hm : m ∈ Standard.methods) :
    MethodTable.standard.resolve m.owner m.name m.params.length = some m := by
  rw [MethodTable.standard, MethodTable.resolve_ofList]
  simp only [Standard.methods, List.mem_cons, List.not_mem_nil, or_false] at hm
  rcases hm with rfl | rfl | rfl | rfl | rfl | rfl | rfl | rfl | rfl <;> rfl

theorem soundAs_method {m : Method} {os : List Operand} {t : TypeName} (hm : m ∈ Standard.methods)
    (hos : ∀ o ∈ os, o.Sound row)
    (htakes : List.Forall₂ (fun (o : Operand) p => Takes p o.type.name) os m.params)
    (hbody : ∀ vs, List.Forall₂ (fun (o : Operand) v => Fits o.type.name v) os vs →
      Outcome (Fits t) (m.body vs)) :
    SoundAs row t (implementMethod .standard m.owner m.name .null os) := by
  have hcontains : MethodTable.standard.contains m.owner m.name = true := by
    rw [MethodTable.standard, MethodTable.contains_ofList, List.any_eq_true]
    exact ⟨m, hm, by simp⟩
  have hresolve : MethodTable.standard.resolve m.owner m.name os.length = some m := by
    rw [htakes.length_eq, resolve_standard hm]
  obtain ⟨args, hargs, hvalues⟩ := outcome_methodArgs htakes hos
  refine ⟨.call m.owner m.name args m.returns, ?_, ?_⟩
  · simp only [implementMethod, hcontains, hresolve, hargs]
    rfl
  · refine hvalues.bind fun vs hvs => ?_
    rw [MethodTable.invoke, ← hvs.length_eq, hresolve]
    exact hbody vs hvs

/-! ## Implementors -/

/-- What a call that was checked gives to its operator. -/
structure Supplied (row : List Value) (op : Operator) (os : List Operand) : Prop where
  count : op.arity.admits os.length = true
  accepts : op.operands.accepts (os.map (·.type)) = true
  noFlags : op.operands = .comparable → ∀ o ∈ os, o.type.name ≠ .symbol
  sound : ∀ o ∈ os, o.Sound row

/-- Lowered this way, calls of the operator come to values of the inferred type. -/
def Implements (i : Implementor) (op : Operator) : Prop :=
  ∀ row os, Supplied row op os →
    SoundAs row (op.returns.infer (os.map (·.type))).name
      (i.implement .standard op os (op.returns.infer (os.map (·.type))) .null)

section

variable {op : Operator} {os : List Operand}

theorem Supplied.single (h : Supplied row op os) (harity : op.arity = .one) :
    ∃ o, os = [o] ∧ o.Sound row := by
  have hcount := h.count
  rw [harity] at hcount
  obtain ⟨o, rfl⟩ := Arity.eq_singleton_of_admits_one hcount
  exact ⟨o, rfl, h.sound o List.mem_cons_self⟩

theorem Supplied.pair (h : Supplied row op os) (harity : op.arity = .two) :
    ∃ l r, os = [l, r] ∧ l.Sound row ∧ r.Sound row := by
  have hcount := h.count
  rw [harity] at hcount
  obtain ⟨l, r, rfl⟩ := Arity.eq_pair_of_admits_two hcount
  exact ⟨l, r, rfl, h.sound l (by simp), h.sound r (by simp)⟩

theorem Supplied.truth (h : Supplied row op os) (hrule : op.operands = .boolean) :
    ∀ o ∈ os, o.type.name = .boolean ∨ o.type.name = .null := by
  intro o ho
  have haccepts := h.accepts
  rw [hrule] at haccepts
  simpa using List.all_eq_true.1 haccepts o.type (List.mem_map_of_mem ho)

theorem Supplied.number (h : Supplied row op os)
    (hrule : op.operands.isNumericOrTemporal = true) :
    ∀ o ∈ os, OperandRule.isNumberOrInterval o.type = true := fun _ ho =>
  OperandRule.all_isNumberOrInterval hrule h.accepts _ (List.mem_map_of_mem ho)

end

section

variable {op : Operator} {host : BinaryOp}

theorem implements_arithmetic (hhost : host.isArithmetic = true) (harity : op.arity = .two)
    (hrule : op.operands.isNumericOrTemporal = true) (hreturns : op.returns = .leastRestrictive) :
    Implements (.binary host) op := by
  intro row os h
  obtain ⟨l, r, rfl, hl, hr⟩ := h.pair harity
  have hnumbers := h.number hrule
  have hlogic : host ≠ .andAlso ∧ host ≠ .orElse := by
    cases host <;> first | contradiction | simp
  rw [hreturns]
  exact soundAs_binary op hlogic hl hr
    (fun a b => outcome_arithmetic hhost (hnumbers l (by simp)) (hnumbers r (by simp))) _

theorem implements_comparison (hhost : host.test?.isSome = true) (harity : op.arity = .two)
    (hrule : op.operands = .comparable) (hreturns : op.returns = .boolean) :
    Implements (.binary host) op := by
  intro row os h
  obtain ⟨l, r, rfl, hl, hr⟩ := h.pair harity
  have hcomparable := h.accepts
  have hflag := h.noFlags hrule l (by simp)
  have hlogic : host ≠ .andAlso ∧ host ≠ .orElse := by
    cases host <;> first | contradiction | simp
  rw [hrule] at hcomparable
  rw [hreturns]
  exact soundAs_binary op hlogic hl hr
    (fun a b => outcome_comparison hhost hcomparable hflag) _

theorem implements_logical (hhost : host = .andAlso ∨ host = .orElse) (harity : op.arity = .two)
    (hrule : op.operands = .boolean) (hreturns : op.returns = .boolean) :
    Implements (.binary host) op := by
  intro row os h
  obtain ⟨l, r, rfl, hl, hr⟩ := h.pair harity
  rw [hreturns]
  exact soundAs_logical op hhost hl hr (h.truth hrule l (by simp)) (h.truth hrule r (by simp)) _

theorem implements_datetimeDivide (harity : op.arity = .two)
    (hrule : op.operands.isNumericOrTemporal = true) (hreturns : op.returns = .fixed .bigInt) :
    Implements .datetimeDivide op := by
  intro row os h
  obtain ⟨l, r, rfl, hl, hr⟩ := h.pair harity
  have hnumbers := h.number hrule
  have hdivide : BinaryOp.divide.isArithmetic = true := rfl
  obtain ⟨e, he, hquotient⟩ := soundAs_binary op (by simp) hl hr
    (fun a b => outcome_arithmetic hdivide (hnumbers l (by simp)) (hnumbers r (by simp)))
    (op.returns.infer [l.type, r.type])
  refine ⟨.convert e ⟨.long, (op.returns.infer [l.type, r.type]).nullable⟩, ?_, ?_⟩
  · simp only [Implementor.implement, List.map_cons, List.map_nil, he]
    rfl
  · rw [hreturns]
    exact hquotient.bind fun v hv => outcome_convertTo_long (leastRestrictive_isNumeric _ _) hv _

theorem implements_not (harity : op.arity = .one) (hrule : op.operands = .boolean)
    (hreturns : op.returns = .boolean) : Implements (.unary .not) op := by
  intro row os h
  obtain ⟨o, rfl, ho⟩ := h.single harity
  rw [hreturns]
  exact soundAs_unary op ho (fun v => outcome_not (h.truth hrule o (by simp))) _

theorem implements_negate (harity : op.arity = .one)
    (hrule : op.operands.isNumericOrTemporal = true) (hreturns : op.returns = .firstOperand) :
    Implements (.unary .negate) op := by
  intro row os h
  obtain ⟨o, rfl, ho⟩ := h.single harity
  rw [hreturns]
  exact soundAs_unary op ho (fun v => outcome_negate (h.number hrule o (by simp))) _

theorem implements_nullTest {i : Implementor} (hi : i = .isNull ∨ i = .isNotNull)
    (harity : op.arity = .one) (hreturns : op.returns = .booleanNotNull) : Implements i op := by
  intro row os h
  obtain ⟨o, rfl, ho⟩ := h.single harity
  rw [hreturns]
  rcases hi with rfl | rfl
  · exact soundAs_unary op ho (fun v _ => outcome_isNull v) _
  · exact soundAs_unary op ho (fun v _ => outcome_isNotNull v) _

end

/-! ## Functions -/

section

open Standard

theorem implements_function {op : Operator} {m : Method} {param : HostType}
    (hm : m ∈ methods) (hparams : m.params = [param]) (harity : op.arity = .one)
    (htakes : ∀ t, op.operands.accepts [t] = true → Takes param t.name)
    (hbody : ∀ t v, op.operands.accepts [t] = true → Fits t.name v →
      Outcome (Fits (op.returns.infer [t]).name) (m.body [v])) :
    Implements (.method m.owner m.name) op := by
  intro row os h
  obtain ⟨o, rfl, -⟩ := h.single harity
  refine soundAs_method hm h.sound ?_ fun vs hvs => ?_
  · rw [hparams]
    exact .cons (htakes _ h.accepts) .nil
  · cases hvs with
    | cons hv hnil =>
      cases hnil
      exact hbody _ _ h.accepts hv

theorem isText_of_accepts {t : SqlType} (h : OperandRule.character.accepts [t] = true) :
    OperandRule.isText t = true :=
  List.all_eq_true.1 h t List.mem_cons_self

theorem implements_upper : Implements (.method owner "upper") Catalog.upper :=
  implements_function (m := strictMethod "upper" [stringType] stringType upperBody)
    (by simp [methods]) rfl rfl (fun _ ht => takes_string (isText_of_accepts ht))
    fun _ _ ht => outcome_upper (isText_of_accepts ht)

theorem implements_lower : Implements (.method owner "lower") Catalog.lower :=
  implements_function (m := strictMethod "lower" [stringType] stringType lowerBody)
    (by simp [methods]) rfl rfl (fun _ ht => takes_string (isText_of_accepts ht))
    fun _ _ ht => outcome_lower (isText_of_accepts ht)

theorem implements_charLength : Implements (.method owner "charLength") Catalog.charLength :=
  implements_function (m := strictMethod "charLength" [stringType] intType charLengthBody)
    (by simp [methods]) rfl rfl (fun _ ht => takes_string (isText_of_accepts ht))
    fun _ _ ht => outcome_charLength (isText_of_accepts ht)

theorem implements_abs : Implements (.method owner "abs") Catalog.abs :=
  implements_function (m := strictMethod "abs" [objectType] objectType absBody)
    (by simp [methods]) rfl rfl (fun t _ => takes_object t.name)
    fun t _ ht => outcome_abs (List.all_eq_true.1 ht t List.mem_cons_self)

theorem implements_nullIndicator :
    Implements (.method owner "nullIndicator") Catalog.nullIndicator :=
  implements_function
    (m := ⟨owner, "nullIndicator", [objectType], .primitive .int, nullIndicatorBody⟩)
    (by simp [methods]) rfl rfl (fun t _ => takes_object t.name)
    fun _ v _ _ => outcome_nullIndicator v

theorem implements_pi : Implements (.method owner "pi") Catalog.pi := by
  intro row os h
  obtain rfl := Arity.eq_nil_of_admits_zero h.count
  exact soundAs_method (m := ⟨owner, "pi", [], .primitive .double, piBody⟩)
    (by simp [methods]) h.sound .nil fun _ _ => .float rfl

theorem implements_trim : Implements (.method owner "trim") Catalog.trim := by
  intro row os h
  obtain ⟨flag, chars, source, rfl⟩ := Arity.eq_triple_of_admits_three h.count
  have haccepts := h.accepts
  simp only [Catalog.trim, List.map_cons, List.map_nil, OperandRule.accepts, Bool.and_eq_true,
    beq_iff_eq] at haccepts
  obtain ⟨⟨hflag, hchars⟩, hsource⟩ := haccepts
  refine soundAs_method
    (m := strictMethod "trim" [.inBox .symbol, stringType, stringType] stringType trimBody)
    (by simp [methods]) h.sound ?_ fun vs hvs => ?_
  · exact .cons (hflag ▸ takes_symbol) (.cons (takes_string hchars)
      (.cons (takes_string hsource) .nil))
  · rcases hvs with _ | ⟨hf, _ | ⟨hc, _ | ⟨hv, _ | _⟩⟩⟩
    rw [hflag] at hf
    exact outcome_trim hsource hv hf hchars hc

/-- A substring without a length is a method of its own. -/
theorem implements_substring : Implements (.method owner "substring") Catalog.substring := by
  intro row os h
  have haccepts := h.accepts
  match os, h with
  | [source, start], h =>
    simp only [Catalog.substring, List.map_cons, List.map_nil, OperandRule.accepts,
      Bool.and_eq_true] at haccepts
    obtain ⟨hsource, hstart⟩ := haccepts
    refine soundAs_method
      (m := strictMethod "substring" [stringType, intType] stringType substringBody)
      (by simp [methods]) h.sound ?_ fun vs hvs => ?_
    · exact .cons (takes_string hsource) (.cons (takes_int hstart) .nil)
    · rcases hvs with _ | ⟨hs, _ | ⟨hi, _ | _⟩⟩
      exact outcome_substring hsource hs hstart hi
  | [source, start, length], h =>
    simp only [Catalog.substring, List.map_cons, List.map_nil, OperandRule.accepts,
      Bool.and_eq_true] at haccepts
    obtain ⟨⟨hsource, hstart⟩, hlength⟩ := haccepts
    refine soundAs_method
      (m := strictMethod "substring" [stringType, intType, intType] stringType substringBody)
      (by simp [methods]) h.sound ?_ fun vs hvs => ?_
    · exact .cons (takes_string hsource) (.cons (takes_int hstart) (.cons (takes_int hlength) .nil))
    · rcases hvs with _ | ⟨hs, _ | ⟨hi, _ | ⟨hn, _ | _⟩⟩⟩
      exact outcome_substringFor hsource hs hstart hlength hi hn

end

/-! ## The catalog -/

/-- Every standard operator has an implementor that goes with its type rules. -/
theorem implements_standard {op : Operator} (hop : op ∈ Catalog.all) :
    Implements (Implementors.standard.find op.id) op := by
  rw [Implementors.standard, Implementors.find_ofList]
  simp only [Catalog.all, List.mem_cons, List.not_mem_nil, or_false] at hop
  rcases hop with rfl | rfl | rfl | rfl | rfl | rfl | rfl | rfl | rfl | rfl | rfl | rfl | rfl |
    rfl | rfl | rfl | rfl | rfl | rfl | rfl | rfl | rfl | rfl | rfl | rfl | rfl
  · exact implements_logical (.inr rfl) rfl rfl rfl
  · exact implements_logical (.inl rfl) rfl rfl rfl
  · exact implements_not rfl rfl rfl
  · exact implements_nullTest (.inl rfl) rfl rfl
  · exact implements_nullTest (.inr rfl) rfl rfl
  iterate 6 exact implements_comparison rfl rfl rfl rfl
  iterate 5 exact implements_arithmetic rfl rfl rfl rfl
  · exact implements_datetimeDivide rfl rfl rfl
  · exact implements_negate rfl rfl rfl
  · exact implements_trim
  · exact implements_substring
  · exact implements_upper
  · exact implements_lower
  · exact implements_charLength
  · exact implements_abs
  · exact implements_pi
  · exact implements_nullIndicator

end RowExpr.Host
