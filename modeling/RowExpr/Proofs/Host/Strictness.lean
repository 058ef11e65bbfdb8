import RowExpr.Proofs.Host.StandardTables

/-!
# Strict calls

A call lowers its operands in its own mode, unless it is `IS NULL` or `IS NOT NULL`. Every
operator but `AND` and `OR` looks at all its operands, and gives null where one of them is null
unless it tests for that.
-/

namespace RowExpr

namespace Node

/-- The operands that are lowered in the mode of the expression. -/
def passed : Node → List Node
  | call op ns _ => if op = Catalog.isNull ∨ op = Catalog.isNotNull then [] else ns
  | _ => []

/-- Holds of the expression, and of all expressions inside it that are lowered in its mode. -/
inductive InMode (p : Node → Prop) : Node → Prop
  | intro {n : Node} : p n → (∀ m ∈ n.passed, InMode p m) → InMode p n

variable {p : Node → Prop} {n m : Node}

theorem InMode.here (h : n.InMode p) : p n := by
  cases h
  assumption

theorem InMode.inside (h : n.InMode p) : ∀ m ∈ n.passed, m.InMode p := by
  cases h
  assumption

theorem operand_of_passed (h : m ∈ n.passed) : m ∈ n.operands := by
  cases n with
  | literal | input => exact h
  | call op ns type =>
    by_cases hop : op = Catalog.isNull ∨ op = Catalog.isNotNull
    · rw [passed, if_pos hop] at h
      cases h
    · rwa [passed, if_neg hop] at h

end Node

namespace Host

/-! ## Implementors -/

namespace Implementor

def isLogical : Implementor → Bool
  | binary .andAlso | binary .orElse => true
  | _ => false

def testsNull : Implementor → Bool
  | unary .isNull | unary .isNotNull | isNull | isNotNull => true
  | method _ name => name == "nullIndicator"
  | _ => false

end Implementor

theorem operand_of_passTo {o : Evaluated} {param : HostType} {v : Value}
    (h : o.passTo param = .ok v) : ∃ w, o.result = .ok w ∧ (w = .null → v = .null) := by
  obtain ⟨w, hw, h⟩ := bind_eq_ok_iff.1 h
  refine ⟨w, hw, ?_⟩
  rintro rfl
  obtain ⟨u, hu, h⟩ := bind_eq_ok_iff.1 h
  cases eq_null_of_convertTo hu
  split at h
  · cases h
    rfl
  · exact eq_null_of_convertTo h

theorem operands_of_passAll {os : List Evaluated} {params : List HostType} {vs : List Value}
    (hcount : params.length = os.length) (h : passAll os params = .ok vs) :
    ∀ o ∈ os, ∃ w, o.result = .ok w ∧ (w = .null → Value.null ∈ vs) := by
  induction os generalizing params vs with
  | nil => exact List.forall_mem_nil _
  | cons first os ih =>
    cases params with
    | nil => cases hcount
    | cons param params =>
      obtain ⟨v, hv, h⟩ := bind_eq_ok_iff.1 h
      obtain ⟨rest, hrest, h⟩ := bind_eq_ok_iff.1 h
      cases h
      intro o ho
      rcases List.mem_cons.1 ho with rfl | ho
      · obtain ⟨w, hw, hnull⟩ := operand_of_passTo hv
        exact ⟨w, hw, fun hw => by simp [hnull hw]⟩
      · obtain ⟨w, hw, hnull⟩ := ih (Nat.succ.inj hcount) hrest o ho
        exact ⟨w, hw, fun hw => List.mem_cons_of_mem _ (hnull hw)⟩

theorem eq_null_of_strict {body : List Value → Except EvalError Value} {vs : List Value}
    (hnull : Value.null ∈ vs) {v : Value} (h : strict body vs = .ok v) : v = .null := by
  rw [strict, if_pos (List.any_eq_true.2 ⟨_, hnull, rfl⟩)] at h
  cases h
  rfl

theorem eq_null_of_body {m : Method} (hm : m ∈ Standard.methods) (hname : m.name ≠ "nullIndicator")
    {vs : List Value} (hcount : vs.length = m.params.length) (hnull : Value.null ∈ vs)
    {v : Value} (h : m.body vs = .ok v) : v = .null := by
  simp only [Standard.methods, List.mem_cons, List.not_mem_nil, or_false] at hm
  rcases hm with rfl | rfl | rfl | rfl | rfl | rfl | rfl | rfl | rfl
  iterate 7 exact eq_null_of_strict hnull h
  · rw [List.length_eq_zero_iff.1 hcount] at hnull
    cases hnull
  · exact absurd rfl hname

theorem operands_of_combine {host : BinaryOp}
    (hlogical : (Implementor.binary host).isLogical = false) {l r : Except EvalError Value}
    {v : Value} (h : host.combine l r = .ok v) :
    ∃ a b, l = .ok a ∧ r = .ok b ∧ (a = .null ∨ b = .null → v = .null) := by
  have hboth : (l >>= fun a => r >>= fun b => applyBinary host a b) = .ok v := by
    cases host <;> first | contradiction | exact h
  obtain ⟨a, ha, hrest⟩ := bind_eq_ok_iff.1 hboth
  obtain ⟨b, hb, happly⟩ := bind_eq_ok_iff.1 hrest
  refine ⟨a, b, ha, hb, ?_⟩
  rintro (rfl | rfl)
  · cases happly
    rfl
  · rw [applyBinary_null_right] at happly
    cases happly
    rfl

theorem eq_null_of_applyUnary {host : UnaryOp}
    (htest : (Implementor.unary host).testsNull = false) {v : Value}
    (h : applyUnary host .null = .ok v) : v = .null := by
  cases host <;> first | contradiction | (cases h; rfl)

section

variable {op : Operator} {os : List Evaluated} {v : Value}

theorem onOne_eq_ok {f : Except EvalError Value → Except EvalError Value}
    (h : onOne op f os = .ok v) : ∃ o, os = [o] ∧ f o.result = .ok v := by
  unfold onOne at h
  split at h
  · exact ⟨_, rfl, h⟩
  · cases h

theorem onTwo_eq_ok
    {f : Except EvalError Value → Except EvalError Value → Except EvalError Value}
    (h : onTwo op f os = .ok v) : ∃ l r, os = [l, r] ∧ f l.result r.result = .ok v := by
  unfold onTwo at h
  split at h
  · exact ⟨_, _, rfl, h⟩
  · cases h

theorem method_of_apply {owner name : String} {type : SqlType}
    (h : (Implementor.method owner name).apply .standard op type os = .ok v) :
    ∃ m ∈ Standard.methods, m.name = name ∧ m.params.length = os.length ∧
      ∃ vs, passAll os m.params = .ok vs ∧ m.body vs = .ok v := by
  simp only [Implementor.apply] at h
  cases hm : MethodTable.standard.resolve owner name os.length with
  | none =>
    simp only [hm] at h
    cases h
  | some m =>
    simp only [hm] at h
    exact ⟨m, mem_of_resolve hm, name_of_resolve hm, length_of_resolve hm, bind_eq_ok_iff.1 h⟩

/-- Where a strict call gives a value, so do all its operands. -/
theorem operands_of_apply {i : Implementor} (hlogical : i.isLogical = false) {type : SqlType}
    (h : i.apply .standard op type os = .ok v) :
    ∀ o ∈ os, ∃ w, o.result = .ok w ∧ (i.testsNull = false → w = .null → v = .null) := by
  cases i with
  | fallback => cases h
  | unary host =>
    simp only [Implementor.apply] at h
    obtain ⟨o, rfl, h⟩ := onOne_eq_ok h
    obtain ⟨w, hw, happly⟩ := bind_eq_ok_iff.1 h
    simp only [List.forall_mem_singleton]
    exact ⟨w, hw, fun htest hnull => eq_null_of_applyUnary htest (hnull ▸ happly)⟩
  | isNull | isNotNull =>
    simp only [Implementor.apply] at h
    obtain ⟨o, rfl, h⟩ := onOne_eq_ok h
    obtain ⟨w, hw, -⟩ := bind_eq_ok_iff.1 h
    simp only [List.forall_mem_singleton]
    exact ⟨w, hw, fun htest => absurd htest (by decide)⟩
  | binary host =>
    simp only [Implementor.apply] at h
    obtain ⟨l, r, rfl, h⟩ := onTwo_eq_ok h
    obtain ⟨a, b, ha, hb, hnull⟩ := operands_of_combine hlogical h
    simp only [List.forall_mem_cons]
    exact ⟨⟨a, ha, fun _ h => hnull (.inl h)⟩, ⟨b, hb, fun _ h => hnull (.inr h)⟩,
      List.forall_mem_nil _⟩
  | datetimeDivide =>
    simp only [Implementor.apply] at h
    obtain ⟨l, r, rfl, h⟩ := onTwo_eq_ok h
    obtain ⟨q, hq, hconvert⟩ := bind_eq_ok_iff.1 h
    obtain ⟨a, b, ha, hb, hnull⟩ := operands_of_combine rfl hq
    have hv : q = .null → v = .null := fun hnull => eq_null_of_convertTo (hnull ▸ hconvert)
    simp only [List.forall_mem_cons]
    exact ⟨⟨a, ha, fun _ h => hv (hnull (.inl h))⟩, ⟨b, hb, fun _ h => hv (hnull (.inr h))⟩,
      List.forall_mem_nil _⟩
  | method owner name =>
    obtain ⟨m, hm, hname, hcount, vs, hpass, hbody⟩ := method_of_apply h
    intro o ho
    obtain ⟨w, hw, hnull⟩ := operands_of_passAll hcount hpass o ho
    refine ⟨w, hw, fun htest hwnull => ?_⟩
    have hother : m.name ≠ "nullIndicator" := by
      rw [hname]
      simpa [Implementor.testsNull] using htest
    exact eq_null_of_body hm hother (length_passAll hcount hpass) (hnull hwnull) hbody

end

/-! ## Logic -/

/-- What a condition can come to. -/
def IsTruth (v : Value) : Prop := v = .null ∨ ∃ t, v = .bool t

/-- How a conjunction or a disjunction comes to a value. -/
inductive Connects (k : Bool) : Value → Except EvalError Value → Value → Prop
  | leftDecides {r : Except EvalError Value} : Connects k (.bool k) r (.bool k)
  | right {b : Value} : IsTruth b → Connects k (.bool !k) (.ok b) b
  | rightDecides : Connects k .null (.ok (.bool k)) (.bool k)
  | unknown {b : Value} : b = .null ∨ b = .bool !k → Connects k .null (.ok b) .null

theorem connect_eq_ok_iff {k : Bool} {name : String} {a : Value} {r : Except EvalError Value}
    {v : Value} : connect k name a r = .ok v ↔ Connects k a r v := by
  constructor
  · intro h
    cases a with
    | bool t =>
      simp only [connect] at h
      split at h
      · next ht =>
        cases ht
        cases h
        exact .leftDecides
      · next ht =>
        obtain ⟨b, rfl, h⟩ := bind_eq_ok_iff.1 h
        cases Bool.eq_not_of_ne ht
        cases b <;> cases h
        · exact .right (.inl rfl)
        · exact .right (.inr ⟨_, rfl⟩)
    | null =>
      obtain ⟨b, rfl, h⟩ := bind_eq_ok_iff.1 h
      cases b with
      | bool u =>
        cases h
        split
        · next hu =>
          cases hu
          exact .rightDecides
        · next hu =>
          cases Bool.eq_not_of_ne hu
          exact .unknown (.inr rfl)
      | null =>
        cases h
        exact .unknown (.inl rfl)
      | _ => cases h
    | _ => cases h
  · intro h
    cases h with
    | leftDecides | rightDecides => cases k <;> rfl
    | right hb => rcases hb with rfl | ⟨t, rfl⟩ <;> cases k <;> rfl
    | unknown hb => rcases hb with rfl | rfl <;> cases k <;> rfl

theorem Connects.truth {k : Bool} {a : Value} {r : Except EvalError Value} {v : Value}
    (h : Connects k a r v) : IsTruth v := by
  cases h with
  | leftDecides | rightDecides => exact .inr ⟨k, rfl⟩
  | right hb => exact hb
  | unknown => exact .inl rfl

/-! ## The standard operators -/

section

variable {op : Operator} (hop : op ∈ Catalog.all)

include hop

theorem logical_of_isLogical (h : (Implementors.standard.find op.id).isLogical = true) :
    op = Catalog.and ∨ op = Catalog.or := by
  rw [find_standard] at h
  revert op
  decide

theorem nullTest_of_testsNull (h : (Implementors.standard.find op.id).testsNull = true) :
    op ∈ Catalog.nullTests := by
  rw [find_standard] at h
  revert op
  decide

theorem operandMode_standard (mode : NullMode) :
    (Implementors.standard.find op.id).operandMode mode =
      if op = Catalog.isNull ∨ op = Catalog.isNotNull then .null else mode := by
  rw [find_standard]
  revert op
  cases mode <;> decide

end

/-- The truth value that decides an `AND` or an `OR`. -/
theorem find_logical {op : Operator} (h : op = Catalog.and ∨ op = Catalog.or) :
    ∃ k host, Implementors.standard.find op.id = .binary host ∧
      ∀ l r v, host.combine l r = .ok v ↔ ∃ a, l = .ok a ∧ Connects k a r v := by
  rw [find_standard]
  rcases h with rfl | rfl
  · refine ⟨false, .andAlso, rfl, fun l r v => ?_⟩
    rw [combine_andAlso, bind_eq_ok_iff]
    simp only [connect_eq_ok_iff]
  · refine ⟨true, .orElse, rfl, fun l r v => ?_⟩
    rw [combine_orElse, bind_eq_ok_iff]
    simp only [connect_eq_ok_iff]

/-! ## Expressions -/

section

variable {op : Operator} {ns : List Node} {type : SqlType}

/-- What an `AND` or an `OR` comes to, in every mode. -/
theorem result_logical (row : List Value) (hlogical : op = Catalog.and ∨ op = Catalog.or)
    (hchecked : (Node.call op ns type).Checked) :
    type.name = .boolean ∧ ∃ k l r, ns = [l, r] ∧ ∀ mode v,
      result .standard row (.call op ns type) mode = .ok v ↔
        ∃ a u, result .standard row l mode = .ok a ∧ Connects k a (result .standard row r mode) u ∧
          mode.settle .boolean (.ofSqlType type) u = .ok v := by
  obtain ⟨-, hcount, -, htype⟩ := Node.checked_call hchecked
  have hop : op.arity = .two ∧ op.returns = .boolean := by
    rcases hlogical with rfl | rfl <;> exact ⟨rfl, rfl⟩
  have hname : type.name = .boolean := by
    rw [htype, hop.2]
    rfl
  rw [hop.1] at hcount
  obtain ⟨l, r, rfl⟩ := Arity.eq_pair_of_admits_two hcount
  obtain ⟨k, host, hfind, hcombine⟩ := find_logical hlogical
  refine ⟨hname, k, l, r, rfl, fun mode v => ?_⟩
  rw [result_standard_call, hfind, hname]
  show host.combine (result .standard row l mode) (result .standard row r mode) >>=
    mode.settle .boolean (.ofSqlType type) = .ok v ↔ _
  rw [bind_eq_ok_iff]
  constructor
  · rintro ⟨u, hu, hv⟩
    obtain ⟨a, ha, hau⟩ := (hcombine _ _ _).1 hu
    exact ⟨a, u, ha, hau, hv⟩
  · rintro ⟨a, u, ha, hau, hv⟩
    exact ⟨u, (hcombine _ _ _).2 ⟨a, ha, hau⟩, hv⟩

variable {row : List Value} {v : Value} (hop : op ∈ Catalog.all)
  (hv : result .standard row (.call op ns type) .null = .ok v)

include hop hv

theorem operands_of_result (hlogical : ¬ (op = Catalog.and ∨ op = Catalog.or)) :
    ∀ m ∈ ns, ∃ w, result .standard row m .null = .ok w ∧
      (op ∉ Catalog.nullTests → w = .null → v = .null) := by
  have hstrict : (Implementors.standard.find op.id).isLogical = false :=
    Bool.eq_false_iff.2 fun h => hlogical (logical_of_isLogical hop h)
  rw [result_call_null] at hv
  intro m hm
  have hmem : ⟨m.type, result .standard row m .null⟩ ∈ resultAll .standard row ns .null := by
    rw [resultAll_eq_map]
    exact List.mem_map_of_mem hm
  obtain ⟨w, hw, hnull⟩ := operands_of_apply hstrict hv _ hmem
  refine ⟨w, hw, fun htest => hnull (Bool.eq_false_iff.2 fun h => htest ?_)⟩
  exact nullTest_of_testsNull hop h

/-- Where the operands that share the mode come to what they come to with their nulls, so does
the call, but for what the mode makes of its value. -/
theorem result_of_same {mode : NullMode}
    (hsame : ∀ m ∈ (Node.call op ns type).passed,
      result .standard row m mode = result .standard row m .null) :
    result .standard row (.call op ns type) mode =
      mode.settle type.name ((Implementors.standard.find op.id).held .standard ns.length type)
        v := by
  have hoperands : resultAll .standard row ns
      ((Implementors.standard.find op.id).operandMode mode) =
        resultAll .standard row ns .null := by
    rw [operandMode_standard hop]
    split
    · rfl
    · next hne =>
      rw [Node.passed, if_neg hne] at hsame
      rw [resultAll_eq_map, resultAll_eq_map]
      exact List.map_congr_left fun m hm => by rw [hsame m hm]
  rw [result_call_null] at hv
  rw [result_standard_call, hoperands, hv]
  rfl

end

end Host

end RowExpr
