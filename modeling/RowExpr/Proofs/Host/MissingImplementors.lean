import RowExpr.Proofs.Host.StandardTables

/-!
# Missing implementors

With some of the standard implementors taken away, expressions of standard operators are still
lowered. What they become gives what it gives with all of them, or says which operator has no
implementor.
-/

namespace RowExpr

/-- The expression has a call of the operator, at whatever depth. -/
inductive Node.Calls (op : Operator) : Node → Prop
  | here {ns : List Node} {type : SqlType} : Calls op (call op ns type)
  | inside {n m : Node} : m ∈ n.operands → Calls op m → Calls op n

namespace Host

/-- Has some of the bindings of another registry, and no others. -/
def Implementors.Within (is all : Implementors) : Prop :=
  ∀ (id : String) (i : Implementor), is.bindings[id]? = some i → all.bindings[id]? = some i

/-! ## Registries -/

theorem find_eq_of_within {is all : Implementors} (h : is.Within all) {id : String}
    (hid : is.contains id = true) : is.find id = all.find id := by
  rw [Implementors.contains, Std.HashMap.contains_eq_isSome_getElem?] at hid
  obtain ⟨i, hi⟩ := Option.isSome_iff_exists.1 hid
  simp [Implementors.find, Std.HashMap.getD_eq_getD_getElem?, hi, h id i hi]

theorem find_of_not_contains {is : Implementors} {id : String} (hid : is.contains id = false) :
    is.find id = .fallback :=
  Std.HashMap.getD_eq_fallback_of_contains_eq_false hid

theorem lookup_filter (keep : String → Bool) (bs : List (String × Implementor)) (id : String) :
    (bs.filter (keep ·.1)).lookup id = if keep id then bs.lookup id else none := by
  induction bs with
  | nil => simp
  | cons b rest ih =>
    obtain ⟨key, i⟩ := b
    by_cases hid : id = key
    · subst hid
      cases hkeep : keep id <;> simp [hkeep, ih]
    · have hne : (id == key) = false := by simpa using hid
      cases hkeep : keep key <;> simp [hkeep, ih, List.lookup_cons, hne]

/-- Any choice of identities makes such a registry. -/
theorem within_filter (keep : String → Bool) (bs : List (String × Implementor)) :
    (Implementors.ofList (bs.filter (keep ·.1))).Within (Implementors.ofList bs) := by
  intro id i h
  rw [Implementors.getElem?_ofList, ← List.filter_reverse, lookup_filter] at h
  rw [Implementors.getElem?_ofList]
  split at h
  · exact h
  · cases h

/-! ## Results -/

/-- The same result as that of a full run, or a failure that is excused. -/
def Excused {α : Type} (excuse : EvalError → Prop) (full r : Except EvalError α) : Prop :=
  r = full ∨ ∃ e, excuse e ∧ r = .error e

section

variable {excuse : EvalError → Prop}

theorem Excused.bind {α β : Type} {full r : Except EvalError α}
    {f g : α → Except EvalError β} (h : Excused excuse full r)
    (hfg : ∀ a, Excused excuse (f a) (g a)) : Excused excuse (full >>= f) (r >>= g) := by
  rcases h with rfl | ⟨e, he, rfl⟩
  · cases r with
    | ok a => exact hfg a
    | error e => exact .inl rfl
  · exact .inr ⟨e, he, rfl⟩

theorem Excused.bind_same {α β : Type} {full r : Except EvalError α}
    (h : Excused excuse full r) (f : α → Except EvalError β) :
    Excused excuse (full >>= f) (r >>= f) :=
  h.bind fun _ => .inl rfl

theorem Excused.imp {α : Type} {excuse' : EvalError → Prop} {full r : Except EvalError α}
    (h : Excused excuse full r) (himp : ∀ e, excuse e → excuse' e) : Excused excuse' full r :=
  Or.imp_right (fun ⟨e, he, hr⟩ => ⟨e, himp e he, hr⟩) h

theorem excused_connect (k : Bool) (name : String) (a : Value) {full r : Except EvalError Value}
    (h : Excused excuse full r) : Excused excuse (connect k name a full) (connect k name a r) := by
  cases a with
  | bool t =>
    simp only [connect]
    split
    · exact .inl rfl
    · exact h.bind_same _
  | null => exact h.bind_same _
  | int | float | string | flag => exact .inl rfl

theorem excused_combine (host : BinaryOp) {l l' r r' : Except EvalError Value}
    (hl : Excused excuse l l') (hr : Excused excuse r r') :
    Excused excuse (host.combine l r) (host.combine l' r') := by
  cases host with
  | andAlso =>
    rw [combine_andAlso, combine_andAlso]
    exact hl.bind fun a => excused_connect false "AND" a hr
  | orElse =>
    rw [combine_orElse, combine_orElse]
    exact hl.bind fun a => excused_connect true "OR" a hr
  | _ => exact hl.bind fun _ => hr.bind_same _

/-- The same operands, but for excused failures. -/
abbrev ExcusedAll (excuse : EvalError → Prop) : List Evaluated → List Evaluated → Prop :=
  List.Forall₂ fun full o => full.type = o.type ∧ Excused excuse full.result o.result

theorem excused_passAll {full os : List Evaluated} (h : ExcusedAll excuse full os)
    (params : List HostType) : Excused excuse (passAll full params) (passAll os params) := by
  induction h generalizing params with
  | nil => exact .inl rfl
  | @cons f o _ _ ho _ ih =>
    obtain ⟨htype, hresult⟩ := ho
    cases params with
    | nil => exact .inl rfl
    | cons param params =>
      have hpass : Excused excuse (f.passTo param) (o.passTo param) := by
        unfold Evaluated.passTo
        rw [htype]
        exact hresult.bind_same _
      exact hpass.bind fun _ => (ih params).bind_same _

theorem excused_onOne (op : Operator)
    {f : Except EvalError Value → Except EvalError Value}
    (hf : ∀ {full r}, Excused excuse full r → Excused excuse (f full) (f r))
    {full os : List Evaluated} (h : ExcusedAll excuse full os) :
    Excused excuse (onOne op f full) (onOne op f os) := by
  rcases h with _ | ⟨ho, _ | _⟩
  · exact .inl rfl
  · exact hf ho.2
  · exact .inl rfl

theorem excused_onTwo (op : Operator)
    {f : Except EvalError Value → Except EvalError Value → Except EvalError Value}
    (hf : ∀ {l l' r r'}, Excused excuse l l' → Excused excuse r r' →
      Excused excuse (f l r) (f l' r'))
    {full os : List Evaluated} (h : ExcusedAll excuse full os) :
    Excused excuse (onTwo op f full) (onTwo op f os) := by
  rcases h with _ | ⟨hl, _ | ⟨hr, _ | _⟩⟩
  · exact .inl rfl
  · exact .inl rfl
  · exact hf hl.2 hr.2
  · exact .inl rfl

/-- Failures of operands come through every call. -/
theorem excused_apply (methods : MethodTable) (op : Operator) (type : SqlType) (i : Implementor)
    {full os : List Evaluated} (h : ExcusedAll excuse full os) :
    Excused excuse (i.apply methods op type full) (i.apply methods op type os) := by
  cases i with
  | binary host => exact excused_onTwo op (excused_combine host) h
  | unary | isNull | isNotNull => exact excused_onOne op (fun ho => ho.bind_same _) h
  | datetimeDivide =>
    exact excused_onTwo op (fun hl hr => (excused_combine .divide hl hr).bind_same _) h
  | method owner name =>
    simp only [Implementor.apply, ← h.length_eq]
    cases methods.resolve owner name full.length with
    | none => exact .inl rfl
    | some m => exact (excused_passAll h m.params).bind_same _
  | fallback => exact .inl rfl

end

/-! ## Expressions -/

section

variable {is : Implementors} {row : List Value}

/-- Reaching an operator of the expression that has lost its implementor. -/
def Deferred (is : Implementors) (n : Node) (e : EvalError) : Prop :=
  ∃ op, n.Calls op ∧ is.contains op.id = false ∧ e = .missing op

theorem Deferred.outward {n m : Node} (hm : m ∈ n.operands) {e : EvalError}
    (h : Deferred is m e) : Deferred is n e := by
  obtain ⟨op, hcalls, hid, rfl⟩ := h
  exact ⟨op, .inside hm hcalls, hid, rfl⟩

theorem excused_call (his : is.Within .standard) {op : Operator} {ns : List Node}
    {type : SqlType}
    (hns : ∀ m ∈ ns, ∀ mode, Excused (Deferred is m) (result .standard row m mode)
      (result ⟨is, .standard⟩ row m mode)) (mode : NullMode) :
    Excused (Deferred is (.call op ns type)) (result .standard row (.call op ns type) mode)
      (result ⟨is, .standard⟩ row (.call op ns type) mode) := by
  rw [result_standard_call]
  simp only [result]
  cases hid : is.contains op.id with
  | false =>
    rw [find_of_not_contains hid]
    exact .inr ⟨_, ⟨op, .here, hid, rfl⟩, rfl⟩
  | true =>
    rw [find_eq_of_within his hid]
    have hos : ∀ m' : NullMode, ExcusedAll (Deferred is (.call op ns type))
        (resultAll .standard row ns m') (resultAll ⟨is, .standard⟩ row ns m') := fun m' =>
      forall₂_resultAll fun m hm => ⟨rfl, (hns m hm m').imp fun e he => he.outward hm⟩
    exact (excused_apply _ op type _ (hos _)).bind_same _

theorem excused_result (his : is.Within .standard) {n : Node}
    (hn : n.Everywhere Node.Admitted) (mode : NullMode) :
    Excused (Deferred is n) (result .standard row n mode)
      (result ⟨is, .standard⟩ row n mode) := by
  induction hn generalizing mode with
  | @intro n _ _ ih =>
    cases n with
    | literal | input => exact .inl rfl
    | call op ns type => exact excused_call his ih mode

theorem lowerable_of_admitted (his : is.Within .standard) {n : Node} (hn : n.Admitted) :
    Lowerable ⟨is, .standard⟩ n := by
  cases n with
  | literal | input => trivial
  | call op ns type =>
    show (is.find op.id).Takes .standard ns.length
    cases hid : is.contains op.id with
    | true =>
      rw [find_eq_of_within his hid]
      exact takes_standard hn.1 hn.2
    | false =>
      rw [find_of_not_contains hid]
      trivial

/-- With some of the standard implementors, an expression of standard operators can be lowered
in every mode. On every row, what it becomes gives what it gives with all implementors, or fails
with the message of an operator of the expression whose implementor is missing. If none is
missing, it is the former. -/
theorem eval_of_fewer_implementors (his : is.Within .standard) {n : Node}
    (hn : n.Everywhere Node.Admitted) (mode : NullMode) (row : List Value) :
    ∃ full e, lower .standard n mode = .ok full ∧ lower ⟨is, .standard⟩ n mode = .ok e ∧
      (e.eval .standard row = full.eval .standard row ∨
        ∃ op, n.Calls op ∧ is.contains op.id = false ∧
          e.eval .standard row =
            .error (.unimplemented (op.name ++ ": Enumerable implementation is empty"))) ∧
      ((∀ op, n.Calls op → is.contains op.id = true) →
        e.eval .standard row = full.eval .standard row) := by
  obtain ⟨full, hfull, hfullValue⟩ : ComesTo .standard row n mode _ := comesTo_standard hn mode
  obtain ⟨e, he, hvalue⟩ : ComesTo ⟨is, .standard⟩ row n mode _ :=
    comesTo_result (hn.imp fun _ => lowerable_of_admitted his) mode
  have hexcused : Excused (Deferred is n) (full.eval .standard row) (e.eval .standard row) :=
    hfullValue ▸ hvalue ▸ excused_result his hn mode
  refine ⟨full, e, hfull, he, ?_, fun hkept => ?_⟩
  · rcases hexcused with h | ⟨_, ⟨op, hcalls, hid, rfl⟩, h⟩
    · exact .inl h
    · exact .inr ⟨op, hcalls, hid, h⟩
  · rcases hexcused with h | ⟨_, ⟨op, hcalls, hid, -⟩, -⟩
    · exact h
    · rw [hkept op hcalls] at hid
      cases hid

end

namespace Greeting

def withoutUpper : Implementors := .ofList (standardBindings.filter (·.1 != "UPPER"))

def flag : Node := .column 0 "flag" (.notNull .boolean)

def shouted : Node := .call Catalog.upper [.column 1 "name" (.notNull .varchar)] (.notNull .varchar)

def greeting : Node :=
  .call Catalog.and
    [flag, .call Catalog.equals [shouted, .string "ADA"] (.notNull .boolean)] (.notNull .boolean)

theorem admitted : greeting.Everywhere Node.Admitted := by
  have hshouted : shouted.Everywhere Node.Admitted := by
    simp only [shouted, Node.column, Node.everywhere_call, List.forall_mem_cons]
    exact ⟨⟨by decide, rfl⟩, (Node.everywhere_input ..).2 trivial, by simp⟩
  simp only [greeting, flag, Node.column, Node.string, Node.everywhere_call, Node.everywhere_input,
    Node.everywhere_literal, List.forall_mem_cons]
  exact ⟨⟨by decide, rfl⟩, trivial, ⟨⟨by decide, rfl⟩, hshouted, trivial, by simp⟩, by simp⟩

theorem eval_without_upper :
    (withoutUpper.Within .standard ∧ greeting.Everywhere Node.Admitted) ∧
    ∃ full e, lower .standard greeting .false = .ok full ∧
      lower ⟨withoutUpper, .standard⟩ greeting .false = .ok e ∧
      (e.eval .standard [.bool true, .string "Ada"] =
          full.eval .standard [.bool true, .string "Ada"] ∨
        ∃ op, greeting.Calls op ∧ withoutUpper.contains op.id = false ∧
          e.eval .standard [.bool true, .string "Ada"] =
            .error (.unimplemented (op.name ++ ": Enumerable implementation is empty"))) ∧
      ((∀ op, greeting.Calls op → withoutUpper.contains op.id = true) →
        e.eval .standard [.bool true, .string "Ada"] =
          full.eval .standard [.bool true, .string "Ada"]) :=
  have hwithin : withoutUpper.Within .standard := within_filter (· != "UPPER") standardBindings
  ⟨⟨hwithin, admitted⟩, eval_of_fewer_implementors hwithin admitted .false _⟩

end Greeting

end Host

end RowExpr
