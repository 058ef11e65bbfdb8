import Mathlib.Data.List.Defs
import RowExpr.Proofs.Host.Invocations

/-!
# Operators that are methods

A call of such an operator is lowered to a call of a method with one parameter for each operand.
The method is given the operands in their order, each as the host holds its type with nulls and
then as the parameter. It is called once, or not at all where an operand does not get there.
-/

namespace RowExpr.Host

/-! ## Arguments -/

/-- What an operand comes to in a parameter: its value as the host holds its type with nulls,
and then as the parameter. -/
def argument (methods : MethodTable) (row : List Value) (n : Node) (e : Expr)
    (param : HostType) : Except EvalError Value := do
  let held ← convertTo (← e.eval methods row) (.ofSqlType n.type.nullify)
  convertTo held param

/-- Converting twice to one type is converting once. -/
theorem passTo_eq_argument (methods : MethodTable) (row : List Value) (n : Node) (e : Expr)
    (param : HostType) :
    Evaluated.passTo ⟨n.type, e.eval methods row⟩ param = argument methods row n e param := by
  refine congrArg (e.eval methods row >>= ·) (funext fun v => ?_)
  by_cases hheld : HostType.ofSqlType n.type.nullify = param
  · simp only [hheld, if_true]
    cases hv : convertTo v param with
    | error e => rfl
    | ok w => exact (convertTo_of_converted hv).symm
  · simp only [hheld, if_false]

/-! ## Overloads -/

def Method.IsNamed (m : Method) (owner name : String) : Prop := m.owner = owner ∧ m.name = name

/-- The last method of the name that takes so many arguments. -/
def Method.IsLatest (m : Method) (ms : List Method) (owner name : String) (count : Nat) : Prop :=
  ∃ before after, ms = before ++ m :: after ∧ m.IsNamed owner name ∧ m.params.length = count ∧
    ∀ m' ∈ after, m'.IsNamed owner name → m'.params.length ≠ count

namespace MethodTable

theorem contains_ofList_iff {ms : List Method} {owner name : String} :
    (ofList ms).contains owner name = true ↔ ∃ m ∈ ms, m.IsNamed owner name := by
  simp [contains_ofList, Method.IsNamed]

theorem resolve_ofList_eq_some_iff {ms : List Method} {owner name : String} {count : Nat}
    {m : Method} :
    (ofList ms).resolve owner name count = some m ↔ m.IsLatest ms owner name count := by
  rw [resolve_ofList, List.find?_eq_some_iff_append, answers_iff]
  constructor
  · rintro ⟨⟨hname, hcount⟩, after, before, hms, hafter⟩
    refine ⟨before.reverse, after.reverse, ?_, hname, hcount, fun m' hm' hnamed hsame => ?_⟩
    · simpa using congrArg List.reverse hms
    · have hnot := hafter m' (List.mem_reverse.1 hm')
      simp [answers_iff.2 ⟨hnamed, hsame⟩] at hnot
  · rintro ⟨before, after, rfl, hname, hcount, hafter⟩
    refine ⟨⟨hname, hcount⟩, after.reverse, before.reverse, by simp, fun m' hm' => ?_⟩
    have hnot : ¬ answers owner name count m' = true := fun h =>
      hafter m' (List.mem_reverse.1 hm') (answers_iff.1 h).1 (answers_iff.1 h).2
    simpa using hnot

theorem resolve_ofList_eq_none_iff {ms : List Method} {owner name : String} {count : Nat} :
    (ofList ms).resolve owner name count = none ↔
      ∀ m ∈ ms, m.IsNamed owner name → m.params.length ≠ count := by
  simp [resolve_ofList, answers, Method.IsNamed]

end MethodTable

/-! ## Lowering -/

section

variable {c : Context} {owner name : String} {op : Operator} {ns : List Node} {type : SqlType}
  {mode : NullMode} {es : List Expr}

/-- The arguments that operands become. -/
def Expr.passAll (ns : List Node) (es : List Expr) (params : List HostType) : List Expr :=
  List.zipWith3 (fun n e param => e.passTo n.type param) ns es params

theorem methodArgs_lowerAll (hes : List.Forall₂ (fun n e => lower c n mode = .ok e) ns es)
    (params : List HostType) :
    methodArgs mode (lowerAll c ns) params = .ok (Expr.passAll ns es params) := by
  induction hes generalizing params with
  | nil => cases params <;> rfl
  | @cons n e ns es he _ ih =>
    cases params with
    | nil => rfl
    | cons param params => exact methodArgs_cons he (ih params)

theorem implementCall_of_not_contains (h : c.methods.contains owner name = false) :
    implementCall c (.method owner name) mode (.call op ns type) =
      .error (.methodNotFound owner name) := by
  simp [implementCall, Implementor.implement, implementMethod, h]

theorem implementCall_of_resolve_none (h : c.methods.contains owner name = true)
    (hnone : c.methods.resolve owner name ns.length = none) :
    implementCall c (.method owner name) mode (.call op ns type) =
      .error (.argumentCount owner name ns.length) := by
  simp [implementCall, Implementor.implement, implementMethod, h, length_lowerAll, hnone]

theorem implementCall_of_resolve (hes : List.Forall₂ (fun n e => lower c n mode = .ok e) ns es)
    {m : Method} (hm : c.methods.resolve owner name ns.length = some m) :
    implementCall c (.method owner name) mode (.call op ns type) =
      .ok (.call owner name (Expr.passAll ns es m.params) m.returns) := by
  simp only [implementCall, Implementor.implement, implementMethod, contains_of_resolve hm,
    length_lowerAll, hm, methodArgs_lowerAll hes]
  rfl

end

/-! ## Evaluation -/

/-- An expression calls a method on operands that were lowered: once, behind what they call
themselves, if all of them get to their parameters. Else the first that does not is the last
that is evaluated. -/
structure CallsMethod (methods : MethodTable) (row : List Value) (m : Method) (ns : List Node)
    (es : List Expr) (call : Expr) : Prop where
  all_ok : ∀ args : List Value,
    List.zipWith3 (argument methods row) ns es m.params = args.map .ok →
      call.eval methods row = m.body args ∧
        call.invocations methods row =
          es.flatMap (·.invocations methods row) ++ [⟨m.owner, m.name, args⟩]
  first_error : ∀ (args : List Value) (e : EvalError) (others : List (Except EvalError Value)),
    List.zipWith3 (argument methods row) ns es m.params = args.map .ok ++ .error e :: others →
      call.eval methods row = .error e ∧
        call.invocations methods row =
          (es.take (args.length + 1)).flatMap (·.invocations methods row)

section

variable (methods : MethodTable) (row : List Value)

theorem map_eval_passAll (ns : List Node) (es : List Expr) (params : List HostType) :
    (Expr.passAll ns es params).map (·.eval methods row) =
      List.zipWith3 (argument methods row) ns es params := by
  induction ns generalizing es params with
  | nil => rfl
  | cons n ns ih =>
    rcases es with _ | ⟨e, es⟩
    · rfl
    · rcases params with _ | ⟨param, params⟩
      · rfl
      · rw [Expr.passAll, List.zipWith3, List.map_cons, ← Expr.passAll, ih, eval_passTo,
          passTo_eq_argument, List.zipWith3]

theorem invocations_passTo (e : Expr) (type : SqlType) (param : HostType) :
    (e.passTo type param).invocations methods row = e.invocations methods row := by
  simp only [Expr.passTo]
  split
  · rw [Expr.invocations]
  · rw [Expr.invocations, Expr.invocations]

theorem map_invocations_passAll {ns : List Node} {es : List Expr} {params : List HostType}
    (hes : es.length = ns.length) (hparams : params.length = ns.length) :
    (Expr.passAll ns es params).map (·.invocations methods row) =
      es.map (·.invocations methods row) := by
  induction ns generalizing es params with
  | nil =>
    cases List.length_eq_zero_iff.1 hes
    rfl
  | cons n ns ih =>
    obtain ⟨e, es, rfl⟩ := List.exists_cons_of_length_eq_add_one hes
    obtain ⟨param, params, rfl⟩ := List.exists_cons_of_length_eq_add_one hparams
    rw [Expr.passAll, List.zipWith3, List.map_cons, ← Expr.passAll, List.map_cons,
      ih (Nat.succ.inj hes) (Nat.succ.inj hparams), invocations_passTo]

end

theorem callsMethod {methods : MethodTable} {m : Method} {ns : List Node} {es : List Expr}
    (hm : methods.resolve m.owner m.name ns.length = some m)
    (hes : es.length = ns.length) (row : List Value) :
    CallsMethod methods row m ns es
      (.call m.owner m.name (Expr.passAll ns es m.params) m.returns) := by
  have hlogs := map_invocations_passAll methods row hes (length_of_resolve hm)
  constructor
  · intro args h
    have hmap := (map_eval_passAll methods row ns es m.params).trans h
    obtain ⟨hvalues, hinvocations⟩ := evalAll_of_all_ok hmap
    have hcount : args.length = ns.length := by
      have hargs := congrArg List.length hmap
      have hpassed := congrArg List.length hlogs
      simp only [List.length_map] at hargs hpassed
      omega
    constructor
    · rw [Expr.eval, hvalues, ok_bind, MethodTable.invoke, hcount, hm]
    · rw [Expr.invocations, hvalues, hinvocations, List.flatMap_def, List.flatMap_def, hlogs]
  · intro args e others h
    obtain ⟨hvalues, hinvocations⟩ :=
      evalAll_of_error ((map_eval_passAll methods row ns es m.params).trans h)
    constructor
    · rw [Expr.eval, hvalues]
      rfl
    · rw [Expr.invocations, hvalues, hinvocations, List.append_nil, List.flatMap_def,
        List.flatMap_def, List.map_take, List.map_take, hlogs]

/-- A call of an operator that is a method is not lowered where no method has the name, or where
none of the name takes so many arguments. Otherwise it becomes a call of the last of those that
do, on the operands in their order. -/
theorem implementCall_method (is : Implementors) (ms : List Method) (owner name : String)
    (op : Operator) {ns : List Node} (type : SqlType) (mode : NullMode) {es : List Expr}
    (hes : List.Forall₂ (fun n e => lower ⟨is, .ofList ms⟩ n mode = .ok e) ns es) :
    (implementCall ⟨is, .ofList ms⟩ (.method owner name) mode (.call op ns type) =
        .error (.methodNotFound owner name) ↔ ∀ m ∈ ms, ¬ m.IsNamed owner name) ∧
      (implementCall ⟨is, .ofList ms⟩ (.method owner name) mode (.call op ns type) =
          .error (.argumentCount owner name ns.length) ↔
        (∃ m ∈ ms, m.IsNamed owner name) ∧
          ∀ m ∈ ms, m.IsNamed owner name → m.params.length ≠ ns.length) ∧
      ((∃ m ∈ ms, m.IsNamed owner name ∧ m.params.length = ns.length) →
        ∃ (m : Method) (call : Expr), m.IsLatest ms owner name ns.length ∧
          implementCall ⟨is, .ofList ms⟩ (.method owner name) mode (.call op ns type) = .ok call ∧
          ∀ row, CallsMethod (.ofList ms) row m ns es call) := by
  by_cases hnamed : ∃ m ∈ ms, m.IsNamed owner name
  · have hcontains := MethodTable.contains_ofList_iff.2 hnamed
    obtain ⟨m₀, hm₀, hname₀⟩ := hnamed
    have hsomeNamed : ¬ ∀ m ∈ ms, ¬ m.IsNamed owner name := fun h => h m₀ hm₀ hname₀
    by_cases htakes : ∃ m ∈ ms, m.IsNamed owner name ∧ m.params.length = ns.length
    · obtain ⟨m₁, hm₁, hname₁, hcount₁⟩ := htakes
      have hsome : (MethodTable.ofList ms).resolve owner name ns.length ≠ none := fun hnone =>
        MethodTable.resolve_ofList_eq_none_iff.1 hnone m₁ hm₁ hname₁ hcount₁
      obtain ⟨m, hm⟩ := Option.ne_none_iff_exists'.1 hsome
      have hlatest := MethodTable.resolve_ofList_eq_some_iff.1 hm
      obtain ⟨_, _, -, ⟨rfl, rfl⟩, -⟩ := id hlatest
      rw [implementCall_of_resolve hes hm]
      exact ⟨iff_of_false (by simp) hsomeNamed,
        iff_of_false (by simp) fun h => h.2 m₁ hm₁ hname₁ hcount₁,
        fun _ => ⟨m, _, hlatest, rfl, callsMethod hm hes.length_eq.symm⟩⟩
    · have hcounts : ∀ m ∈ ms, m.IsNamed owner name → m.params.length ≠ ns.length :=
        fun m hm hname hcount => htakes ⟨m, hm, hname, hcount⟩
      rw [implementCall_of_resolve_none hcontains
        (MethodTable.resolve_ofList_eq_none_iff.2 hcounts)]
      exact ⟨iff_of_false (by simp) hsomeNamed,
        iff_of_true rfl ⟨⟨m₀, hm₀, hname₀⟩, hcounts⟩, fun h => absurd h htakes⟩
  · have hcontains : (MethodTable.ofList ms).contains owner name = false := by
      rw [← Bool.not_eq_true, MethodTable.contains_ofList_iff]
      exact hnamed
    rw [implementCall_of_not_contains hcontains]
    exact ⟨iff_of_true rfl fun m hm hname => hnamed ⟨m, hm, hname⟩,
      iff_of_false (by simp) fun h => hnamed h.1,
      fun ⟨m, hm, hname, _⟩ => absurd ⟨m, hm, hname⟩ hnamed⟩

namespace Parcel

/-- What is written on a parcel; only the last of its arguments. -/
def label (params : List HostType) : Method :=
  { owner := "Post", name := "label", params, returns := .inBox .string,
    body := fun args => .ok (args.getLastD .null) }

def operator : Operator :=
  { id := "LABEL", name := "LABEL", kind := .otherFunction, arity := .two }

def methods : List Method :=
  [{ label [.inBox .int, .inBox .int] with body := fun _ => .ok .null }, label [.inBox .string],
   label [.inBox .string, .inBox .string]]

def operands : List Node :=
  [.column 0 "address" (.orNull .varchar), .column 1 "pieces" (.notNull .integer)]

def lowered : List Expr := [.parameter 0 (.inBox .string), .parameter 1 (.inBox .int)]

/-- The later of two methods with two parameters is called, on texts. -/
theorem implementCall_label :
    (List.Forall₂ (fun n e => lower ⟨.empty, .ofList methods⟩ n .null = .ok e) operands lowered ∧
      ∃ m ∈ methods, m.IsNamed "Post" "label" ∧ m.params.length = 2) ∧
    ∃ call, implementCall ⟨.empty, .ofList methods⟩ (.method "Post" "label") .null
        (.call operator operands (.orNull .varchar)) = .ok call ∧
      call.eval (.ofList methods) [.string "Oslo", .int 3] = .ok (.string "3") ∧
      call.invocations (.ofList methods) [.string "Oslo", .int 3] =
        [⟨"Post", "label", [.string "Oslo", .string "3"]⟩] ∧
      call.eval (.ofList methods) [.string "Oslo"] = .error (.missingField 1) ∧
      call.invocations (.ofList methods) [.string "Oslo"] = [] := by
  have hes : List.Forall₂ (fun n e => lower ⟨.empty, .ofList methods⟩ n .null = .ok e)
      operands lowered := .cons rfl (.cons rfl .nil)
  have htakes : ∃ m ∈ methods, m.IsNamed "Post" "label" ∧ m.params.length = 2 :=
    ⟨label [.inBox .string, .inBox .string], by simp [methods], ⟨rfl, rfl⟩, rfl⟩
  obtain ⟨m, call, hlatest, hcall, hrows⟩ :=
    (implementCall_method .empty methods "Post" "label" operator (.orNull .varchar) .null
      hes).2.2 htakes
  have hm : m = label [.inBox .string, .inBox .string] := by
    have hresolve := MethodTable.resolve_ofList_eq_some_iff.2 hlatest
    rw [MethodTable.resolve_ofList] at hresolve
    exact (Option.some.inj hresolve).symm
  subst hm
  obtain ⟨hvalue, hinvocations⟩ :=
    (hrows [.string "Oslo", .int 3]).all_ok [.string "Oslo", .string "3"] rfl
  obtain ⟨herror, hnone⟩ :=
    (hrows [.string "Oslo"]).first_error [.string "Oslo"] (.missingField 1) [] rfl
  exact ⟨⟨hes, htakes⟩, call, hcall, hvalue, hinvocations, herror, hnone⟩

end Parcel

end RowExpr.Host
