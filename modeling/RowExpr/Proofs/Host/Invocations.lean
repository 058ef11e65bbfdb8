import RowExpr.Proofs.Host.Result

/-!
# Calls of methods

Which methods are called while an expression is evaluated, on what, and in which order. What
other methods do, or the same ones on other arguments, does not matter to the result
(`eval_eq_of_invocations`).
-/

namespace RowExpr.Host

/-- A method called on arguments. -/
structure Invocation where
  owner : String
  name : String
  args : List Value

def Invocation.outcome (methods : MethodTable) (i : Invocation) : Except EvalError Value :=
  methods.invoke i.owner i.name i.args

/-- Whether an operator looks at its right operand when this is on its left. -/
def BinaryOp.looksRight : BinaryOp → Value → Bool
  | .andAlso, .bool t => t
  | .orElse, .bool t => !t
  | .andAlso, v | .orElse, v => v.isNull
  | _, _ => true

theorem combine_congr (op : BinaryOp) {left right right' : Except EvalError Value}
    (h : ∀ v, left = .ok v → op.looksRight v = true → right = right') :
    op.combine left right = op.combine left right' := by
  cases left with
  | error e => cases op <;> rfl
  | ok v =>
    cases op with
    | andAlso =>
      cases v with
      | bool t =>
        cases t with
        | false => rfl
        | true => rw [h _ rfl rfl]
      | null => rw [h _ rfl rfl]
      | _ => rfl
    | orElse =>
      cases v with
      | bool t =>
        cases t with
        | false => rw [h _ rfl rfl]
        | true => rfl
      | null => rw [h _ rfl rfl]
      | _ => rfl
    | _ => rw [h v rfl rfl]

section

variable (methods : MethodTable) (row : List Value)

mutual

/-- The calls of methods that evaluating an expression makes, in their order. -/
def Expr.invocations : Expr → List Invocation
  | .constant _ _ | .parameter _ _ | .fail _ => []
  | .convert e _ | .unary _ e _ => e.invocations
  | .call owner name args _ =>
    Expr.invocationsAll args ++
      match Expr.evalAll methods row args with
      | .ok vs => [⟨owner, name, vs⟩]
      | .error _ => []
  | .binary op l r _ =>
    l.invocations ++
      match l.eval methods row with
      | .ok v => if op.looksRight v then r.invocations else []
      | .error _ => []
  | .coalesce e fallback =>
    e.invocations ++
      match e.eval methods row with
      | .ok .null => fallback.invocations
      | _ => []

/-- Arguments are evaluated up to the first that fails. -/
def Expr.invocationsAll : List Expr → List Invocation
  | [] => []
  | e :: rest =>
    e.invocations ++
      match e.eval methods row with
      | .ok _ => Expr.invocationsAll rest
      | .error _ => []

end

end

section

variable {methods methods' : MethodTable} {row : List Value}

mutual

/-- An expression comes to the same with other methods, if each call that it makes does. -/
theorem eval_eq_of_invocations (e : Expr)
    (h : ∀ i ∈ e.invocations methods row, i.outcome methods' = i.outcome methods) :
    e.eval methods' row = e.eval methods row := by
  cases e with
  | constant | parameter | fail => rw [Expr.eval, Expr.eval]
  | convert e t =>
    rw [Expr.invocations] at h
    rw [Expr.eval, Expr.eval, eval_eq_of_invocations e h]
  | unary op e t =>
    rw [Expr.invocations] at h
    rw [Expr.eval, Expr.eval, eval_eq_of_invocations e h]
  | call owner name args t =>
    rw [Expr.invocations, List.forall_mem_append] at h
    rw [Expr.eval, Expr.eval, evalAll_eq_of_invocations args h.1]
    cases hargs : Expr.evalAll methods row args with
    | error e => rfl
    | ok vs =>
      rw [hargs] at h
      exact h.2 ⟨owner, name, vs⟩ List.mem_cons_self
  | binary op l r t =>
    rw [Expr.invocations, List.forall_mem_append] at h
    rw [eval_combine, eval_combine, eval_eq_of_invocations l h.1]
    refine combine_congr op fun v hv hlooks => ?_
    rw [hv] at h
    simp only [hlooks, if_true] at h
    exact eval_eq_of_invocations r h.2
  | coalesce e fallback =>
    rw [Expr.invocations, List.forall_mem_append] at h
    rw [Expr.eval, Expr.eval, eval_eq_of_invocations e h.1]
    cases he : e.eval methods row with
    | error e => rfl
    | ok v =>
      rw [he] at h
      cases v with
      | null => exact eval_eq_of_invocations fallback h.2
      | _ => rfl

theorem evalAll_eq_of_invocations (es : List Expr)
    (h : ∀ i ∈ Expr.invocationsAll methods row es, i.outcome methods' = i.outcome methods) :
    Expr.evalAll methods' row es = Expr.evalAll methods row es := by
  cases es with
  | nil => rfl
  | cons e rest =>
    rw [Expr.invocationsAll, List.forall_mem_append] at h
    rw [Expr.evalAll, Expr.evalAll, eval_eq_of_invocations e h.1]
    cases he : e.eval methods row with
    | error e => rfl
    | ok v =>
      rw [he] at h
      rw [evalAll_eq_of_invocations rest h.2]

end

/-! ## Arguments -/

theorem evalAll_of_all_ok {es : List Expr} {vs : List Value}
    (h : es.map (·.eval methods row) = vs.map .ok) :
    Expr.evalAll methods row es = .ok vs ∧
      Expr.invocationsAll methods row es = es.flatMap (·.invocations methods row) := by
  induction es generalizing vs with
  | nil =>
    cases List.map_eq_nil_iff.1 h.symm
    exact ⟨rfl, rfl⟩
  | cons e rest ih =>
    obtain ⟨v, vs, rfl, hv, hvs⟩ := List.map_eq_cons_iff.1 h.symm
    obtain ⟨hvalues, hinvocations⟩ := ih hvs.symm
    have hv : e.eval methods row = .ok v := hv.symm
    rw [Expr.evalAll, Expr.invocationsAll, hv, hvalues, hinvocations, List.flatMap_cons]
    exact ⟨rfl, rfl⟩

theorem evalAll_of_error {es : List Expr} {vs : List Value} {e : EvalError}
    {others : List (Except EvalError Value)}
    (h : es.map (·.eval methods row) = vs.map .ok ++ .error e :: others) :
    Expr.evalAll methods row es = .error e ∧
      Expr.invocationsAll methods row es =
        (es.take (vs.length + 1)).flatMap (·.invocations methods row) := by
  induction es generalizing vs with
  | nil => simp at h
  | cons first rest ih =>
    cases vs with
    | nil =>
      have hfirst : first.eval methods row = .error e := (List.cons.inj h).1
      rw [Expr.evalAll, Expr.invocationsAll, hfirst]
      exact ⟨rfl, rfl⟩
    | cons v vs =>
      have hfirst : first.eval methods row = .ok v := (List.cons.inj h).1
      obtain ⟨hvalues, hinvocations⟩ := ih (List.cons.inj h).2
      rw [Expr.evalAll, Expr.invocationsAll, hfirst, hvalues, hinvocations, List.length_cons,
        List.take_succ_cons, List.flatMap_cons]
      exact ⟨rfl, rfl⟩

end

end RowExpr.Host
