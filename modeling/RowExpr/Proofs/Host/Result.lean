import RowExpr.Proofs.Except
import RowExpr.Proofs.Host.Typing
import RowExpr.Proofs.Host.Binding

/-!
# Results

What an expression comes to in a mode, computed from what its operands come to. Lowering the
expression and evaluating what it becomes gives the same (`comesTo_result`), so that what holds
of every evaluation can be proved along the expression.
-/

namespace RowExpr.Host

/-- Lowered in a mode and evaluated on a row, the expression gives this result. -/
def ComesTo (c : Context) (row : List Value) (n : Node) (mode : NullMode)
    (r : Except EvalError Value) : Prop :=
  ∃ e, lower c n mode = .ok e ∧ e.eval c.methods row = r

theorem ComesTo.unique {c : Context} {row : List Value} {n : Node} {mode : NullMode}
    {r s : Except EvalError Value} (hr : ComesTo c row n mode r) (hs : ComesTo c row n mode s) :
    r = s := by
  obtain ⟨e, he, rfl⟩ := hr
  obtain ⟨f, hf, rfl⟩ := hs
  rw [he] at hf
  cases hf
  rfl

/-! ## Modes -/

/-- What a mode makes of a value that is held in a host type. -/
def NullMode.settle (mode : NullMode) (name : TypeName) (held : HostType) (v : Value) :
    Except EvalError Value :=
  match mode with
  | .null => .ok v
  | .false => .ok (if name = .boolean ∧ v = .null then .bool Bool.false else v)
  | .true => .ok (if name = .boolean ∧ v = .null then .bool Bool.true else v)
  | .notPossible =>
    if held.boxed && held.kind.isPrimitive then convertTo v (.primitive held.kind) else .ok v

section

variable (name : TypeName) (held : HostType) (v : Value)

theorem settle_false : NullMode.false.settle name held v =
    .ok (if name = .boolean ∧ v = .null then .bool Bool.false else v) := rfl

theorem settle_true : NullMode.true.settle name held v =
    .ok (if name = .boolean ∧ v = .null then .bool Bool.true else v) := rfl

theorem settle_notPossible : NullMode.notPossible.settle name held v =
    if held.boxed && held.kind.isPrimitive then convertTo v (.primitive held.kind)
    else .ok v := rfl

end

section

variable {methods : MethodTable} {row : List Value}

theorem eval_fail (message : String) :
    (Expr.fail message).eval methods row = .error (.unimplemented message) := by
  rw [Expr.eval]

theorem field_eq_ok {index : UInt64} {v : Value} (h : field row index = .ok v) :
    row[index.toNat]? = some v := by
  unfold field at h
  split at h
  · cases h
    assumption
  · cases h

theorem eval_convert (e : Expr) (t : HostType) :
    (Expr.convert e t).eval methods row = e.eval methods row >>= fun v => convertTo v t := by
  rw [Expr.eval]

/-- Where a mode replaces null, the fallback is a constant. -/
theorem eval_coalesce (e : Expr) (b : Value) (t : HostType) :
    (Expr.coalesce e (.constant b t)).eval methods row =
      e.eval methods row >>= fun v => .ok (if v = .null then b else v) := by
  rw [Expr.eval]
  cases e.eval methods row with
  | error _ => rfl
  | ok v => cases v <;> rfl

theorem eval_applyMode (e : Expr) (name : TypeName) (mode : NullMode) :
    (applyMode e name mode).eval methods row =
      e.eval methods row >>= mode.settle name e.type := by
  by_cases hfail : e.isFail = true
  · cases e <;> try cases hfail
    rw [eval_fail]
    exact eval_fail _
  rw [Bool.not_eq_true] at hfail
  simp only [applyMode, hfail, Bool.false_eq_true, if_false]
  cases mode with
  | null => exact (bind_ok _).symm
  | notPossible =>
    rw [funext (settle_notPossible name e.type)]
    by_cases hbox : (e.type.boxed && e.type.kind.isPrimitive) = true
    · simp only [hbox, if_true, eval_convert]
    · simp only [hbox]
      exact (bind_ok _).symm
  | false =>
    rw [funext (settle_false name e.type)]
    by_cases hname : name = .boolean
    · simp only [hname, if_true, true_and, eval_coalesce]
    · simp only [hname, if_false, false_and]
      exact (bind_ok _).symm
  | true =>
    rw [funext (settle_true name e.type)]
    by_cases hname : name = .boolean
    · simp only [hname, if_true, true_and, eval_coalesce]
    · simp only [hname, if_false, false_and]
      exact (bind_ok _).symm

end

/-! ## Implementors -/

/-- The mode in which an implementor lowers the operands of a call. -/
def Implementor.operandMode : Implementor → NullMode → NullMode
  | .isNull, _ | .isNotNull, _ => .null
  | _, mode => mode

/-- Whether an implementor lowers calls with so many operands. -/
def Implementor.Takes (methods : MethodTable) (count : Nat) : Implementor → Prop
  | .binary _ | .datetimeDivide => count = 2
  | .unary _ | .isNull | .isNotNull => count = 1
  | .method owner name => (methods.resolve owner name count).isSome = true
  | .fallback => True

/-- The host type of a lowered call. -/
def Implementor.held (methods : MethodTable) (count : Nat) (type : SqlType) :
    Implementor → HostType
  | .binary _ | .unary _ => .ofSqlType type
  | .isNull | .isNotNull => .primitive .bool
  | .datetimeDivide => ⟨.long, type.nullable⟩
  | .method owner name => (methods.resolve owner name count).elim (.inBox .object) (·.returns)
  | .fallback => .inBox .object

/-- An operand: its SQL type, and what it comes to. -/
structure Evaluated where
  type : SqlType
  result : Except EvalError Value

/-- A host operator on two results; `&&` and `||` do not always look at the right one. -/
def BinaryOp.combine (op : BinaryOp) (left right : Except EvalError Value) :
    Except EvalError Value :=
  match op with
  | .andAlso => do conjunction (← left) right
  | .orElse => do disjunction (← left) right
  | op => do
    let a ← left
    let b ← right
    applyBinary op a b

/-- A conjunction, with `k` false, or a disjunction, with `k` true, in three values: `k` on
either side decides. -/
def connect (k : Bool) (name : String) (left : Value) (right : Except EvalError Value) :
    Except EvalError Value :=
  let wrong (v : Value) : Except EvalError Value := .error (.mismatch (.logical name v))
  match left with
  | .bool t =>
    if t = k then .ok (.bool k)
    else do
      match ← right with
      | .bool u => .ok (.bool u)
      | .null => .ok .null
      | v => wrong v
  | .null => do
    match ← right with
    | .bool u => .ok (if u = k then .bool k else .null)
    | .null => .ok .null
    | v => wrong v
  | v => wrong v

theorem combine_andAlso (l r : Except EvalError Value) :
    BinaryOp.andAlso.combine l r = l >>= fun a => connect false "AND" a r := by
  refine congrArg (l >>= ·) (funext fun a => ?_)
  cases a with
  | bool t => cases t <;> rfl
  | null =>
    refine congrArg (r >>= ·) (funext fun b => ?_)
    cases b with
    | bool u => cases u <;> rfl
    | _ => rfl
  | _ => rfl

theorem combine_orElse (l r : Except EvalError Value) :
    BinaryOp.orElse.combine l r = l >>= fun a => connect true "OR" a r := by
  refine congrArg (l >>= ·) (funext fun a => ?_)
  cases a with
  | bool t => cases t <;> rfl
  | null =>
    refine congrArg (r >>= ·) (funext fun b => ?_)
    cases b with
    | bool u => cases u <;> rfl
    | _ => rfl
  | _ => rfl

/-- An operand on its way into a parameter: as the host holds it, then as the parameter. -/
def Evaluated.passTo (o : Evaluated) (param : HostType) : Except EvalError Value := do
  let held := HostType.ofSqlType o.type.nullify
  let v ← convertTo (← o.result) held
  if held = param then .ok v else convertTo v param

def passAll : List Evaluated → List HostType → Except EvalError (List Value)
  | o :: os, param :: params => do
    let v ← o.passTo param
    let vs ← passAll os params
    return v :: vs
  | _, _ => .ok []

/-- Reaching a call of an operator that has no implementor. -/
def EvalError.missing (op : Operator) : EvalError :=
  .unimplemented (op.name ++ ": Enumerable implementation is empty")

/-- A function of one result. Other counts of operands are not lowered. -/
def onOne (op : Operator) (f : Except EvalError Value → Except EvalError Value) :
    List Evaluated → Except EvalError Value
  | [o] => f o.result
  | _ => .error (.missing op)

def onTwo (op : Operator)
    (f : Except EvalError Value → Except EvalError Value → Except EvalError Value) :
    List Evaluated → Except EvalError Value
  | [l, r] => f l.result r.result
  | _ => .error (.missing op)

/-- What a call comes to. -/
def Implementor.apply (methods : MethodTable) (op : Operator) (type : SqlType)
    (i : Implementor) (os : List Evaluated) : Except EvalError Value :=
  match i with
  | .binary host => onTwo op host.combine os
  | .unary host => onOne op (· >>= applyUnary host) os
  | .isNull => onOne op (· >>= applyUnary .isNull) os
  | .isNotNull => onOne op (· >>= applyUnary .isNotNull) os
  | .datetimeDivide =>
    onTwo op (fun l r => BinaryOp.divide.combine l r >>= (convertTo · ⟨.long, type.nullable⟩)) os
  | .method owner name =>
    match methods.resolve owner name os.length with
    | some m => passAll os m.params >>= m.body
    | none => .error (.methodNotFound owner name)
  | .fallback => .error (.missing op)

section

variable {methods : MethodTable} {row : List Value}

theorem eval_combine (op : BinaryOp) (l r : Expr) (type : HostType) :
    (Expr.binary op l r type).eval methods row =
      op.combine (l.eval methods row) (r.eval methods row) := by
  cases op <;> rfl

/-- An operand of a call, lowered in the mode and evaluated on the row. -/
def Operand.GivesIn (methods : MethodTable) (row : List Value) (mode : NullMode) (o : Operand)
    (v : Evaluated) : Prop :=
  o.type = v.type ∧ ∃ e, o.lower mode = .ok e ∧ e.eval methods row = v.result

theorem contains_of_resolve {owner name : String} {count : Nat} {m : Method}
    (h : methods.resolve owner name count = some m) : methods.contains owner name = true := by
  by_contra hnot
  have hnone : methods.overloads[(owner, name)]? = none :=
    Std.HashMap.getElem?_eq_none (by simpa [MethodTable.contains] using hnot)
  simp [MethodTable.resolve, MethodTable.named, Std.HashMap.getD_eq_getD_getElem?, hnone] at h

/-- The argument that an operand of a SQL type becomes. -/
def Expr.passTo (e : Expr) (type : SqlType) (param : HostType) : Expr :=
  let held := HostType.ofSqlType type.nullify
  if held = param then .convert e held else .convert (.convert e held) param

theorem eval_passTo (e : Expr) (type : SqlType) (param : HostType) :
    (e.passTo type param).eval methods row = Evaluated.passTo ⟨type, e.eval methods row⟩ param := by
  simp only [Expr.passTo, Evaluated.passTo]
  split
  · rw [eval_convert]
    simp only [bind_ok]
  · rw [eval_convert, eval_convert, bind_assoc]

theorem methodArgs_cons {mode : NullMode} {o : Operand} {os : List Operand} {param : HostType}
    {params : List HostType} {e : Expr} {args : List Expr} (he : o.lower mode = .ok e)
    (hargs : methodArgs mode os params = .ok args) :
    methodArgs mode (o :: os) (param :: params) = .ok (e.passTo o.type param :: args) := by
  simp only [methodArgs, he, hargs]
  rfl

theorem gives_methodArgs {mode : NullMode} {os : List Operand} {vs : List Evaluated}
    (hos : List.Forall₂ (Operand.GivesIn methods row mode) os vs) (params : List HostType) :
    ∃ args, methodArgs mode os params = .ok args ∧
      Expr.evalAll methods row args = passAll vs params := by
  induction hos generalizing params with
  | nil => exact ⟨[], rfl, rfl⟩
  | @cons o v os vs ho _ ih =>
    obtain ⟨htype, e, he, hv⟩ := ho
    cases params with
    | nil => exact ⟨[], rfl, rfl⟩
    | cons param params =>
      obtain ⟨args, hargs, hrest⟩ := ih params
      refine ⟨_, methodArgs_cons he hargs, ?_⟩
      rw [Expr.evalAll, eval_passTo, hrest, hv, htype]
      rfl

theorem length_passAll {vs : List Evaluated} {params : List HostType} {args : List Value}
    (hcount : params.length = vs.length) (h : passAll vs params = .ok args) :
    args.length = params.length := by
  induction vs generalizing params args with
  | nil =>
    cases h
    exact hcount.symm
  | cons v vs ih =>
    cases params with
    | nil => cases hcount
    | cons param params =>
      obtain ⟨a, -, h⟩ := bind_eq_ok_iff.1 h
      obtain ⟨rest, hrest, h⟩ := bind_eq_ok_iff.1 h
      cases h
      simp [ih (Nat.succ.inj hcount) hrest]

theorem length_of_resolve {owner name : String} {count : Nat} {m : Method}
    (h : methods.resolve owner name count = some m) : m.params.length = count := by
  simpa using List.find?_some h

theorem gives_implementMethod {owner name : String} {m : Method} {mode : NullMode}
    {os : List Operand} {vs : List Evaluated}
    (hos : List.Forall₂ (Operand.GivesIn methods row mode) os vs)
    (hm : methods.resolve owner name os.length = some m) :
    ∃ e, implementMethod methods owner name mode os = .ok e ∧
      e.eval methods row = passAll vs m.params >>= m.body ∧ e.type = m.returns := by
  obtain ⟨args, hargs, hvalues⟩ := gives_methodArgs hos m.params
  refine ⟨.call owner name args m.returns, ?_, ?_, rfl⟩
  · simp only [implementMethod, contains_of_resolve hm, hm, hargs]
    rfl
  · rw [Expr.eval, hvalues]
    cases hpass : passAll vs m.params with
    | error e => rfl
    | ok vals =>
      have hcount := length_of_resolve hm
      have hlength : vals.length = os.length :=
        (length_passAll (hcount.trans hos.length_eq) hpass).trans hcount
      show methods.invoke owner name vals = m.body vals
      rw [MethodTable.invoke, hlength, hm]

theorem gives_implementUnary (op : Operator) (host : UnaryOp) (type : HostType)
    {mode : NullMode} {o : Operand} {v : Evaluated} (ho : o.GivesIn methods row mode v) :
    ∃ e, implementUnary op host mode type [o] = .ok e ∧
      e.eval methods row = v.result >>= applyUnary host ∧ e.type = type := by
  obtain ⟨-, e, he, hv⟩ := ho
  refine ⟨.unary host e type, ?_, ?_, rfl⟩
  · simp only [implementUnary, he]
    rfl
  · rw [Expr.eval, hv]

theorem gives_implementBinary (op : Operator) (host : BinaryOp) (type : SqlType)
    {mode : NullMode} {l r : Operand} {a b : Evaluated} (hl : l.GivesIn methods row mode a)
    (hr : r.GivesIn methods row mode b) :
    ∃ e, implementBinary op host mode type [l, r] = .ok e ∧
      e.eval methods row = host.combine a.result b.result ∧ e.type = .ofSqlType type := by
  obtain ⟨-, el, hel, ha⟩ := hl
  obtain ⟨-, er, her, hb⟩ := hr
  refine ⟨.binary host el er (.ofSqlType type), ?_, ?_, rfl⟩
  · simp only [implementBinary, hel, her]
    rfl
  · rw [eval_combine, ha, hb]

/-- A lowered call comes to what its implementor makes of the operands. -/
theorem gives_implement {i : Implementor} {mode : NullMode} {os : List Operand}
    {vs : List Evaluated} (op : Operator) (type : SqlType)
    (htakes : i.Takes methods os.length)
    (hos : List.Forall₂ (Operand.GivesIn methods row (i.operandMode mode)) os vs) :
    ∃ e, i.implement methods op os type mode = .ok e ∧
      e.eval methods row = i.apply methods op type vs ∧ e.type = i.held methods os.length type := by
  cases i with
  | fallback => exact ⟨unimplemented op, rfl, eval_fail _, rfl⟩
  | method owner name =>
    obtain ⟨m, hm⟩ := Option.isSome_iff_exists.1 htakes
    obtain ⟨e, he, hvalue, htype⟩ := gives_implementMethod hos hm
    refine ⟨e, he, ?_, ?_⟩
    · rw [hvalue, Implementor.apply, ← hos.length_eq, hm]
    · rw [htype, Implementor.held, hm]
      rfl
  | unary host =>
    obtain ⟨o, rfl⟩ := List.length_eq_one_iff.1 htakes
    rcases hos with _ | ⟨ho, _ | _⟩
    exact gives_implementUnary op host _ ho
  | isNull =>
    obtain ⟨o, rfl⟩ := List.length_eq_one_iff.1 htakes
    rcases hos with _ | ⟨ho, _ | _⟩
    exact gives_implementUnary op .isNull _ ho
  | isNotNull =>
    obtain ⟨o, rfl⟩ := List.length_eq_one_iff.1 htakes
    rcases hos with _ | ⟨ho, _ | _⟩
    exact gives_implementUnary op .isNotNull _ ho
  | binary host =>
    obtain ⟨l, r, rfl⟩ := List.length_eq_two.1 htakes
    rcases hos with _ | ⟨hl, _ | ⟨hr, _ | _⟩⟩
    exact gives_implementBinary op host type hl hr
  | datetimeDivide =>
    obtain ⟨l, r, rfl⟩ := List.length_eq_two.1 htakes
    rcases hos with _ | ⟨hl, _ | ⟨hr, _ | _⟩⟩
    obtain ⟨e, he, hvalue, -⟩ := gives_implementBinary op .divide type hl hr
    refine ⟨.convert e ⟨.long, type.nullable⟩, ?_, ?_, rfl⟩
    · rw [Implementor.implement]
      exact congrArg (· >>= _) he
    · rw [eval_convert, hvalue]
      rfl

end

/-! ## Expressions -/

section

variable (c : Context) (row : List Value)

mutual

/-- What an expression comes to in a mode. -/
def result : Node → NullMode → Except EvalError Value
  | .literal v type, mode => mode.settle type.name (.ofSqlType type) v
  | .input index _ type, mode => do
    mode.settle type.name (.ofSqlType type.nullify) (← field row index)
  | .call op ns type, mode => do
    let i := c.implementors.find op.id
    let v ← i.apply c.methods op type (resultAll ns (i.operandMode mode))
    mode.settle type.name (i.held c.methods ns.length type) v

def resultAll : List Node → NullMode → List Evaluated
  | [], _ => []
  | n :: rest, mode => ⟨n.type, result n mode⟩ :: resultAll rest mode

end

/-- The operator of a call takes so many operands where it is lowered. -/
def Lowerable : Node → Prop
  | .call op ns _ => (c.implementors.find op.id).Takes c.methods ns.length
  | _ => True

end

section

variable {c : Context} {row : List Value}

theorem resultAll_eq_map (ns : List Node) (mode : NullMode) :
    resultAll c row ns mode = ns.map fun n => ⟨n.type, result c row n mode⟩ := by
  induction ns with
  | nil => rfl
  | cons n rest ih => simp [resultAll, ih]

theorem forall₂_resultAll {R : Evaluated → Evaluated → Prop} {c' : Context} {ns : List Node}
    {mode mode' : NullMode}
    (h : ∀ n ∈ ns, R ⟨n.type, result c row n mode⟩ ⟨n.type, result c' row n mode'⟩) :
    List.Forall₂ R (resultAll c row ns mode) (resultAll c' row ns mode') := by
  rwa [resultAll_eq_map, resultAll_eq_map, List.forall₂_map_left_iff,
    List.forall₂_map_right_iff, List.forall₂_same]

theorem comesTo_call {op : Operator} {ns : List Node} {type : SqlType}
    (hn : Lowerable c (.call op ns type))
    (hns : ∀ n ∈ ns, ∀ mode, ComesTo c row n mode (result c row n mode)) (mode : NullMode) :
    ComesTo c row (.call op ns type) mode (result c row (.call op ns type) mode) := by
  have hos : List.Forall₂
      (Operand.GivesIn c.methods row ((c.implementors.find op.id).operandMode mode))
      (lowerAll c ns) (resultAll c row ns ((c.implementors.find op.id).operandMode mode)) := by
    rw [lowerAll_eq_map, resultAll_eq_map, List.forall₂_map_left_iff, List.forall₂_map_right_iff,
      List.forall₂_same]
    exact fun n hn => ⟨rfl, hns n hn _⟩
  obtain ⟨e, he, hvalue, htype⟩ := gives_implement op type
    (by rwa [length_lowerAll]) hos
  refine ⟨applyMode e type.name mode, ?_, ?_⟩
  · simp only [lower, he]
    rfl
  · rw [eval_applyMode, hvalue, htype, length_lowerAll]
    rfl

/-- Lowering and evaluating an expression gives its result. -/
theorem comesTo_result {n : Node} (h : n.Everywhere (Lowerable c)) (mode : NullMode) :
    ComesTo c row n mode (result c row n mode) := by
  induction h generalizing mode with
  | @intro n hn _ ih =>
    cases n with
    | literal v type => exact ⟨_, rfl, eval_applyMode _ _ _⟩
    | input index name type => exact ⟨_, rfl, eval_applyMode _ _ _⟩
    | call op ns type => exact comesTo_call hn ih mode

end

end RowExpr.Host
