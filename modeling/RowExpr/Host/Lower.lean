import RowExpr.Host.Eval
import RowExpr.Node
import RowExpr.Operator.Catalog

/-!
# Lowering

A row expression becomes a host expression. Each operator is bound to an implementor, by
identity; an operator without one becomes an expression that fails when it is evaluated.
-/

namespace RowExpr.Host

/-- What a null result stands for. -/
inductive NullMode
  | null
  /-- The result is known not to be null. -/
  | notPossible
  | false
  | true
  deriving DecidableEq, Repr, Inhabited

/-- How the calls of an operator are lowered. -/
inductive Implementor
  | binary (op : BinaryOp)
  | unary (op : UnaryOp)
  /-- Null tests: their operand keeps its nulls in every mode. -/
  | isNull
  | isNotNull
  /-- A division whose quotient becomes a 64-bit integer. -/
  | datetimeDivide
  /-- A method, given one argument per operand. -/
  | method (owner name : String)
  /-- Stands in where there is no implementor. -/
  | fallback
  deriving DecidableEq, Repr, Inhabited

/-! ## Bindings -/

structure Implementors where
  bindings : Std.HashMap String Implementor := ∅

namespace Implementors

def empty : Implementors := {}

def register (is : Implementors) (id : String) (i : Implementor) : Implementors :=
  { bindings := is.bindings.insert id i }

def contains (is : Implementors) (id : String) : Bool := is.bindings.contains id

def size (is : Implementors) : Nat := is.bindings.size

def find (is : Implementors) (id : String) : Implementor := is.bindings.getD id .fallback

def ofList (bindings : List (String × Implementor)) : Implementors :=
  bindings.foldl (fun is b => is.register b.1 b.2) empty

def text (is : Implementors) : String :=
  "ImplementorRegistry \x7b operators: "
    ++ Text.quotedList (is.bindings.keys.mergeSort (fun a b => !decide (b < a))) ++ " \x7d"

theorem find_register (is : Implementors) (id other : String) (i : Implementor) :
    (is.register id i).find other = if id = other then i else is.find other := by
  simp [find, register, Std.HashMap.getD_insert]

end Implementors

def standardBindings : List (String × Implementor) :=
  let infixes : List (Operator × BinaryOp) :=
    [(Catalog.plus, .plus), (Catalog.minus, .minus), (Catalog.times, .times),
     (Catalog.divide, .divide), (Catalog.mod, .mod), (Catalog.equals, .equal),
     (Catalog.notEquals, .notEqual), (Catalog.lessThan, .lessThan),
     (Catalog.lessThanOrEqual, .lessThanOrEqual), (Catalog.greaterThan, .greaterThan),
     (Catalog.greaterThanOrEqual, .greaterThanOrEqual), (Catalog.and, .andAlso),
     (Catalog.or, .orElse)]
  let functions : List (Operator × String) :=
    [(Catalog.upper, "upper"), (Catalog.lower, "lower"), (Catalog.charLength, "charLength"),
     (Catalog.substring, "substring"), (Catalog.trim, "trim"), (Catalog.abs, "abs"),
     (Catalog.pi, "pi"), (Catalog.nullIndicator, "nullIndicator")]
  infixes.map (fun b => (b.1.id, .binary b.2))
    ++ [(Catalog.datetimeDivide.id, .datetimeDivide), (Catalog.not.id, .unary .not),
        (Catalog.unaryMinus.id, .unary .negate), (Catalog.isNull.id, .isNull),
        (Catalog.isNotNull.id, .isNotNull)]
    ++ functions.map (fun b => (b.1.id, .method Standard.owner b.2))

def Implementors.standard : Implementors := ofList standardBindings

/-! ## Nulls -/

/-- What a null result stands for, built into an expression of a SQL type. An expression that
fails stays as it is. -/
def applyMode (e : Expr) (name : TypeName) (mode : NullMode) : Expr :=
  if e.isFail then e
  else
    match mode with
    | .null => e
    | .false =>
      if name = .boolean then .coalesce e (.constant (.bool Bool.false) (.primitive .bool)) else e
    | .true =>
      if name = .boolean then .coalesce e (.constant (.bool Bool.true) (.primitive .bool)) else e
    | .notPossible =>
      if e.type.boxed && e.type.kind.isPrimitive then .convert e (.primitive e.type.kind) else e

/-! ## Calls -/

/-- An operand: its SQL type, and what it becomes in each mode. -/
structure Operand where
  type : SqlType
  lower : NullMode → Except LowerError Expr

/-- The arguments of a method: each operand as the host holds it, then as the parameter. -/
def methodArgs (mode : NullMode) : List Operand → List HostType → Except LowerError (List Expr)
  | operand :: operands, param :: params => do
    let held := HostType.ofSqlType operand.type.nullify
    let arg := Expr.convert (← operand.lower mode) held
    let rest ← methodArgs mode operands params
    return (if held = param then arg else .convert arg param) :: rest
  | _, _ => .ok []

def implementMethod (methods : MethodTable) (owner name : String) (mode : NullMode)
    (operands : List Operand) : Except LowerError Expr :=
  if !methods.contains owner name then .error (.methodNotFound owner name)
  else
    match methods.resolve owner name operands.length with
    | none => .error (.argumentCount owner name operands.length)
    | some m => do return .call owner name (← methodArgs mode operands m.params) m.returns

def implementBinary (op : Operator) (host : BinaryOp) (mode : NullMode) (type : SqlType) :
    List Operand → Except LowerError Expr
  | [l, r] => do
    let left ← l.lower mode
    let right ← r.lower mode
    return .binary host left right (.ofSqlType type)
  | operands => .error (.operandCount op.id 2 operands.length)

def implementUnary (op : Operator) (host : UnaryOp) (mode : NullMode) (type : HostType) :
    List Operand → Except LowerError Expr
  | [e] => do return .unary host (← e.lower mode) type
  | operands => .error (.operandCount op.id 1 operands.length)

/-- The expression that a missing implementor leaves behind. -/
def unimplemented (op : Operator) : Expr :=
  .fail (op.name ++ ": Enumerable implementation is empty")

/-- A call of an operator on operands, with a result of a SQL type. -/
def Implementor.implement (methods : MethodTable) (i : Implementor) (op : Operator)
    (operands : List Operand) (type : SqlType) (mode : NullMode) : Except LowerError Expr :=
  match i with
  | .binary host => implementBinary op host mode type operands
  | .unary host => implementUnary op host mode (.ofSqlType type) operands
  | .isNull => implementUnary op .isNull .null (.primitive .bool) operands
  | .isNotNull => implementUnary op .isNotNull .null (.primitive .bool) operands
  | .datetimeDivide => do
    let quotient ← implementBinary op .divide mode type operands
    return .convert quotient ⟨.long, type.nullable⟩
  | .method owner name => implementMethod methods owner name mode operands
  | .fallback => .ok (unimplemented op)

/-! ## Expressions -/

structure Context where
  implementors : Implementors
  methods : MethodTable

def Context.standard : Context := ⟨.standard, .standard⟩

mutual

def lower (c : Context) : Node → NullMode → Except LowerError Expr
  | .literal v type, mode =>
    .ok (applyMode (.constant v (.ofSqlType type)) type.name mode)
  | .input index _ type, mode =>
    .ok (applyMode (.parameter index (.ofSqlType type.nullify)) type.name mode)
  | .call op operands type, mode => do
    let e ← (c.implementors.find op.id).implement c.methods op (lowerAll c operands) type mode
    return applyMode e type.name mode

def lowerAll (c : Context) : List Node → List Operand
  | [] => []
  | n :: rest => ⟨n.type, fun mode => lower c n mode⟩ :: lowerAll c rest

end

/-- A call lowered by a given implementor, nulls left as they come. What is no call is
lowered as it is. -/
def implementCall (c : Context) (i : Implementor) (mode : NullMode) :
    Node → Except LowerError Expr
  | .call op operands type => i.implement c.methods op (lowerAll c operands) type mode
  | node => lower c node mode

theorem lowerAll_eq_map (c : Context) (ns : List Node) :
    lowerAll c ns = ns.map fun n => ⟨n.type, fun mode => lower c n mode⟩ := by
  induction ns with
  | nil => rfl
  | cons n rest ih => simp [lowerAll, ih]

theorem length_lowerAll (c : Context) (ns : List Node) : (lowerAll c ns).length = ns.length := by
  simp [lowerAll_eq_map]

end RowExpr.Host
