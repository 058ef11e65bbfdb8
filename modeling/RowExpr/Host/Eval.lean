import RowExpr.Host.Method

/-!
# Evaluation

The value of a host expression on a row. Null runs through operators and conversions; `&&`
and `||` are three-valued and look at their right operand only when they have to.
-/

namespace RowExpr.Host

/-! ## Conversions -/

/-- A value as a value of a host type. A float loses its fraction, and stays within 64 bits,
on the way to an integer. -/
def convertTo (v : Value) (t : HostType) : Except EvalError Value :=
  match t.kind, v with
  | _, .null => if t.canHoldNull then .ok .null else .error (.nullConversion t)
  | .object, v => .ok v
  | .bool, .bool b => .ok (.bool b)
  | .int, .int i | .long, .int i => .ok (.int i)
  | .int, .float x | .long, .float x => .ok (.int x.toInt64)
  | .double, .int i => .ok (.float (Decimal.floatOfInt i))
  | .double, .float x => .ok (.float x)
  | .string, .string s => .ok (.string s)
  | .string, v => .ok (.string v.text)
  | .symbol, .flag f => .ok (.flag f)
  | kind, v => .error (.mismatch (.conversion v kind))

/-! ## Operators -/

/-- A conjunction in three values. `right` is looked at unless the left operand is false. -/
def conjunction (left : Value) (right : Except EvalError Value) : Except EvalError Value :=
  let wrong (v : Value) : Except EvalError Value := .error (.mismatch (.logical "AND" v))
  match left with
  | .bool false => .ok (.bool false)
  | .bool true => do
    match ← right with
    | .bool b => .ok (.bool b)
    | .null => .ok .null
    | v => wrong v
  | .null => do
    match ← right with
    | .bool false => .ok (.bool false)
    | .bool true | .null => .ok .null
    | v => wrong v
  | v => wrong v

/-- A disjunction in three values. `right` is looked at unless the left operand is true. -/
def disjunction (left : Value) (right : Except EvalError Value) : Except EvalError Value :=
  let wrong (v : Value) : Except EvalError Value := .error (.mismatch (.logical "OR" v))
  match left with
  | .bool true => .ok (.bool true)
  | .bool false => do
    match ← right with
    | .bool b => .ok (.bool b)
    | .null => .ok .null
    | v => wrong v
  | .null => do
    match ← right with
    | .bool true => .ok (.bool true)
    | .bool false | .null => .ok .null
    | v => wrong v
  | v => wrong v

def toFloat : Value → Except EvalError Float
  | .int i => .ok (Decimal.floatOfInt i)
  | .float x => .ok x
  | v => .error (.mismatch (.notNumber v))

def orderFloats (x y : Float) : Option Ordering :=
  if x < y then some .lt
  else if x == y then some .eq
  else if y < x then some .gt
  else none

/-- The order of two values of one kind. A float that is not a number has none. -/
def order? : Value → Value → Option Ordering
  | .int a, .int b => some (compareOfLessAndEq a b)
  | .int a, .float y => orderFloats (Decimal.floatOfInt a) y
  | .float x, .int b => orderFloats x (Decimal.floatOfInt b)
  | .float x, .float y => orderFloats x y
  | .string a, .string b => some (compareOfLessAndEq a b)
  | .bool a, .bool b => some (compareOfLessAndEq a.toNat b.toNat)
  | _, _ => none

/-- What a comparison says of an order; other operators are no comparisons. -/
def BinaryOp.test? : BinaryOp → Option (Ordering → Bool)
  | .equal => some (· == .eq)
  | .notEqual => some (· != .eq)
  | .lessThan => some (· == .lt)
  | .lessThanOrEqual => some (· != .gt)
  | .greaterThan => some (· == .gt)
  | .greaterThanOrEqual => some (· != .lt)
  | _ => none

/-- Arithmetic on 64 bits, wrapping around. Division cuts toward zero. -/
def arithmeticInt (op : BinaryOp) (a b : Int64) : Except EvalError Value :=
  match op with
  | .plus => .ok (.int (a + b))
  | .minus => .ok (.int (a - b))
  | .times => .ok (.int (a * b))
  | .divide => if b = 0 then .error .divisionByZero else .ok (.int (a / b))
  | .mod => if b = 0 then .error .divisionByZero else .ok (.int (a % b))
  | op => .error (.mismatch (.notArithmetic op))

def arithmeticFloat (op : BinaryOp) (x y : Float) : Except EvalError Value :=
  match op with
  | .plus => .ok (.float (x + y))
  | .minus => .ok (.float (x - y))
  | .times => .ok (.float (x * y))
  | .divide => if y == 0 then .error .divisionByZero else .ok (.float (x / y))
  | .mod => if y == 0 then .error .divisionByZero else .ok (.float (Decimal.remainder x y))
  | op => .error (.mismatch (.notArithmetic op))

/-- Integers stay integers; beside a float both become floats. -/
def arithmetic (op : BinaryOp) (left right : Value) : Except EvalError Value :=
  match left, right with
  | .int a, .int b => arithmeticInt op a b
  | l, r => do arithmeticFloat op (← toFloat l) (← toFloat r)

/-- An operator on two values. With null on either side it gives null. -/
def applyBinary (op : BinaryOp) (left right : Value) : Except EvalError Value :=
  if left.isNull || right.isNull then .ok .null
  else
    match op.test? with
    | some test =>
      match order? left right with
      | some o => .ok (.bool (test o))
      | none => .error (.mismatch (.incomparable left right))
    | none => arithmetic op left right

def applyUnary (op : UnaryOp) (v : Value) : Except EvalError Value :=
  match op, v with
  | .isNull, v => .ok (.bool v.isNull)
  | .isNotNull, v => .ok (.bool !v.isNull)
  | _, .null => .ok .null
  | .not, .bool b => .ok (.bool !b)
  | .negate, .int i => .ok (.int (-i))
  | .negate, .float x => .ok (.float (-x))
  | op, v => .error (.mismatch (.unary op v))

/-! ## Expressions -/

def field (row : List Value) (index : UInt64) : Except EvalError Value :=
  match row[index.toNat]? with
  | some v => .ok v
  | none => .error (.missingField index)

mutual

def Expr.eval (methods : MethodTable) (row : List Value) : Expr → Except EvalError Value
  | .constant v _ => .ok v
  | .parameter index _ => field row index
  | .convert e t => do convertTo (← e.eval methods row) t
  | .call owner name args _ => do methods.invoke owner name (← Expr.evalAll methods row args)
  | .binary .andAlso l r _ => do conjunction (← l.eval methods row) (r.eval methods row)
  | .binary .orElse l r _ => do disjunction (← l.eval methods row) (r.eval methods row)
  | .binary op l r _ => do
    let left ← l.eval methods row
    let right ← r.eval methods row
    applyBinary op left right
  | .unary op e _ => do applyUnary op (← e.eval methods row)
  | .coalesce e fallback => do
    match ← e.eval methods row with
    | .null => fallback.eval methods row
    | v => .ok v
  | .fail message => .error (.unimplemented message)

def Expr.evalAll (methods : MethodTable) (row : List Value) :
    List Expr → Except EvalError (List Value)
  | [] => .ok []
  | e :: rest => do
    let v ← e.eval methods row
    let vs ← Expr.evalAll methods row rest
    return v :: vs

end

theorem convertTo_null (t : HostType) :
    convertTo .null t = if t.canHoldNull then .ok .null else .error (.nullConversion t) := by
  rcases t with ⟨kind, boxed⟩
  cases kind <;> rfl

theorem applyBinary_null_left (op : BinaryOp) (v : Value) :
    applyBinary op .null v = .ok .null := rfl

theorem applyBinary_null_right (op : BinaryOp) (v : Value) :
    applyBinary op v .null = .ok .null := by
  simp [applyBinary, Value.isNull]

end RowExpr.Host
