import RowExpr.Operator.Basic
import RowExpr.Value

/-!
# Row expressions

A row expression is a literal, a column of the row, or an operator called on operands. Every
node knows its type. Calls are built with a check of the operand count.
-/

namespace RowExpr

inductive Node
  | literal (value : Value) (type : SqlType)
  /-- A column by position, and by name where it has one. -/
  | input (index : UInt64) (name : Option String) (type : SqlType)
  | call (operator : Operator) (operands : List Node) (type : SqlType)
  deriving Repr, Inhabited

namespace Node

def type : Node → SqlType
  | literal _ t | input _ _ t | call _ _ t => t

def types (nodes : List Node) : List SqlType := nodes.map type

/-! ## Leaves -/

def int (i : Int64) : Node := literal (.int i) (.notNull .integer)

def string (s : String) : Node := literal (.string s) (.notNull .varchar)

def symbol (f : TrimFlag) : Node := literal (.flag f) (.notNull .symbol)

def null (name : TypeName) : Node := literal .null (.orNull name)

def column (index : UInt64) (name : String) (type : SqlType) : Node :=
  input index (some name) type

def value? : Node → Option Value
  | literal v _ => some v
  | _ => none

/-! ## Calls -/

/-- A call of a known type, refused when the operator does not take that many operands. -/
def ofCall (op : Operator) (operands : List Node) (type : SqlType) : Except BuildError Node :=
  if op.arity.admits operands.length then .ok (call op operands type)
  else .error (.operandCount op.id operands.length op.arity)

/-- A call whose type follows from the operator's rule. -/
def infer (op : Operator) (operands : List Node) : Except BuildError Node :=
  ofCall op operands (op.returns.infer (types operands))

/-- The same call of another operator. What is no call stays as it is. -/
def withOperator (op : Operator) : Node → Except BuildError Node
  | call _ operands type => ofCall op operands type
  | node => .ok node

def checkOperands (op : Operator) (operands : List Node) : Except BuildError Unit :=
  if op.operands.accepts (types operands) then .ok ()
  else .error (.operandTypes op.id (types operands))

def isCallTo (id : String) : Node → Bool
  | call op _ _ => op.id == id
  | _ => false

theorem ofCall_eq_ok_iff {op : Operator} {operands : List Node} {type : SqlType} {n : Node} :
    ofCall op operands type = .ok n ↔
      n = call op operands type ∧ op.arity.admits operands.length = true := by
  unfold ofCall
  split
  · next h => simp [h, eq_comm]
  · next h => simp [h]

/-! ## Equality -/

mutual

/-- Whether two expressions are equal, operators being told apart by identity. -/
def same : Node → Node → Bool
  | literal v t, literal w u => v.same w && t == u
  | input i m t, input j n u => i == j && m == n && t == u
  | call f as t, call g bs u => f.same g && sameAll as bs && t == u
  | _, _ => false

def sameAll : List Node → List Node → Bool
  | [], [] => true
  | a :: as, b :: bs => same a b && sameAll as bs
  | _, _ => false

end

end Node

/-! ## Sort keys -/

inductive Direction
  | ascending
  | descending
  deriving DecidableEq, Repr, Inhabited

inductive NullPlacement
  | first
  | last
  | unspecified
  deriving DecidableEq, Repr, Inhabited

structure SortKey where
  expr : Node
  direction : Direction := .ascending
  nulls : NullPlacement := .unspecified
  deriving Repr, Inhabited

def SortKey.isDescending (k : SortKey) : Bool := k.direction == .descending

def SortKey.same (a b : SortKey) : Bool :=
  a.expr.same b.expr && a.direction == b.direction && a.nulls == b.nulls

end RowExpr
