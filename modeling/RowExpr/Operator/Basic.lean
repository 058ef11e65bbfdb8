import RowExpr.Arity
import RowExpr.Operator.Rule
import RowExpr.Text.Quoted

/-!
# Operators

What is known of an operator: its identity, its name and spelling, how strongly it binds,
its type rules, and how many operands it takes. Two operators may share a name; they are
told apart by their identity.
-/

namespace RowExpr

inductive Kind
  | plus
  | minus
  | times
  | divide
  | mod
  | minusPrefix
  | equals
  | notEquals
  | lessThan
  | lessThanOrEqual
  | greaterThan
  | greaterThanOrEqual
  | and
  | or
  | not
  | isNull
  | isNotNull
  | trim
  | otherFunction
  | other
  deriving DecidableEq, Repr, Inhabited

def Kind.isArithmetic : Kind → Bool
  | plus | minus | times | divide | mod => true
  | _ => false

/-- How an operator is spelled. -/
inductive Form
  /-- An operator between its operands. -/
  | binary
  /-- An operator before its operand. -/
  | prefixOp
  /-- An operator after its operand. -/
  | postfixOp
  /-- A name and its arguments in parentheses. -/
  | function
  /-- A bare name when there are no arguments. -/
  | functionId
  /-- A flag, characters, `FROM` and a source, in parentheses. -/
  | trim
  /-- A source, `FROM` a start, `FOR` a length, in parentheses. -/
  | substring
  /-- One for null, zero for anything else. -/
  | nullIndicator
  deriving DecidableEq, Repr, Inhabited

structure Operator where
  id : String
  /-- The name as SQL writes it. -/
  name : String
  kind : Kind
  form : Form := .function
  precedence : UInt32 := 0
  leftAssoc : Bool := true
  returns : ReturnRule := .firstOperand
  operands : OperandRule := .any
  arity : Arity := .unbounded
  deriving DecidableEq, Repr, Inhabited

/-! ## Errors -/

/-- Why an operator's kind does not go with its rules. -/
inductive Inconsistency
  | noName
  | arithmeticRule
  | trimRule
  | niladicArity
  deriving DecidableEq, Repr

def Inconsistency.reason : Inconsistency → String
  | noName => "operator name must not be empty"
  | arithmeticRule => "arithmetic operators need a numeric-or-temporal operand rule"
  | trimRule => "TRIM operators need the trim operand rule"
  | niladicArity => "niladic operators take exactly zero operands"

/-- Why an operator or a call cannot be built. Operators are named by identity. -/
inductive BuildError
  | arity (cause : ArityError)
  | inconsistent (operator : String) (cause : Inconsistency)
  | operandCount (operator : String) (count : Nat) (bounds : Arity)
  | operandTypes (operator : String) (types : List SqlType)
  deriving DecidableEq, Repr

def BuildError.message : BuildError → String
  | arity cause => cause.message
  | inconsistent operator cause =>
    "Operator " ++ operator ++ " is inconsistent with its kind: " ++ cause.reason
  | operandCount operator count bounds =>
    "Operator " ++ operator ++ " called with " ++ toString count
      ++ " operands, expected between " ++ toString bounds.lowerNumber ++ " and "
      ++ toString bounds.upperNumber ++ " (-1 = unbounded)"
  | operandTypes operator types =>
    "Operator " ++ operator ++ " does not accept operand types "
      ++ Text.quotedList (types.map SqlType.text)

namespace Operator

def same (a b : Operator) : Bool := a.id == b.id

/-! ## Binding strength -/

/-- How strongly the operand on the left is bound. -/
def leftPrec (op : Operator) : Nat :=
  2 * op.precedence.toNat + (if op.leftAssoc then 0 else 1)

/-- How strongly the operand on the right is bound. -/
def rightPrec (op : Operator) : Nat :=
  2 * op.precedence.toNat + (if op.leftAssoc then 1 else 0)

/-! ## Consistency -/

/-- What ties the kind to the type rules and the arity. -/
def inconsistency? (op : Operator) : Option Inconsistency :=
  if op.kind.isArithmetic && !op.operands.isNumericOrTemporal then some .arithmeticRule
  else if op.kind = .trim ∧ op.operands ≠ .trim then some .trimRule
  else if op.operands = .niladic ∧ op.arity ≠ .zero then some .niladicArity
  else none

/-- The operator itself, once it is known to be consistent. -/
def check (op : Operator) : Except BuildError Operator :=
  if op.name = "" then .error (.inconsistent op.id .noName)
  else if ¬ op.arity.Ordered then
    .error (.arity (.invalid op.arity.lowerNumber op.arity.upperNumber))
  else
    match op.inconsistency? with
    | some cause => .error (.inconsistent op.id cause)
    | none => .ok op

/-- What `check` makes sure of. -/
structure Consistent (op : Operator) : Prop where
  name_ne_empty : op.name ≠ ""
  ordered : op.arity.Ordered
  arithmetic : op.kind.isArithmetic = true → op.operands.isNumericOrTemporal = true
  trim : op.kind = .trim → op.operands = .trim
  niladic : op.operands = .niladic → op.arity = .zero

theorem inconsistency?_eq_none_iff (op : Operator) :
    op.inconsistency? = none ↔
      (op.kind.isArithmetic = true → op.operands.isNumericOrTemporal = true) ∧
      (op.kind = .trim → op.operands = .trim) ∧
      (op.operands = .niladic → op.arity = .zero) := by
  unfold inconsistency?
  grind

theorem check_eq_ok_iff {op o : Operator} : op.check = .ok o ↔ o = op ∧ op.Consistent := by
  unfold check
  constructor
  · intro h
    split at h
    · cases h
    · split at h
      · cases h
      · split at h
        · cases h
        · next hname hord _ hnone =>
          cases h
          obtain ⟨h1, h2, h3⟩ := (inconsistency?_eq_none_iff op).1 hnone
          exact ⟨rfl, hname, Decidable.of_not_not hord, h1, h2, h3⟩
  · rintro ⟨rfl, h⟩
    have hnone := (inconsistency?_eq_none_iff o).2 ⟨h.arithmetic, h.trim, h.niladic⟩
    simp [h.name_ne_empty, h.ordered, hnone]

end Operator

end RowExpr
