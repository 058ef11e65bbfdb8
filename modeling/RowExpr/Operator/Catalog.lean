import RowExpr.Operator.Basic

/-!
# The standard operators

The catalog in its order. Of two operators with one name, the earlier is found by name:
`DATETIME_DIVIDE` and `UNARY_MINUS` come after the operators whose names they share.
-/

namespace RowExpr.Catalog

/-- An operator between two operands that groups to the left. -/
def infixOperator (id name : String) (kind : Kind) (precedence : UInt32)
    (operands : OperandRule) (returns : ReturnRule) : Operator :=
  { id, name, kind, precedence, operands, returns, form := .binary, arity := .two }

/-- A test that follows its operand and is never null. -/
def nullTest (id name : String) (kind : Kind) : Operator :=
  { id, name, kind, form := .postfixOp, precedence := 28, returns := .booleanNotNull,
    arity := .one }

def comparison (id name : String) (kind : Kind) : Operator :=
  infixOperator id name kind 30 .comparable .boolean

def unaryFunction (name : String) (operands : OperandRule) (returns : ReturnRule) : Operator :=
  { id := name, name, kind := .otherFunction, operands, returns, arity := .one }

/-! ## Logic -/

def or : Operator := infixOperator "OR" "OR" .or 22 .boolean .boolean

def and : Operator := infixOperator "AND" "AND" .and 24 .boolean .boolean

def not : Operator :=
  { id := "NOT", name := "NOT", kind := .not, form := .prefixOp, precedence := 26,
    leftAssoc := false, returns := .boolean, operands := .boolean, arity := .one }

def isNull : Operator := nullTest "IS_NULL" "IS NULL" .isNull

def isNotNull : Operator := nullTest "IS_NOT_NULL" "IS NOT NULL" .isNotNull

/-! ## Comparisons -/

def equals : Operator := comparison "EQUALS" "=" .equals

def notEquals : Operator := comparison "NOT_EQUALS" "<>" .notEquals

def lessThan : Operator := comparison "LESS_THAN" "<" .lessThan

def lessThanOrEqual : Operator := comparison "LESS_THAN_OR_EQUAL" "<=" .lessThanOrEqual

def greaterThan : Operator := comparison "GREATER_THAN" ">" .greaterThan

def greaterThanOrEqual : Operator := comparison "GREATER_THAN_OR_EQUAL" ">=" .greaterThanOrEqual

/-! ## Arithmetic -/

def plus : Operator := infixOperator "PLUS" "+" .plus 40 .numericOrInterval .leastRestrictive

def minus : Operator := infixOperator "MINUS" "-" .minus 40 .numericOrInterval .leastRestrictive

def times : Operator := infixOperator "TIMES" "*" .times 60 .numericOrInterval .leastRestrictive

def divide : Operator := infixOperator "DIVIDE" "/" .divide 60 .division .leastRestrictive

def mod : Operator := infixOperator "MOD" "%" .mod 60 .numeric .leastRestrictive

/-- Division of a datetime difference; its result is a whole number. -/
def datetimeDivide : Operator :=
  infixOperator "DATETIME_DIVIDE" "/" .divide 60 .division (.fixed .bigInt)

def unaryMinus : Operator :=
  { id := "UNARY_MINUS", name := "-", kind := .minusPrefix, form := .prefixOp, precedence := 80,
    leftAssoc := false, operands := .numericOrInterval, arity := .one }

/-! ## Functions -/

def trim : Operator :=
  { id := "TRIM", name := "TRIM", kind := .trim, form := .trim, returns := .fixed .varchar,
    operands := .trim, arity := .three }

def substring : Operator :=
  { id := "SUBSTRING", name := "SUBSTRING", kind := .otherFunction, form := .substring,
    operands := .substring, arity := .twoOrThree }

def upper : Operator := unaryFunction "UPPER" .character .firstOperand

def lower : Operator := unaryFunction "LOWER" .character .firstOperand

def charLength : Operator := unaryFunction "CHAR_LENGTH" .character (.fixed .integer)

def abs : Operator := unaryFunction "ABS" .numericOrInterval .firstOperand

def pi : Operator :=
  { id := "PI", name := "PI", kind := .otherFunction, form := .functionId,
    returns := .fixedNotNull .double, operands := .niladic, arity := .zero }

/-- One when its operand is null, zero otherwise. -/
def nullIndicator : Operator :=
  { id := "NULL_INDICATOR", name := "NULL_INDICATOR", kind := .other, form := .nullIndicator,
    returns := .fixedNotNull .integer, arity := .one }

/-! ## All of them -/

def all : List Operator :=
  [or, and, not, isNull, isNotNull, equals, notEquals, lessThan, lessThanOrEqual, greaterThan,
   greaterThanOrEqual, plus, minus, times, divide, mod, datetimeDivide, unaryMinus, trim,
   substring, upper, lower, charLength, abs, pi, nullIndicator]

theorem inconsistency?_eq_none : ∀ op ∈ all, op.inconsistency? = none := by decide

theorem id_nodup : (all.map (·.id)).Nodup := by decide

end RowExpr.Catalog
