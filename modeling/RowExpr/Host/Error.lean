import RowExpr.Host.Expr

/-!
# Errors on the host

What can go wrong when an expression is lowered, and when the result is evaluated.
-/

namespace RowExpr.Host

/-- Why a call cannot be lowered: something is wrong with how its operator was bound. -/
inductive LowerError
  | methodNotFound (owner method : String)
  | argumentCount (owner method : String) (count : Nat)
  | operandCount (operator : String) (expected count : Nat)
  deriving DecidableEq, Repr

def LowerError.message : LowerError → String
  | methodNotFound owner method => "Method not found: " ++ owner ++ "." ++ method
  | argumentCount owner method count =>
    "No overload of " ++ owner ++ "." ++ method ++ " takes " ++ toString count ++ " arguments"
  | operandCount operator expected count =>
    "Operator " ++ operator ++ " expects " ++ toString expected ++ " operands, got "
      ++ toString count

/-- A value that is not of the kind that is needed. -/
inductive Mismatch
  | conversion (value : Value) (kind : Kind)
  /-- An operand of `AND` or `OR`. -/
  | logical (operator : String) (value : Value)
  | notArithmetic (op : BinaryOp)
  | notNumber (value : Value)
  | unary (op : UnaryOp) (value : Value)
  | incomparable (left right : Value)
  /-- An argument of a method that wants something else. -/
  | argument (method wanted : String) (value : Value)
  deriving DecidableEq, Repr

def Mismatch.message : Mismatch → String
  | conversion v kind => "cannot convert " ++ v.text ++ " to " ++ kind.name
  | logical operator v => operator ++ " expects a boolean, got " ++ v.text
  | notArithmetic op => op.symbol ++ " is not arithmetic"
  | notNumber v => "expected a number, got " ++ v.text
  | unary op v => "cannot apply " ++ op.name ++ " to " ++ v.text
  | incomparable l r => "cannot compare " ++ l.text ++ " with " ++ r.text
  | argument method wanted v => method ++ " expects " ++ wanted ++ ", got " ++ v.text

/-- Why a method fails on arguments of the right kinds. -/
inductive MethodFailure
  | negativeLength (length : Int64)
  | trimCharacters (chars : String)
  | absOverflow
  | other (message : String)
  deriving DecidableEq, Repr

def MethodFailure.message : MethodFailure → String
  | negativeLength n => "negative substring length " ++ toString n.toInt
  | trimCharacters chars =>
    "trim character must be a single character, got " ++ Text.quoted chars
  | absOverflow => "abs overflow"
  | other message => message

/-- Why an expression has no value on a row. -/
inductive EvalError
  /-- An operator without an implementation was reached. -/
  | unimplemented (message : String)
  | nullConversion (type : HostType)
  | mismatch (cause : Mismatch)
  | divisionByZero
  | methodNotFound (owner method : String)
  | missingField (index : UInt64)
  | method (cause : MethodFailure)
  deriving DecidableEq, Repr

def EvalError.message : EvalError → String
  | unimplemented message => message
  | nullConversion t => "Cannot convert null to " ++ t.text
  | mismatch cause => "Type mismatch: " ++ cause.message
  | divisionByZero => "Division by zero"
  | methodNotFound owner name => "Method not found: " ++ owner ++ "." ++ name
  | missingField index => "Row has no field " ++ toString index.toNat
  | method cause => "Method failed: " ++ cause.message

end RowExpr.Host
