import RowExpr.Host.Type
import RowExpr.Text.Quoted
import RowExpr.Value

/-!
# Host expressions

What a row expression becomes on the host: constants, fields of the row, conversions, method
calls and operators.
-/

namespace RowExpr.Host

inductive BinaryOp
  | plus
  | minus
  | times
  | divide
  | mod
  | equal
  | notEqual
  | lessThan
  | lessThanOrEqual
  | greaterThan
  | greaterThanOrEqual
  | andAlso
  | orElse
  deriving DecidableEq, Repr, Inhabited

def BinaryOp.symbol : BinaryOp → String
  | plus => "+"
  | minus => "-"
  | times => "*"
  | divide => "/"
  | mod => "%"
  | equal => "=="
  | notEqual => "!="
  | lessThan => "<"
  | lessThanOrEqual => "<="
  | greaterThan => ">"
  | greaterThanOrEqual => ">="
  | andAlso => "&&"
  | orElse => "||"

inductive UnaryOp
  | negate
  | not
  | isNull
  | isNotNull
  deriving DecidableEq, Repr, Inhabited

/-- The operator in a message. -/
def UnaryOp.name : UnaryOp → String
  | negate => "Negate"
  | not => "Not"
  | isNull => "IsNull"
  | isNotNull => "IsNotNull"

inductive Expr
  | constant (value : Value) (type : HostType)
  | parameter (index : UInt64) (type : HostType)
  | convert (operand : Expr) (type : HostType)
  | call (owner method : String) (args : List Expr) (type : HostType)
  | binary (op : BinaryOp) (left right : Expr) (type : HostType)
  | unary (op : UnaryOp) (operand : Expr) (type : HostType)
  /-- The operand, or the fallback where that is null. -/
  | coalesce (operand fallback : Expr)
  | fail (message : String)
  deriving Repr, Inhabited

namespace Expr

def type : Expr → HostType
  | constant _ t | parameter _ t | convert _ t | call _ _ _ t | binary _ _ _ t | unary _ _ t => t
  | coalesce _ fallback => fallback.type
  | fail _ => .inBox .object

def isFail : Expr → Bool
  | fail _ => true
  | _ => false

/-! ## Text -/

def constantText : Value → String
  | .null => "null"
  | .string s => Text.quoted s
  | .flag f => "Flag." ++ f.keyword
  | v => v.text

def unaryText (op : UnaryOp) (operand : String) : String :=
  match op with
  | .negate => "-" ++ operand
  | .not => "!" ++ operand
  | .isNull => "(" ++ operand ++ " == null)"
  | .isNotNull => "(" ++ operand ++ " != null)"

mutual

def text : Expr → String
  | constant v _ => constantText v
  | parameter i _ => "$" ++ toString i.toNat
  | convert e t => "(" ++ t.text ++ ") " ++ e.text
  | call owner method args _ =>
    owner ++ "." ++ method ++ "(" ++ ", ".intercalate (textAll args) ++ ")"
  | binary op l r _ => "(" ++ l.text ++ " " ++ op.symbol ++ " " ++ r.text ++ ")"
  | unary op e _ => unaryText op e.text
  | coalesce e f => "coalesce(" ++ e.text ++ ", " ++ f.text ++ ")"
  | fail message => "fail(" ++ Text.quoted message ++ ")"

def textAll : List Expr → List String
  | [] => []
  | e :: rest => e.text :: textAll rest

end

end Expr

end RowExpr.Host
