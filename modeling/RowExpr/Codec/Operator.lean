import RowExpr.Codec.Types

/-!
# Operators in JSON

What is read is checked: an operator that does not go with its kind is refused.
-/

namespace RowExpr.Codec

def kindNames : List (String × Kind) :=
  [("PLUS", .plus), ("MINUS", .minus), ("TIMES", .times), ("DIVIDE", .divide), ("MOD", .mod),
   ("MINUS_PREFIX", .minusPrefix), ("EQUALS", .equals), ("NOT_EQUALS", .notEquals),
   ("LESS_THAN", .lessThan), ("LESS_THAN_OR_EQUAL", .lessThanOrEqual),
   ("GREATER_THAN", .greaterThan), ("GREATER_THAN_OR_EQUAL", .greaterThanOrEqual),
   ("AND", .and), ("OR", .or), ("NOT", .not), ("IS_NULL", .isNull), ("IS_NOT_NULL", .isNotNull),
   ("TRIM", .trim), ("OTHER_FUNCTION", .otherFunction), ("OTHER", .other)]

def formNames : List (String × Form) :=
  [("Binary", .binary), ("Prefix", .prefixOp), ("Postfix", .postfixOp), ("Function", .function),
   ("FunctionId", .functionId), ("Trim", .trim), ("Substring", .substring),
   ("NullIndicator", .nullIndicator)]

def plainReturnNames : List (String × ReturnRule) :=
  [("FirstOperand", .firstOperand), ("LeastRestrictive", .leastRestrictive),
   ("Boolean", .boolean), ("BooleanNotNull", .booleanNotNull)]

def operandRuleNames : List (String × OperandRule) :=
  [("Niladic", .niladic), ("Any", .any), ("Numeric", .numeric),
   ("NumericOrInterval", .numericOrInterval), ("Division", .division),
   ("Comparable", .comparable), ("Boolean", .boolean), ("Character", .character),
   ("Trim", .trim), ("Substring", .substring)]

def encodeReturnRule : ReturnRule → Json
  | .fixed name => .obj [("Fixed", encodeTypeName name)]
  | .fixedNotNull name => .obj [("FixedNotNull", encodeTypeName name)]
  | rule => .str (nameOf plainReturnNames rule)

def decodeReturnRule (leniency : Leniency) (j : Json) : Decoded ReturnRule :=
  match choice j with
  | .ok ("Fixed", some name) => return .fixed (← decodeTypeName leniency name)
  | .ok ("FixedNotNull", some name) => return .fixedNotNull (← decodeTypeName leniency name)
  | _ => oneOf plainReturnNames leniency j

def decodeOperandRule (leniency : Leniency) : Json → Decoded OperandRule :=
  oneOf operandRuleNames leniency

/-! ## Arities -/

def encodeArity (a : Arity) : Json :=
  .obj [("min", .int a.lowerNumber), ("max", .int a.upperNumber)]

def buildArity (min max : Int) : Decoded Arity :=
  match Arity.ofBounds min max with
  | .ok a => .ok a
  | .error e => .error (.build (.arity e))

def decodeArity (j : Json) : Decoded Arity := do
  let fields ← record ["min", "max"] j
  let min ← int32 (← required fields "min")
  let max ← int32 (← required fields "max")
  buildArity min max

/-! ## Operators -/

def operatorFields : List String :=
  ["id", "name", "kind", "syntax", "precedence", "left_assoc", "return_rule", "operand_rule",
   "arity"]

def encodeOperator (op : Operator) : Json :=
  .obj
    [("id", .str op.id),
     ("name", .str op.name),
     ("kind", .str (nameOf kindNames op.kind)),
     ("syntax", .str (nameOf formNames op.form)),
     ("precedence", .int op.precedence.toNat),
     ("left_assoc", .bool op.leftAssoc),
     ("return_rule", encodeReturnRule op.returns),
     ("operand_rule", .str (nameOf operandRuleNames op.operands)),
     ("arity", encodeArity op.arity)]

def decodeOperator (leniency : Leniency) (j : Json) : Decoded Operator := do
  let fields ← record operatorFields j
  let id ← string (← required fields "id")
  let name ← string (← required fields "name")
  let kind ← oneOf kindNames leniency (← required fields "kind")
  let form ← oneOf formNames leniency (← required fields "syntax")
  let precedence ← uint32 (← required fields "precedence")
  let leftAssoc ← bool (← required fields "left_assoc")
  let returns ← decodeReturnRule leniency (← required fields "return_rule")
  let operands ← decodeOperandRule leniency (← required fields "operand_rule")
  let arity ← decodeArity (← required fields "arity")
  ofBuilt
    (Operator.check { id, name, kind, form, precedence, leftAssoc, returns, operands, arity })

end RowExpr.Codec
