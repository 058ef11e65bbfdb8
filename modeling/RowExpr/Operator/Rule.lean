import RowExpr.Types

/-!
# Type rules

An operator says which operand types it takes and which type its result has.
-/

namespace RowExpr

inductive ReturnRule
  /-- A fixed type, with null when some operand has it. -/
  | fixed (name : TypeName)
  /-- A fixed type, never null. -/
  | fixedNotNull (name : TypeName)
  | firstOperand
  /-- The least restrictive numeric type of the operands. -/
  | leastRestrictive
  /-- A truth value, with null when some operand has it. -/
  | boolean
  | booleanNotNull
  deriving DecidableEq, Repr, Inhabited

/-- Promotes type names one after another. A single name stands for itself; names that
cannot be promoted have none. -/
def leastRestrictive? : List TypeName → Option TypeName
  | [] => none
  | first :: rest => rest.foldlM TypeName.promote first

def ReturnRule.infer (rule : ReturnRule) (operands : List SqlType) : SqlType :=
  let nullable := operands.any (·.nullable)
  match rule with
  | fixed name => ⟨name, nullable⟩
  | fixedNotNull name => .notNull name
  | firstOperand => operands.head?.getD (.orNull .null)
  | leastRestrictive => ⟨(leastRestrictive? (operands.map (·.name))).getD .any, nullable⟩
  | boolean => ⟨.boolean, nullable⟩
  | booleanNotNull => .notNull .boolean

inductive OperandRule
  | niladic
  | any
  | numeric
  | numericOrInterval
  /-- A number by a number, or an interval by a number. -/
  | division
  | comparable
  | boolean
  | character
  /-- A flag, the characters to take off, the source. -/
  | trim
  /-- The source, the start, and perhaps a length. -/
  | substring
  deriving DecidableEq, Repr, Inhabited

namespace OperandRule

def isNumber (t : SqlType) : Bool := t.name.isNumeric || t.name == .null

def isText (t : SqlType) : Bool := t.name.isCharacter || t.name == .null

def isNumberOrInterval (t : SqlType) : Bool := isNumber t || t.name.isInterval

def areComparable (l r : TypeName) : Bool :=
  l == .null || r == .null || l == r || (l.promote r).isSome
    || (l.isCharacter && r.isCharacter)

def accepts : OperandRule → List SqlType → Bool
  | niladic, operands => operands.isEmpty
  | any, _ => true
  | numeric, operands => operands.all isNumber
  | numericOrInterval, operands => operands.all isNumberOrInterval
  | division, [l, r] => isNumberOrInterval l && isNumber r
  | comparable, [l, r] => areComparable l.name r.name
  | boolean, operands => operands.all fun t => t.name == .boolean || t.name == .null
  | character, operands => operands.all isText
  | trim, [flag, chars, source] => flag.name == .symbol && isText chars && isText source
  | substring, [source, start] => isText source && start.name.isIntegral
  | substring, [source, start, length] =>
    isText source && start.name.isIntegral && length.name.isIntegral
  | _, _ => false

def isNumericOrTemporal : OperandRule → Bool
  | numeric | numericOrInterval | division => true
  | _ => false

end OperandRule

end RowExpr
