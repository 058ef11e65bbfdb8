import RowExpr.Codec.Node
import RowExpr.Json.Printer
import RowExpr.Json.Reader
import RowExpr.Operator.Table

/-!
# Expression documents

A document is an expression as a user writes it in JSON. Operators are named by identity or
by name; an operator table turns the document into a row expression, operands first.
-/

namespace RowExpr

inductive Document
  /-- An operator, by identity or name. -/
  | call (op : String) (operands : List Document)
  | input (index : UInt64) (name : Option String) (type : SqlType)
  | literal (value : Json) (type : TypeName)
  deriving Repr, Inhabited

/-- Why a document stands for no expression, or a text for no document. -/
inductive DocumentError
  /-- The text is not JSON. -/
  | syntaxError
  /-- The text is JSON of another shape. -/
  | shapeError
  | invalidLiteral (value : Json) (type : TypeName)
  | lookup (cause : LookupError)
  | build (cause : BuildError)
  deriving Repr

def DocumentError.message : DocumentError → String
  | syntaxError => "Invalid document: not a JSON value"
  | shapeError => "Invalid document: not of the expected shape"
  | invalidLiteral value type =>
    "Invalid literal " ++ value.sorted.compact ++ " for type " ++ type.text
  | lookup cause => cause.message
  | build cause => cause.message

namespace Document

/-! ## Reading -/

open Codec (Decoded Fields Leniency) in
/-- The shapes of a document, tried in turn. -/
def decodeWithin : Nat → Json → Decoded Document
  | 0, _ => Codec.shape
  | fuel + 1, j =>
    let call : Decoded Document := do
      let fields ← Codec.record ["op", "operands"] j
      let op ← Codec.string (← Codec.required fields "op")
      let operands ←
        Codec.optional fields "operands" [] (Codec.list (decodeWithin fuel))
      return .call op operands
    let input : Decoded Document := do
      let fields ← Codec.record ["input", "name", "type", "nullable"] j
      let index ← Codec.uint64 (← Codec.required fields "input")
      let name ← Codec.optional fields "name" none Codec.decodeName
      let type ← Codec.decodeTypeName .tried (← Codec.required fields "type")
      let nullable ← Codec.optional fields "nullable" true Codec.bool
      return .input index name ⟨type, nullable⟩
    let literal : Decoded Document := do
      let fields ← Codec.record ["literal", "type"] j
      let value ← Codec.required fields "literal"
      let type ← Codec.decodeTypeName .tried (← Codec.required fields "type")
      return .literal value type
    match j with
    | .obj _ => call <|> input <|> literal
    | _ => Codec.shape

def decode (j : Json) : Codec.Decoded Document := decodeWithin (Codec.depth j + 1) j

/-- The document at the front of a text, where nothing follows it. -/
def parse (s : String) : Except DocumentError Document :=
  match Json.readFront s.toList with
  | none => .error .syntaxError
  | some (j, rest) =>
    match decode j with
    | .error _ => .error .shapeError
    | .ok doc => if Json.isEnd rest then .ok doc else .error .syntaxError

/-! ## Literals -/

/-- The value of a scalar. Where a flag is wanted a string has to name one. -/
def scalar (type : TypeName) (j : Json) : Except DocumentError Value :=
  match j with
  | .null => .ok .null
  | .bool b => .ok (.bool b)
  | .int i => .ok (Codec.numberValue i)
  | .float x => .ok (.float x)
  | .str s =>
    if type = .symbol then
      match TrimFlag.ofKeyword? s with
      | some f => .ok (.flag f)
      | none => .error (.invalidLiteral j type)
    else .ok (.string s)
  | .arr _ | .obj _ => .error (.invalidLiteral j type)

/-! ## Resolving -/

/-- The operator that a call of `count` operands names: by identity, else by name. -/
def operator (t : OperatorTable) (op : String) (count : Nat) : Except DocumentError Operator :=
  match t.get? op with
  | some o => .ok o
  | none =>
    match t.findOverload op count with
    | .ok o => .ok o
    | .error e => .error (.lookup e)

def ofBuilt {α : Type} : Except BuildError α → Except DocumentError α
  | .ok a => .ok a
  | .error e => .error (.build e)

mutual

/-- The expression that a document stands for, or the first error in it. -/
def resolve (t : OperatorTable) : Document → Except DocumentError Node
  | .call op operands => do
    let nodes ← resolveAll t operands
    let o ← operator t op nodes.length
    let node ← ofBuilt (Node.infer o nodes)
    ofBuilt (Node.checkOperands o nodes)
    return node
  | .input index name type => .ok (.input index name type)
  | .literal j type => do
    let v ← scalar type j
    return .literal v ⟨type, v.isNull⟩

def resolveAll (t : OperatorTable) : List Document → Except DocumentError (List Node)
  | [] => .ok []
  | d :: rest => do
    let node ← resolve t d
    let nodes ← resolveAll t rest
    return node :: nodes

end

end Document

/-! ## Rows -/

/-- The cells of a row, written as a JSON array. An object is refused before it is read. -/
def parseRow (s : String) : Except DocumentError (List Value) :=
  match Json.skipSpaces s.toList with
  | '\x7b' :: _ => .error .shapeError
  | cs =>
    match Json.readFront cs with
    | none => .error .syntaxError
    | some (.arr cells, rest) =>
      if Json.isEnd rest then cells.mapM (Document.scalar .any) else .error .syntaxError
    | some _ => .error .shapeError

end RowExpr
