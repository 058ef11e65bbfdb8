import RowExpr.Codec.Operator
import RowExpr.Codec.Value
import RowExpr.Node

/-!
# Row expressions in JSON

A node is a record with its kind under `type`. A call that is read is checked for its operand
count.
-/

namespace RowExpr.Codec

/-- A call without the name of its kind. -/
def encodeCall (op : Operator) (operands : List Json) (type : SqlType) : List (String × Json) :=
  [("operator", encodeOperator op), ("operands", .arr operands), ("result_type", encodeType type)]

mutual

def encodeNode : Node → Json
  | .literal v t =>
    .obj [("type", .str "Literal"), ("value", encodeValue v), ("ty", encodeType t)]
  | .input index none t =>
    .obj [("type", .str "InputRef"), ("index", .int index.toNat), ("ty", encodeType t)]
  | .input index (some name) t =>
    .obj
      [("type", .str "InputRef"), ("index", .int index.toNat), ("name", .str name),
       ("ty", encodeType t)]
  | .call op operands t =>
    .obj (("type", .str "Call") :: encodeCall op (encodeNodes operands) t)

def encodeNodes : List Node → List Json
  | [] => []
  | n :: rest => encodeNode n :: encodeNodes rest

end

def decodeName : Json → Decoded (Option String)
  | .null => .ok none
  | j => return some (← string j)

def decodeLiteral (j : Json) : Decoded Node := do
  let fields ← record ["value", "ty"] j
  let v ← decodeValue (← required fields "value")
  let t ← decodeType .tagged (← required fields "ty")
  return .literal v t

def decodeInput (j : Json) : Decoded Node := do
  let fields ← record ["index", "name", "ty"] j
  let index ← uint64 (← required fields "index")
  let name ← optional fields "name" none decodeName
  let t ← decodeType .tagged (← required fields "ty")
  return .input index name t

def depth : Json → Nat
  | .arr items => depthItems items + 1
  | .obj fields => depthFields fields + 1
  | _ => 0
where
  depthItems : List Json → Nat
    | [] => 0
    | j :: rest => max (depth j) (depthItems rest)
  depthFields : List (String × Json) → Nat
    | [] => 0
    | (_, j) :: rest => max (depth j) (depthFields rest)

def nodeTags : List String := ["Literal", "InputRef", "Call"]

/-- A call, whose operands are read by `decodeOperand`. -/
def decodeCall (leniency : Leniency) (decodeOperand : Json → Decoded Node) (j : Json) :
    Decoded Node := do
  let fields ← record ["operator", "operands", "result_type"] j
  let op ← decodeOperator leniency (← required fields "operator")
  let operands ← list decodeOperand (← required fields "operands")
  let t ← decodeType leniency (← required fields "result_type")
  ofBuilt (Node.ofCall op operands t)

/-- A node that nests less deep than `fuel`. -/
def decodeNodeWithin : Nat → Leniency → Json → Decoded Node
  | 0, _, _ => shape
  | fuel + 1, leniency, j => do
    match ← tagged "type" nodeTags leniency j with
    | ("Literal", j) => decodeLiteral j
    | ("InputRef", j) => decodeInput j
    | ("Call", j) => decodeCall .tagged (decodeNodeWithin fuel .tagged) j
    | _ => shape

def decodeNode (j : Json) : Decoded Node := decodeNodeWithin (depth j + 1) .strict j

end RowExpr.Codec
