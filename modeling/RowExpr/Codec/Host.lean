import RowExpr.Codec.Node
import RowExpr.Host.Expr

/-!
# Host expressions in JSON

A host expression is a record with its kind under `expr`.
-/

namespace RowExpr.Codec

def binaryOpNames : List (String × Host.BinaryOp) :=
  [("plus", .plus), ("minus", .minus), ("times", .times), ("divide", .divide), ("mod", .mod),
   ("equal", .equal), ("not_equal", .notEqual), ("less_than", .lessThan),
   ("less_than_or_equal", .lessThanOrEqual), ("greater_than", .greaterThan),
   ("greater_than_or_equal", .greaterThanOrEqual), ("and_also", .andAlso), ("or_else", .orElse)]

def unaryOpNames : List (String × Host.UnaryOp) :=
  [("negate", .negate), ("not", .not), ("is_null", .isNull), ("is_not_null", .isNotNull)]

mutual

def encodeExpr : Host.Expr → Json
  | .constant v t =>
    .obj [("expr", .str "constant"), ("value", encodeValue v), ("ty", encodeHostType t)]
  | .parameter index t =>
    .obj [("expr", .str "parameter"), ("index", .int index.toNat), ("ty", encodeHostType t)]
  | .convert e t =>
    .obj [("expr", .str "convert"), ("operand", encodeExpr e), ("ty", encodeHostType t)]
  | .call owner method args t =>
    .obj
      [("expr", .str "call"), ("owner", .str owner), ("method", .str method),
       ("args", .arr (encodeExprs args)), ("ty", encodeHostType t)]
  | .binary op l r t =>
    .obj
      [("expr", .str "binary"), ("op", .str (nameOf binaryOpNames op)), ("left", encodeExpr l),
       ("right", encodeExpr r), ("ty", encodeHostType t)]
  | .unary op e t =>
    .obj
      [("expr", .str "unary"), ("op", .str (nameOf unaryOpNames op)), ("operand", encodeExpr e),
       ("ty", encodeHostType t)]
  | .coalesce e f =>
    .obj [("expr", .str "coalesce"), ("operand", encodeExpr e), ("fallback", encodeExpr f)]
  | .fail message => .obj [("expr", .str "fail"), ("message", .str message)]

def encodeExprs : List Host.Expr → List Json
  | [] => []
  | e :: rest => encodeExpr e :: encodeExprs rest

end

def exprTags : List String :=
  ["constant", "parameter", "convert", "call", "binary", "unary", "coalesce", "fail"]

/-- A host expression that nests less deep than `fuel`. -/
def decodeExprWithin : Nat → Leniency → Json → Decoded Host.Expr
  | 0, _, _ => shape
  | fuel + 1, leniency, j => do
    let type (fields : Fields) : Decoded Host.HostType := do
      decodeHostType .tagged (← required fields "ty")
    let operand (fields : Fields) (name : String) : Decoded Host.Expr := do
      decodeExprWithin fuel .tagged (← required fields name)
    match ← tagged "expr" exprTags leniency j with
    | ("constant", j) =>
      let fields ← record ["value", "ty"] j
      let v ← decodeValue (← required fields "value")
      return .constant v (← type fields)
    | ("parameter", j) =>
      let fields ← record ["index", "ty"] j
      let index ← uint64 (← required fields "index")
      return .parameter index (← type fields)
    | ("convert", j) =>
      let fields ← record ["operand", "ty"] j
      let e ← operand fields "operand"
      return .convert e (← type fields)
    | ("call", j) =>
      let fields ← record ["owner", "method", "args", "ty"] j
      let owner ← string (← required fields "owner")
      let method ← string (← required fields "method")
      let args ← list (decodeExprWithin fuel .tagged) (← required fields "args")
      return .call owner method args (← type fields)
    | ("binary", j) =>
      let fields ← record ["op", "left", "right", "ty"] j
      let op ← oneOf binaryOpNames .tagged (← required fields "op")
      let l ← operand fields "left"
      let r ← operand fields "right"
      return .binary op l r (← type fields)
    | ("unary", j) =>
      let fields ← record ["op", "operand", "ty"] j
      let op ← oneOf unaryOpNames .tagged (← required fields "op")
      let e ← operand fields "operand"
      return .unary op e (← type fields)
    | ("coalesce", j) =>
      let fields ← record ["operand", "fallback"] j
      let e ← operand fields "operand"
      return .coalesce e (← operand fields "fallback")
    | ("fail", j) =>
      let fields ← record ["message"] j
      return .fail (← string (← required fields "message"))
    | _ => shape

def decodeExpr (j : Json) : Decoded Host.Expr := decodeExprWithin (depth j + 1) .strict j

end RowExpr.Codec
