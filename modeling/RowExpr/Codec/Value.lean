import RowExpr.Codec.Record
import RowExpr.Value

/-!
# Values in JSON

Null, truth values, numbers and strings are themselves. A flag is an object.
-/

namespace RowExpr.Codec

def flagNames : List (String × TrimFlag) :=
  TrimFlag.all.map fun f => (f.keyword, f)

/-- A float that is not finite has no JSON form of its own. -/
def encodeFloat (x : Float) : Json := if x.isFinite then .float x else .null

def encodeFlag (f : TrimFlag) : Json := .obj [("flag", .str f.keyword)]

def encodeValue : Value → Json
  | .null => .null
  | .bool b => .bool b
  | .int i => .int i.toInt
  | .float x => encodeFloat x
  | .string s => .str s
  | .flag f => encodeFlag f

/-- An integer of 64 bits with a sign, or else a float. -/
def numberValue (i : Int) : Value :=
  if -9223372036854775808 ≤ i ∧ i ≤ 9223372036854775807 then .int (Int64.ofInt i)
  else .float (Decimal.nearestFloat (i < 0) i.natAbs 1)

def decodeFlag (fields : List (String × Json)) : Decoded TrimFlag := do
  let fields ← record ["flag"] (.obj fields)
  oneOf flagNames .tried (← required fields "flag")

def decodeValue : Json → Decoded Value
  | .null => .ok .null
  | .bool b => .ok (.bool b)
  | .int i => .ok (numberValue i)
  | .float x => .ok (.float x)
  | .str s => .ok (.string s)
  | .obj fields => return .flag (← decodeFlag fields)
  | .arr _ => shape

end RowExpr.Codec
