import RowExpr.Codec.Record
import RowExpr.Host.Type

/-!
# Types in JSON
-/

namespace RowExpr.Codec

def plainTypeNames : List (String × TypeName) :=
  [("BOOLEAN", .boolean), ("TINYINT", .tinyInt), ("SMALLINT", .smallInt), ("INTEGER", .integer),
   ("BIGINT", .bigInt), ("REAL", .real), ("DOUBLE", .double), ("CHAR", .char),
   ("VARCHAR", .varchar), ("DATE", .date), ("TIME", .time), ("TIMESTAMP", .timestamp),
   ("INTERVALDAYTIME", .intervalDayTime), ("INTERVALYEARMONTH", .intervalYearMonth),
   ("NULL", .null), ("SYMBOL", .symbol), ("ANY", .any)]

def encodeTypeName : TypeName → Json
  | .decimal p s =>
    .obj [("DECIMAL", .obj [("precision", .int p.toNat), ("scale", .int s.toNat)])]
  | t => .str (nameOf plainTypeNames t)

def decodeTypeName (leniency : Leniency) (j : Json) : Decoded TypeName :=
  match choice j with
  | .ok ("DECIMAL", some fields) => do
    let fields ← choiceRecord ["precision", "scale"] leniency fields
    let precision ← uint8 (← required fields "precision")
    let scale ← uint8 (← required fields "scale")
    return .decimal precision scale
  | _ => oneOf plainTypeNames leniency j

def encodeType (t : SqlType) : Json :=
  .obj [("name", encodeTypeName t.name), ("nullable", .bool t.nullable)]

def decodeType (leniency : Leniency) (j : Json) : Decoded SqlType := do
  let fields ← record ["name", "nullable"] j
  let name ← decodeTypeName leniency (← required fields "name")
  let nullable ← optional fields "nullable" false bool
  return ⟨name, nullable⟩

/-! ## Host types -/

def hostKindNames : List (String × Host.Kind) :=
  [("bool", .bool), ("int", .int), ("long", .long), ("double", .double), ("string", .string),
   ("symbol", .symbol), ("object", .object)]

def encodeHostType (t : Host.HostType) : Json :=
  .obj [("kind", .str (nameOf hostKindNames t.kind)), ("boxed", .bool t.boxed)]

def decodeHostType (leniency : Leniency) (j : Json) : Decoded Host.HostType := do
  let fields ← record ["kind", "boxed"] j
  let kind ← oneOf hostKindNames leniency (← required fields "kind")
  let boxed ← bool (← required fields "boxed")
  return ⟨kind, boxed⟩

end RowExpr.Codec
