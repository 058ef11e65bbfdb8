import RowExpr.Json.Basic
import RowExpr.Operator.Basic

/-!
# Records and choices in JSON

A record is an object, or an array of its fields in order. A choice is a name, or an object
with the name as its only field. A tagged record is an object with its name in one of the
fields, or an array that begins with the name. Inside another tagged record, a number may
stand for the name.
-/

namespace RowExpr.Codec

/-- Why a JSON value stands for nothing. -/
inductive DecodeError
  /-- It has not the right shape. -/
  | shape
  /-- It has, but what it stands for cannot be built. -/
  | build (cause : BuildError)
  deriving DecidableEq, Repr

abbrev Decoded (α : Type) := Except DecodeError α

def shape {α : Type} : Decoded α := .error .shape

def ofOption {α : Type} : Option α → Decoded α
  | some a => .ok a
  | none => shape

def ofBuilt {α : Type} : Except BuildError α → Decoded α
  | .ok a => .ok a
  | .error e => .error (.build e)

/-- What is overlooked. Inside a tagged record more is than elsewhere. -/
structure Leniency where
  /-- The fields of a choice may stand in an array. -/
  listedFields : Bool
  /-- A choice without fields may have an empty object as its fields. -/
  emptyFields : Bool
  /-- The name of a tagged record may be its place among the names. -/
  numberedTags : Bool
  deriving DecidableEq, Repr

def Leniency.strict : Leniency := ⟨false, false, false⟩

/-- Inside a tagged record. -/
def Leniency.tagged : Leniency := ⟨true, true, true⟩

/-- Where several shapes are tried. -/
def Leniency.tried : Leniency := ⟨true, false, true⟩

/-! ## Scalars -/

def bool : Json → Decoded Bool
  | .bool b => .ok b
  | _ => shape

def string : Json → Decoded String
  | .str s => .ok s
  | _ => shape

def natBelow (limit : Nat) : Json → Decoded Nat
  | .int i => if 0 ≤ i ∧ i < limit then .ok i.toNat else shape
  | _ => shape

def uint8 (j : Json) : Decoded UInt8 := return UInt8.ofNat (← natBelow UInt8.size j)

def uint32 (j : Json) : Decoded UInt32 := return UInt32.ofNat (← natBelow UInt32.size j)

def uint64 (j : Json) : Decoded UInt64 := return UInt64.ofNat (← natBelow UInt64.size j)

def int32 : Json → Decoded Int
  | .int i => if -2147483648 ≤ i ∧ i ≤ 2147483647 then .ok i else shape
  | _ => shape

/-! ## Records -/

abbrev Fields := List (String × Json)

/-- A record's fields. Other fields are passed over; none of its own may be there twice. -/
def record (names : List String) : Json → Decoded Fields
  | .obj fields =>
    let own := fields.filter fun f => names.contains f.1
    if (own.map (·.1)).Nodup then .ok own else shape
  | .arr items => if items.length ≤ names.length then .ok (names.zip items) else shape
  | _ => shape

def required (fields : Fields) (name : String) : Decoded Json := ofOption (fields.lookup name)

def optional {α : Type} (fields : Fields) (name : String) (default : α)
    (decode : Json → Decoded α) : Decoded α :=
  match fields.lookup name with
  | some j => decode j
  | none => .ok default

def list {α : Type} (decode : Json → Decoded α) : Json → Decoded (List α)
  | .arr items => items.mapM decode
  | _ => shape

/-! ## Choices -/

/-- The name of a choice, and its fields where there are any. -/
def choice : Json → Decoded (String × Option Json)
  | .str name => .ok (name, none)
  | .obj [(name, j)] => .ok (name, some j)
  | _ => shape

def areNone (leniency : Leniency) : Option Json → Bool
  | none | some .null => true
  | some (.obj []) => leniency.emptyFields
  | some _ => false

/-- One of several names. -/
def oneOf {α : Type} (names : List (String × α)) (leniency : Leniency) (j : Json) : Decoded α :=
  match choice j with
  | .ok (name, fields) => if areNone leniency fields then ofOption (names.lookup name) else shape
  | .error e => .error e

def choiceRecord (names : List String) (leniency : Leniency) : Json → Decoded Fields
  | .arr items => if leniency.listedFields then record names (.arr items) else shape
  | j => record names j

def tagName (names : List String) (leniency : Leniency) : Json → Decoded String
  | .str name => .ok name
  | .int i => if leniency.numberedTags && 0 ≤ i then ofOption names[i.toNat]? else shape
  | _ => shape

/-- The name of a tagged record, and the record. -/
def tagged (tag : String) (names : List String) (leniency : Leniency) :
    Json → Decoded (String × Json)
  | .obj fields =>
    match fields.filter (·.1 == tag) with
    | [(_, j)] => return (← tagName names leniency j, .obj (fields.filter (·.1 != tag)))
    | _ => shape
  | .arr (j :: items) => return (← tagName names leniency j, .arr items)
  | _ => shape

/-- A list of names looked up the other way. -/
def nameOf {α : Type} [DecidableEq α] (names : List (String × α)) (a : α) : String :=
  ((names.find? fun n => decide (n.2 = a)).map (·.1)).getD ""

end RowExpr.Codec
