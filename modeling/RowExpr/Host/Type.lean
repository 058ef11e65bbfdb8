import RowExpr.Types

/-!
# Host types

The representation of a value on the host. A primitive kind holds null only when it is
boxed.
-/

namespace RowExpr.Host

inductive Kind
  | bool
  | int
  | long
  | double
  | string
  | symbol
  | object
  deriving DecidableEq, Repr, Inhabited

namespace Kind

/-- Whether values of the kind exist without a box. -/
def isPrimitive : Kind → Bool
  | bool | int | long | double => true
  | string | symbol | object => false

def name : Kind → String
  | bool => "Bool"
  | int => "Int"
  | long => "Long"
  | double => "Double"
  | string => "String"
  | symbol => "Symbol"
  | object => "Object"

def ofTypeName : TypeName → Kind
  | .boolean => bool
  | .tinyInt | .smallInt | .integer => int
  | .date | .time | .intervalYearMonth => int
  | .bigInt | .timestamp | .intervalDayTime => long
  | .decimal _ _ | .real | .double => double
  | .char | .varchar => string
  | .symbol => symbol
  | .null | .any => object

end Kind

/-- A kind, and whether it is boxed. -/
structure HostType where
  kind : Kind
  boxed : Bool
  deriving DecidableEq, Repr, Inhabited

namespace HostType

def primitive (kind : Kind) : HostType := ⟨kind, false⟩

def inBox (kind : Kind) : HostType := ⟨kind, true⟩

/-- The representation of a SQL type. What may be null is boxed, and so is every kind that
is not primitive. -/
def ofSqlType (t : SqlType) : HostType :=
  let kind := Kind.ofTypeName t.name
  ⟨kind, t.nullable || !kind.isPrimitive⟩

def canHoldNull (t : HostType) : Bool := t.boxed || !t.kind.isPrimitive

def text (t : HostType) : String :=
  match t.kind, t.boxed with
  | .bool, false => "boolean"
  | .bool, true => "Boolean"
  | .int, false => "int"
  | .int, true => "Integer"
  | .long, false => "long"
  | .long, true => "Long"
  | .double, false => "double"
  | .double, true => "Double"
  | .string, _ => "String"
  | .symbol, _ => "Symbol"
  | .object, _ => "Object"

theorem canHoldNull_ofSqlType (t : SqlType) :
    (ofSqlType t).canHoldNull = (ofSqlType t).boxed := by
  simp only [canHoldNull, ofSqlType]
  cases t.nullable <;> cases (Kind.ofTypeName t.name).isPrimitive <;> rfl

end HostType

end RowExpr.Host
