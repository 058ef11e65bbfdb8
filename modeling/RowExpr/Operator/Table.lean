import Std.Data.HashMap
import RowExpr.Operator.Catalog
import RowExpr.Text.Case

/-!
# Operator tables

A table finds operators by identity, and by name in any letter case. Operators of one name
stay in the order in which they were registered.
-/

namespace RowExpr

inductive LookupError
  | notFound (name : String)
  | noMatchingArity (name : String) (count : Nat)
  | duplicate (id : String)
  | build (cause : BuildError)
  deriving DecidableEq, Repr

def LookupError.message : LookupError → String
  | notFound name => "Operator not found: " ++ name
  | noMatchingArity name count =>
    "Operator " ++ name ++ " has no overload taking " ++ toString count ++ " operands"
  | duplicate id => "Duplicate operator identity: " ++ id
  | build cause => cause.message

structure OperatorTable where
  byId : Std.HashMap String Operator := ∅
  /-- The identities of an upper-case name. -/
  byName : Std.HashMap String (List String) := ∅

namespace OperatorTable

def empty : OperatorTable := {}

def size (t : OperatorTable) : Nat := t.byId.size

def ids (t : OperatorTable) : List String := t.byId.keys

/-- Adds an operator without looking at it. -/
def insert (t : OperatorTable) (op : Operator) : OperatorTable :=
  { byId := t.byId.insert op.id op
    byName := t.byName.alter (Text.upper op.name) fun ids => some (ids.getD [] ++ [op.id]) }

/-- Offers an operator to a table: the answer, and the table that stands then. The operator
has to be consistent, and its identity new. -/
def offer (t : OperatorTable) (op : Operator) : Except LookupError Operator × OperatorTable :=
  match op.check with
  | .error cause => (.error (.build cause), t)
  | .ok op =>
    if t.byId.contains op.id then (.error (.duplicate op.id), t) else (.ok op, t.insert op)

/-- The table that has taken an operator. -/
def register (t : OperatorTable) (op : Operator) : Except LookupError OperatorTable :=
  match t.offer op with
  | (.ok _, t) => .ok t
  | (.error e, _) => .error e

/-! ## Looking up -/

def get? (t : OperatorTable) (id : String) : Option Operator := t.byId[id]?

def require (t : OperatorTable) (id : String) : Except LookupError Operator :=
  match t.get? id with
  | some op => .ok op
  | none => .error (.notFound id)

/-- The identities of a name, in the order of registration. -/
def named? (t : OperatorTable) (name : String) : Option (List String) :=
  t.byName[Text.upper name]?

def findName (t : OperatorTable) (name : String) : Except LookupError Operator :=
  match ((t.named? name).bind List.head?).bind t.get? with
  | some op => .ok op
  | none => .error (.notFound name)

/-- The first operator of a name that takes `count` operands. -/
def findOverload (t : OperatorTable) (name : String) (count : Nat) :
    Except LookupError Operator :=
  match t.named? name with
  | none => .error (.notFound name)
  | some ids =>
    match (ids.filterMap t.get?).find? (·.arity.admits count) with
    | some op => .ok op
    | none => .error (.noMatchingArity name count)

/-! ## The standard table -/

def ofList (ops : List Operator) : OperatorTable := ops.foldl insert empty

def standard : OperatorTable := ofList Catalog.all

/-! ## What an insertion changes -/

theorem get?_insert (t : OperatorTable) (op : Operator) (id : String) :
    (t.insert op).get? id = if op.id == id then some op else t.get? id := by
  simp [get?, insert, Std.HashMap.getElem?_insert]

theorem named?_insert (t : OperatorTable) (op : Operator) (name : String) :
    (t.insert op).named? name =
      if Text.upper op.name == Text.upper name then some ((t.named? name).getD [] ++ [op.id])
      else t.named? name := by
  simp only [named?, insert, Std.HashMap.getElem?_alter]
  split
  · next h => rw [eq_of_beq h]
  · rfl

theorem contains_eq_isSome (t : OperatorTable) (id : String) :
    t.byId.contains id = (t.get? id).isSome := by
  rw [get?, Std.HashMap.isSome_getElem?_eq_contains]

theorem size_insert (t : OperatorTable) (op : Operator) :
    (t.insert op).size = if (t.get? op.id).isSome then t.size else t.size + 1 := by
  simp only [size, insert, Std.HashMap.size_insert, ← Std.HashMap.contains_iff_mem,
    contains_eq_isSome]

end OperatorTable

end RowExpr
