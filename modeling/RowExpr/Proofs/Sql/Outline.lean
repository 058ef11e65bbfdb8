import RowExpr.Sql.OrderBy

/-!
# Outlines

What SQL text can tell of an expression: its operators by name and form, and no types.
-/

namespace RowExpr

inductive Outline
  | literal (value : Value)
  | position (index : UInt64)
  | column (name : String)
  | call (name : String) (form : Form) (operands : List Outline)
  deriving Repr, Inhabited

namespace Operator

/-- A call of the operator, as a text tells of it. -/
def outline (op : Operator) (operands : List Outline) : Outline :=
  .call op.name op.form operands

/-- Whether two operators are written the same way and bind with the same strength. -/
structure Like (a b : Operator) : Prop where
  name : a.name = b.name
  form : a.form = b.form
  precedence : a.precedence = b.precedence
  leftAssoc : a.leftAssoc = b.leftAssoc

instance (a b : Operator) : Decidable (a.Like b) :=
  decidable_of_iff (a.name = b.name ∧ a.form = b.form ∧ a.precedence = b.precedence ∧
      a.leftAssoc = b.leftAssoc)
    ⟨fun ⟨h1, h2, h3, h4⟩ => ⟨h1, h2, h3, h4⟩, fun ⟨h1, h2, h3, h4⟩ => ⟨h1, h2, h3, h4⟩⟩

namespace Like

variable {a b : Operator}

theorem leftPrec (h : a.Like b) : a.leftPrec = b.leftPrec := by
  simp [Operator.leftPrec, h.precedence, h.leftAssoc]

theorem rightPrec (h : a.Like b) : a.rightPrec = b.rightPrec := by
  simp [Operator.rightPrec, h.precedence, h.leftAssoc]

theorem outline (h : a.Like b) (operands : List Outline) :
    a.outline operands = b.outline operands := by
  simp [Operator.outline, h.name, h.form]

end Like

end Operator

namespace Node

/-- The operator that a call is written with. Where truth values are sorted, a null indicator
is a null test. -/
def written (d : Dialect) (op : Operator) : Operator :=
  if op.form = .nullIndicator ∧ d.has .booleanSortKeys = true then Catalog.isNull else op

mutual

def outline (d : Dialect) : Node → Outline
  | literal v _ => .literal v
  | input index none _ => .position index
  | input _ (some name) _ => .column name
  | call op operands _ => (written d op).outline (outlineAll d operands)

def outlineAll (d : Dialect) : List Node → List Outline
  | [] => []
  | n :: rest => outline d n :: outlineAll d rest

end

theorem outlineAll_eq_map (d : Dialect) (ns : List Node) :
    outlineAll d ns = ns.map (outline d) := by
  induction ns with
  | nil => rfl
  | cons n rest ih => simp [outlineAll, ih]

theorem written_of_form {op : Operator} (h : op.form ≠ .nullIndicator) (d : Dialect) :
    written d op = op := by
  simp [written, h]

theorem outline_call {op : Operator} (h : op.form ≠ .nullIndicator) (d : Dialect)
    (operands : List Node) (type : SqlType) :
    (call op operands type).outline d = op.outline (operands.map (outline d)) := by
  rw [outline, written_of_form h, outlineAll_eq_map]

end Node

end RowExpr
