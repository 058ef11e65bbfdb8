import Mathlib.Data.List.Basic
import RowExpr.Sql.Render

/-!
# Operators that stand in for others

A dialect replaces operators while it writes. What it writes is what it would write, replacing
nothing, of an expression in which every call has been replaced beforehand, and only once
(`text_withoutOverrides_replaced`): an operator that stands in for another is not looked up
again.
-/

namespace RowExpr

/-- The dialect with every operator standing for itself. -/
def Dialect.withoutOverrides (d : Dialect) : Dialect := { d with overrides := [] }

namespace Node

/-- A call of the operator that stands in for its own, refused as any call is if that takes
another number of operands. -/
def substituted (d : Dialect) (n : Node) : Node :=
  match n with
  | call op _ _ =>
    match d.overrideOf? op.id with
    | some other =>
      match n.withOperator other with
      | .ok m => m
      | .error _ => n
    | none => n
  | _ => n

mutual

/-- The expression with all its calls substituted. -/
def replaced (d : Dialect) : Node → Node
  | call op operands type => substituted d (call op (replacedAll d operands) type)
  | literal v type => literal v type
  | input index name type => input index name type

def replacedAll (d : Dialect) : List Node → List Node
  | [] => []
  | n :: rest => replaced d n :: replacedAll d rest

end

variable (d : Dialect)

theorem length_replacedAll (ns : List Node) : (replacedAll d ns).length = ns.length := by
  induction ns with
  | nil => rfl
  | cons n rest ih => simp [replacedAll, ih]

theorem substituted_call (op : Operator) (ns : List Node) (type : SqlType) :
    substituted d (call op ns type) = call (d.resolve op ns.length) ns type := by
  cases hover : d.overrideOf? op.id with
  | none => simp [substituted, Dialect.resolve, hover]
  | some other =>
    cases hfits : other.arity.admits ns.length <;>
      simp [substituted, Dialect.resolve, hover, withOperator, ofCall, hfits]

theorem replaced_call (op : Operator) (ns : List Node) (type : SqlType) :
    replaced d (call op ns type) = call (d.resolve op ns.length) (replacedAll d ns) type := by
  rw [replaced, substituted_call, length_replacedAll]

theorem value?_replaced (n : Node) : (replaced d n).value? = n.value? := by
  cases n with
  | literal | input => rfl
  | call op ns type => rw [replaced_call]; rfl

end Node

namespace Sql

open Node

variable (d : Dialect)

theorem byForm_withoutOverrides (op : Operator) (parts : List Fragment) :
    byForm d.withoutOverrides op parts = byForm d op parts := rfl

/-- Of the operands themselves, only the values of literals count. -/
theorem spell_replacedAll (op : Operator) {ns : List Node} {parts : List Fragment}
    (hcount : parts.length = ns.length) :
    spell d.withoutOverrides op (replacedAll d ns) parts = spell d op ns parts := by
  by_cases hthree : op.kind = .trim ∧ parts.length = 3
  · obtain ⟨hkind, hlength⟩ := hthree
    obtain ⟨flagPart, charsPart, source, rfl⟩ := List.length_eq_three.1 hlength
    obtain ⟨flag, chars, _, rfl⟩ := List.length_eq_three.1 (hcount.symm.trans hlength)
    have hflag : flagOf (replaced d flag) = flagOf flag := by
      rw [flagOf, flagOf, value?_replaced]
    have hchars : charsOf? (replaced d chars) = charsOf? chars := by
      rw [charsOf?, charsOf?, value?_replaced]
    simp only [spell, hkind, replacedAll, trim, hflag, hchars]
    rfl
  · have hno : op.kind = .trim → parts.length ≠ 3 := fun h h3 => hthree ⟨h, h3⟩
    rw [spell_of_no_trim hno, spell_of_no_trim hno, byForm_withoutOverrides]
    rfl

mutual

theorem render_replaced (n : Node) :
    render d.withoutOverrides (replaced d n) = render d n := by
  cases n with
  | literal v type => rfl
  | input index name type => rfl
  | call op ns type =>
    have hresolve (o : Operator) (count : Nat) : d.withoutOverrides.resolve o count = o :=
      Dialect.resolve_of_overrides_nil rfl o count
    rw [replaced_call, render, hresolve, renderAll_replacedAll ns, render,
      spell_replacedAll d _ (length_renderAll d ns)]

theorem renderAll_replacedAll (ns : List Node) :
    renderAll d.withoutOverrides (replacedAll d ns) = renderAll d ns := by
  cases ns with
  | nil => rfl
  | cons n rest =>
    rw [replacedAll, renderAll, renderAll, render_replaced n, renderAll_replacedAll rest]

end

/-- Writing with replacements is writing what has been replaced. -/
theorem text_withoutOverrides_replaced (n : Node) (left right : Nat) :
    text d.withoutOverrides (n.replaced d) left right = text d n left right := by
  rw [text, text, render_replaced]

example :
    let d := { product := .ansi, overrides := [("PLUS", Catalog.times), ("TIMES", Catalog.plus),
      ("UNARY_MINUS", Catalog.minus)] }
    let a := Node.column 0 "a" (.notNull .integer)
    text d (.call Catalog.plus [.call Catalog.times [a, a] a.type,
      .call Catalog.unaryMinus [a] a.type] a.type) = "(a + a) * - a" := by
  decide

end Sql

end RowExpr
