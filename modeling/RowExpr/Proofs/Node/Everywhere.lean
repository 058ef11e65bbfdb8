import RowExpr.Node
import RowExpr.Operator.Catalog

/-!
# All nodes of an expression

Properties that hold of an expression and of everything inside it.
-/

namespace RowExpr.Node

def operands : Node → List Node
  | call _ ns _ => ns
  | _ => []

section

variable {p : Node → Prop}

mutual

@[elab_as_elim]
theorem inductOn (literal : ∀ v type, p (.literal v type))
    (input : ∀ index name type, p (.input index name type))
    (call : ∀ op ns type, (∀ n ∈ ns, p n) → p (.call op ns type)) : ∀ n : Node, p n
  | .literal v type => literal v type
  | .input index name type => input index name type
  | .call op ns type => call op ns type (inductOnAll literal input call ns)

theorem inductOnAll (literal : ∀ v type, p (.literal v type))
    (input : ∀ index name type, p (.input index name type))
    (call : ∀ op ns type, (∀ n ∈ ns, p n) → p (.call op ns type)) :
    ∀ ns : List Node, ∀ n ∈ ns, p n
  | [] => List.forall_mem_nil _
  | n :: rest => List.forall_mem_cons.2
    ⟨inductOn literal input call n, inductOnAll literal input call rest⟩

end

end

inductive Everywhere (p : Node → Prop) : Node → Prop
  | intro {n : Node} : p n → (∀ m ∈ n.operands, Everywhere p m) → Everywhere p n

variable {p : Node → Prop} {n : Node}

theorem Everywhere.here (h : n.Everywhere p) : p n := by
  cases h
  assumption

theorem Everywhere.inside (h : n.Everywhere p) : ∀ m ∈ n.operands, m.Everywhere p := by
  cases h
  assumption

@[simp] theorem everywhere_literal (v : Value) (type : SqlType) :
    (literal v type).Everywhere p ↔ p (literal v type) :=
  ⟨Everywhere.here, fun h => .intro h (by simp [operands])⟩

@[simp] theorem everywhere_input (index : UInt64) (name : Option String) (type : SqlType) :
    (input index name type).Everywhere p ↔ p (input index name type) :=
  ⟨Everywhere.here, fun h => .intro h (by simp [operands])⟩

@[simp] theorem everywhere_call (op : Operator) (ns : List Node) (type : SqlType) :
    (call op ns type).Everywhere p ↔ p (call op ns type) ∧ ∀ m ∈ ns, m.Everywhere p :=
  ⟨fun h => ⟨h.here, h.inside⟩, fun h => .intro h.1 h.2⟩

theorem Everywhere.imp {q : Node → Prop} (h : ∀ n, p n → q n)
    (hn : n.Everywhere p) : n.Everywhere q := by
  induction hn with
  | intro hn _ ih => exact .intro (h _ hn) ih

theorem Everywhere.and {q : Node → Prop} (hp : n.Everywhere p) (hq : n.Everywhere q) :
    n.Everywhere fun m => p m ∧ q m := by
  induction hp with
  | intro hn _ ih => exact .intro ⟨hn, hq.here⟩ fun m hm => ih m hm (hq.inside m hm)

/-- A call of a standard operator on as many operands as it takes. -/
def Admitted : Node → Prop
  | call op ns _ => op ∈ Catalog.all ∧ op.arity.admits ns.length = true
  | _ => True

end RowExpr.Node
