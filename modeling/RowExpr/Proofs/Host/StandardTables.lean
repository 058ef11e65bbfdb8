import RowExpr.Proofs.Host.Calls
import RowExpr.Proofs.Host.Result

/-!
# The standard tables

Each standard operator has an implementor that lowers calls with as many operands as the
operator takes, and no two of them share one.
-/

namespace RowExpr

theorem Node.Checked.admitted {n : Node} (h : n.Checked) : n.Admitted := by
  cases n with
  | literal | input => trivial
  | call op ns type =>
    obtain ⟨hop, hcount, -, -⟩ := checked_call h
    exact ⟨hop, hcount⟩

/-- The operators whose result says whether their operand is null. -/
def Catalog.nullTests : List Operator := [isNull, isNotNull, nullIndicator]

theorem Catalog.arity_of_nullTest : ∀ op ∈ nullTests, op.arity = .one := by
  decide

namespace Host

/-! ## Methods -/

theorem mem_of_resolve {owner name : String} {count : Nat} {m : Method}
    (h : MethodTable.standard.resolve owner name count = some m) : m ∈ Standard.methods := by
  rw [MethodTable.standard, MethodTable.resolve_ofList] at h
  exact List.mem_reverse.1 (List.mem_of_find?_eq_some h)

theorem name_of_resolve {owner name : String} {count : Nat} {m : Method}
    (h : MethodTable.standard.resolve owner name count = some m) : m.name = name := by
  rw [MethodTable.standard, MethodTable.resolve_ofList] at h
  exact (MethodTable.answers_iff.1 (List.find?_some h)).1.2

theorem body_of_nullIndicator {m : Method} (hm : m ∈ Standard.methods)
    (hname : m.name = "nullIndicator") : m.body = Standard.nullIndicatorBody := by
  simp only [Standard.methods, List.mem_cons, List.not_mem_nil, or_false] at hm
  rcases hm with rfl | rfl | rfl | rfl | rfl | rfl | rfl | rfl | rfl
  iterate 8 exact absurd hname (by decide)
  rfl

theorem takes_method {owner name : String} {count : Nat}
    (h : (Standard.methods.reverse.find? (MethodTable.answers owner name count)).isSome = true) :
    (Implementor.method owner name).Takes .standard count := by
  rwa [Implementor.Takes, MethodTable.standard, MethodTable.resolve_ofList]

/-! ## Implementors -/

theorem find_standard (id : String) :
    Implementors.standard.find id = (standardBindings.reverse.lookup id).getD .fallback := by
  rw [Implementors.standard, Implementors.find_ofList]

theorem takes_standard {op : Operator} (hop : op ∈ Catalog.all) {count : Nat}
    (hcount : op.arity.admits count = true) :
    (Implementors.standard.find op.id).Takes .standard count := by
  have hzero : Arity.zero.admits count = true → count = 0 := (Arity.admits_exactly 0 count).1
  have hone : Arity.one.admits count = true → count = 1 := (Arity.admits_exactly 1 count).1
  have htwo : Arity.two.admits count = true → count = 2 := (Arity.admits_exactly 2 count).1
  have hthree : Arity.three.admits count = true → count = 3 := (Arity.admits_exactly 3 count).1
  rw [find_standard]
  simp only [Catalog.all, List.mem_cons, List.not_mem_nil, or_false] at hop
  rcases hop with rfl | rfl | rfl | rfl | rfl | rfl | rfl | rfl | rfl | rfl | rfl | rfl | rfl |
    rfl | rfl | rfl | rfl | rfl | rfl | rfl | rfl | rfl | rfl | rfl | rfl | rfl
  iterate 2 exact htwo hcount
  iterate 3 exact hone hcount
  iterate 12 exact htwo hcount
  · exact hone hcount
  · exact takes_method (by rw [hthree hcount]; rfl)
  · -- A substring has one method with a length and one without.
    have hbounds : 2 ≤ count ∧ count ≤ 3 := (Arity.admits_between 2 3 count).1 hcount
    have hboth : count = 2 ∨ count = 3 := by omega
    rcases hboth with rfl | rfl <;> exact takes_method rfl
  iterate 4 exact takes_method (by rw [hone hcount]; rfl)
  · exact takes_method (by rw [hzero hcount]; rfl)
  · exact takes_method (by rw [hone hcount]; rfl)

theorem operandMode_null (i : Implementor) : i.operandMode .null = .null := by
  cases i <;> rfl

/-! ## Expressions -/

section

variable {row : List Value}

theorem result_standard_call (op : Operator) (ns : List Node) (type : SqlType)
    (mode : NullMode) :
    result .standard row (.call op ns type) mode =
      (Implementors.standard.find op.id).apply .standard op type
          (resultAll .standard row ns ((Implementors.standard.find op.id).operandMode mode)) >>=
        mode.settle type.name ((Implementors.standard.find op.id).held .standard ns.length type) :=
  rfl

theorem result_call_null (op : Operator) (ns : List Node) (type : SqlType) :
    result .standard row (.call op ns type) .null =
      (Implementors.standard.find op.id).apply .standard op type
        (resultAll .standard row ns .null) := by
  rw [result_standard_call, operandMode_null]
  exact bind_ok _

/-- Expressions of standard operators are lowered in every mode, and come to their result. -/
theorem comesTo_standard {n : Node} (hn : n.Everywhere Node.Admitted) (mode : NullMode) :
    ComesTo .standard row n mode (result .standard row n mode) := by
  refine comesTo_result (hn.imp fun n hn => ?_) mode
  cases n with
  | literal | input => trivial
  | call op ns type => exact takes_standard hn.1 hn.2

theorem comesTo_standard_iff {n : Node} (hn : n.Everywhere Node.Admitted) {mode : NullMode}
    {r : Except EvalError Value} :
    ComesTo .standard row n mode r ↔ result .standard row n mode = r :=
  ⟨(comesTo_standard hn mode).unique, fun h => h ▸ comesTo_standard hn mode⟩

end

end Host

end RowExpr
