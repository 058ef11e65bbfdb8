import Mathlib.Order.MinMax
import RowExpr.Proofs.Host.StandardTables

/-!
# Three-valued logic

Trees of `AND`, `OR`, `NOT` and null tests come to their value in three-valued logic, where a
null is unknown and lies between false and true. Operands are looked at from the left, and not
all of them, but the value does not tell: conditions that the laws of this logic make of each
other come to the same.
-/

namespace RowExpr

/-! ## Truth -/

inductive Truth
  | false
  | unknown
  | true
  deriving DecidableEq, Repr

namespace Truth

def rank : Truth → Nat
  | false => 0
  | unknown => 1
  | true => 2

theorem rank_injective : Function.Injective rank := by
  intro a b h
  cases a <;> cases b <;> first | rfl | cases h

/-- False is least, true is greatest. -/
instance : LinearOrder Truth := LinearOrder.lift' rank rank_injective

def not : Truth → Truth
  | false => true
  | unknown => unknown
  | true => false

theorem not_not (a : Truth) : a.not.not = a := by
  cases a <;> rfl

theorem antitone_not : Antitone not := by
  intro a b h
  revert h
  cases a <;> cases b <;> decide

theorem not_min (a b : Truth) : (min a b).not = max a.not b.not := antitone_not.map_min

theorem not_max (a b : Truth) : (max a b).not = min a.not b.not := antitone_not.map_max

def ofBool : Bool → Truth
  | .false => false
  | .true => true

/-- How a row holds a truth value. -/
def value : Truth → Value
  | false => .bool Bool.false
  | unknown => .null
  | true => .bool Bool.true

theorem value_ofBool (b : Bool) : (ofBool b).value = .bool b := by
  cases b <;> rfl

theorem isNull_value (a : Truth) : a.value.isNull = decide (a = unknown) := by
  cases a <;> rfl

end Truth

/-! ## Conditions -/

inductive Condition
  | input (index : UInt64)
  | and (l r : Condition)
  | or (l r : Condition)
  | not (c : Condition)
  | isNull (c : Condition)
  | isNotNull (c : Condition)
  deriving Repr

namespace Condition

/-- The value in three-valued logic, where columns have the given values. -/
def kleene (t : UInt64 → Truth) : Condition → Truth
  | input index => t index
  | and l r => min (l.kleene t) (r.kleene t)
  | or l r => max (l.kleene t) (r.kleene t)
  | not c => (c.kleene t).not
  | isNull c => .ofBool (c.kleene t = .unknown)
  | isNotNull c => .ofBool (c.kleene t ≠ .unknown)

def inputs : Condition → List UInt64
  | input index => [index]
  | and l r | or l r => l.inputs ++ r.inputs
  | not c | isNull c | isNotNull c => c.inputs

/-- The expression is a tree of the condition. Calls may carry any type. -/
inductive IsTree : Condition → Node → Prop
  | input (index : UInt64) (name : Option String) (nullable : Bool) :
    IsTree (.input index) (.input index name ⟨.boolean, nullable⟩)
  | and {c d : Condition} {l r : Node} (type : SqlType) :
    IsTree c l → IsTree d r → IsTree (.and c d) (.call Catalog.and [l, r] type)
  | or {c d : Condition} {l r : Node} (type : SqlType) :
    IsTree c l → IsTree d r → IsTree (.or c d) (.call Catalog.or [l, r] type)
  | not {c : Condition} {n : Node} (type : SqlType) :
    IsTree c n → IsTree (.not c) (.call Catalog.not [n] type)
  | isNull {c : Condition} {n : Node} (type : SqlType) :
    IsTree c n → IsTree (.isNull c) (.call Catalog.isNull [n] type)
  | isNotNull {c : Condition} {n : Node} (type : SqlType) :
    IsTree c n → IsTree (.isNotNull c) (.call Catalog.isNotNull [n] type)

/-- Operands of `AND` and `OR` put in another order or grouped in another way, and negations
pushed inward, anywhere in a condition. -/
inductive Rearranged : Condition → Condition → Prop
  | refl (c : Condition) : Rearranged c c
  | symm {c d : Condition} : Rearranged c d → Rearranged d c
  | trans {c d e : Condition} : Rearranged c d → Rearranged d e → Rearranged c e
  | swapAnd (c d : Condition) : Rearranged (.and c d) (.and d c)
  | regroupAnd (c d e : Condition) : Rearranged (.and (.and c d) e) (.and c (.and d e))
  | swapOr (c d : Condition) : Rearranged (.or c d) (.or d c)
  | regroupOr (c d e : Condition) : Rearranged (.or (.or c d) e) (.or c (.or d e))
  | negateAnd (c d : Condition) : Rearranged (.not (.and c d)) (.or (.not c) (.not d))
  | negateOr (c d : Condition) : Rearranged (.not (.or c d)) (.and (.not c) (.not d))
  | negateTwice (c : Condition) : Rearranged (.not (.not c)) c
  | and {c c' d d' : Condition} :
    Rearranged c c' → Rearranged d d' → Rearranged (.and c d) (.and c' d')
  | or {c c' d d' : Condition} :
    Rearranged c c' → Rearranged d d' → Rearranged (.or c d) (.or c' d')
  | not {c c' : Condition} : Rearranged c c' → Rearranged (.not c) (.not c')
  | isNull {c c' : Condition} : Rearranged c c' → Rearranged (.isNull c) (.isNull c')
  | isNotNull {c c' : Condition} : Rearranged c c' → Rearranged (.isNotNull c) (.isNotNull c')

namespace Rearranged

variable {c d : Condition}

theorem kleene_eq (h : Rearranged c d) (t : UInt64 → Truth) : c.kleene t = d.kleene t := by
  induction h with
  | refl => rfl
  | symm _ ih => exact ih.symm
  | trans _ _ ih ih' => exact ih.trans ih'
  | swapAnd => exact min_comm _ _
  | regroupAnd => exact min_assoc _ _ _
  | swapOr => exact max_comm _ _
  | regroupOr => exact max_assoc _ _ _
  | negateAnd => exact Truth.not_min _ _
  | negateOr => exact Truth.not_max _ _
  | negateTwice => exact Truth.not_not _
  | and _ _ ih ih' | or _ _ ih ih' => simp only [kleene, ih, ih']
  | not _ ih | isNull _ ih | isNotNull _ ih => simp only [kleene, ih]

theorem mem_inputs_iff (h : Rearranged c d) (index : UInt64) :
    index ∈ c.inputs ↔ index ∈ d.inputs := by
  induction h with
  | refl | negateAnd | negateOr | negateTwice => rfl
  | symm _ ih => exact ih.symm
  | trans _ _ ih ih' => exact ih.trans ih'
  | swapAnd | swapOr => simp only [inputs, List.mem_append, or_comm]
  | regroupAnd | regroupOr => simp only [inputs, List.mem_append, or_assoc]
  | and _ _ ih ih' | or _ _ ih ih' => simp only [inputs, List.mem_append, ih, ih']
  | not _ ih | isNull _ ih | isNotNull _ ih => exact ih

end Rearranged

end Condition

namespace Host

/-! ## Operators -/

theorem combine_andAlso_value (a b : Truth) :
    BinaryOp.andAlso.combine (.ok a.value) (.ok b.value) = .ok (min a b).value := by
  cases a <;> cases b <;> rfl

theorem combine_orElse_value (a b : Truth) :
    BinaryOp.orElse.combine (.ok a.value) (.ok b.value) = .ok (max a b).value := by
  cases a <;> cases b <;> rfl

theorem applyUnary_not_value (a : Truth) : applyUnary .not a.value = .ok a.not.value := by
  cases a <;> rfl

/-! ## Trees -/

section

variable {c : Condition} {n : Node} {row : List Value} {t : UInt64 → Truth}

theorem admitted_of_isTree (h : c.IsTree n) : n.Everywhere Node.Admitted := by
  induction h with
  | input => exact (Node.everywhere_input ..).2 trivial
  | and type _ _ hl hr | or type _ _ hl hr =>
    refine (Node.everywhere_call ..).2 ⟨⟨by decide, rfl⟩, ?_⟩
    exact List.forall_mem_cons.2 ⟨hl, List.forall_mem_singleton.2 hr⟩
  | not type _ hn | isNull type _ hn | isNotNull type _ hn =>
    exact (Node.everywhere_call ..).2 ⟨⟨by decide, rfl⟩, List.forall_mem_singleton.2 hn⟩

theorem result_of_isTree (h : c.IsTree n)
    (hrow : ∀ index ∈ c.inputs, row[index.toNat]? = some (t index).value) :
    result .standard row n .null = .ok (c.kleene t).value := by
  induction h with
  | input index name nullable =>
    have hfield : field row index = .ok (t index).value := by
      rw [field, hrow index List.mem_cons_self]
    rw [result, hfield]
    rfl
  | and type _ _ ihl ihr =>
    rw [Condition.inputs, List.forall_mem_append] at hrow
    rw [result_call_null, find_standard]
    show BinaryOp.andAlso.combine (result .standard row _ .null) (result .standard row _ .null) = _
    rw [ihl hrow.1, ihr hrow.2, combine_andAlso_value]
    rfl
  | or type _ _ ihl ihr =>
    rw [Condition.inputs, List.forall_mem_append] at hrow
    rw [result_call_null, find_standard]
    show BinaryOp.orElse.combine (result .standard row _ .null) (result .standard row _ .null) = _
    rw [ihl hrow.1, ihr hrow.2, combine_orElse_value]
    rfl
  | not type _ ih =>
    rw [result_call_null, find_standard]
    show result .standard row _ .null >>= applyUnary .not = _
    rw [ih hrow, ok_bind, applyUnary_not_value]
    rfl
  | isNull type _ ih =>
    rw [result_call_null, find_standard]
    show result .standard row _ .null >>= applyUnary .isNull = _
    rw [ih hrow, ok_bind, applyUnary, Truth.isNull_value, Condition.kleene, Truth.value_ofBool]
  | isNotNull type _ ih =>
    rw [result_call_null, find_standard]
    show result .standard row _ .null >>= applyUnary .isNotNull = _
    rw [ih hrow, ok_bind, applyUnary, Truth.isNull_value, Condition.kleene, Truth.value_ofBool,
      decide_not]

/-- A tree of a condition comes to the value of the condition in three-valued logic, and so does
every tree of a condition that it is rearranged to. -/
theorem comesTo_kleene (hn : c.IsTree n)
    (hrow : ∀ index ∈ c.inputs, row[index.toNat]? = some (t index).value) :
    ComesTo .standard row n .null (.ok (c.kleene t).value) ∧
      ∀ (d : Condition) (m : Node), c.Rearranged d → d.IsTree m →
        ComesTo .standard row m .null (.ok (c.kleene t).value) := by
  have hvalue : ∀ (d : Condition) (m : Node), c.Rearranged d → d.IsTree m →
      ComesTo .standard row m .null (.ok (c.kleene t).value) := by
    intro d m hd hm
    rw [hd.kleene_eq t, ← result_of_isTree hm fun index hindex =>
      hrow index ((hd.mem_inputs_iff index).2 hindex)]
    exact comesTo_standard (admitted_of_isTree hm) .null
  exact ⟨hvalue c n (.refl c) hn, hvalue⟩

end

namespace Absence

/-- Neither at work, nor is it unknown whether that is excused, nor is it paid. -/
def condition : Condition := .not (.or (.input 0) (.or (.isNull (.input 1)) (.input 2)))

def pushed : Condition :=
  .and (.not (.input 0)) (.and (.not (.input 2)) (.not (.isNull (.input 1))))

def column (index : UInt64) : Node := .input index none (.orNull .boolean)

def notTold : Node := .call Catalog.isNull [column 1] (.notNull .boolean)

def negation (n : Node) : Node := .call Catalog.not [n] (.orNull .boolean)

def tree : Node :=
  negation (.call Catalog.or [column 0, .call Catalog.or [notTold, column 2] (.orNull .boolean)]
    (.orNull .boolean))

def pushedTree : Node :=
  .call Catalog.and [negation (column 0),
    .call Catalog.and [negation (column 2), negation notTold] (.orNull .boolean)]
    (.orNull .boolean)

theorem rearranged : condition.Rearranged pushed :=
  .trans (.negateOr _ _)
    (.and (.refl _) (.trans (.negateOr _ _) (.swapAnd _ _)))

theorem isTree_tree : condition.IsTree tree :=
  .not _ (.or _ (.input 0 none true) (.or _ (.isNull _ (.input 1 none true)) (.input 2 none true)))

theorem isTree_pushedTree : pushed.IsTree pushedTree :=
  .and _ (.not _ (.input 0 none true))
    (.and _ (.not _ (.input 2 none true)) (.not _ (.isNull _ (.input 1 none true))))

/-- An excused day that may or may not be paid. -/
def row : List Value := [.bool false, .bool true, .null]

def truth (index : UInt64) : Truth :=
  if index = 0 then .false else if index = 1 then .true else .unknown

theorem comesTo_unknown :
    (condition.IsTree tree ∧
      (∀ index ∈ condition.inputs, row[index.toNat]? = some (truth index).value) ∧
      condition.Rearranged pushed ∧ pushed.IsTree pushedTree) ∧
    ComesTo .standard row tree .null (.ok .null) ∧
      ComesTo .standard row pushedTree .null (.ok .null) := by
  have hrow : ∀ index ∈ condition.inputs, row[index.toNat]? = some (truth index).value := by
    simp only [condition, Condition.inputs, List.singleton_append, List.forall_mem_cons]
    exact ⟨rfl, rfl, rfl, List.forall_mem_nil _⟩
  obtain ⟨htree, hrearranged⟩ := comesTo_kleene isTree_tree hrow
  exact ⟨⟨isTree_tree, hrow, rearranged, isTree_pushedTree⟩, htree,
    hrearranged pushed pushedTree rearranged isTree_pushedTree⟩

end Absence

end Host

end RowExpr
