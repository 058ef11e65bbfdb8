import RowExpr.Codec.Node
import RowExpr.Proofs.Except
import RowExpr.Proofs.Node.Everywhere

/-!
# What can be built

Arities, operators and expressions are put together from parts, taken from others, or read from
JSON, in any combination. Main statement: what comes out is well formed at every call, and
whatever is well formed can be come by (`Node.built_iff_everywhere_wellFormed`).
-/

namespace RowExpr

theorem Codec.ofBuilt_eq_ok_iff {α : Type} {x : Except BuildError α} {a : α} :
    ofBuilt x = .ok a ↔ x = .ok a := by
  cases x <;> simp [ofBuilt]

/-! ## Arities -/

namespace Arity

inductive Built : Arity → Prop
  | ofBounds {min max : Int} {a : Arity} : ofBounds min max = .ok a → Built a
  | ofCount {count : Int} {a : Arity} : ofCount count = .ok a → Built a
  | ofRange {min max : Int} {a : Arity} : ofRange min max = .ok a → Built a
  | atLeast {min : Int} {a : Arity} : atLeast min = .ok a → Built a
  | atMost {max : Int} {a : Arity} : atMost max = .ok a → Built a
  | unbounded : Built unbounded
  | read {j : Json} {a : Arity} : Codec.decodeArity j = .ok a → Built a

/-- The two numbers are counts or -1, and the counts are not inverted. -/
structure WellFormed (a : Arity) : Prop where
  lower : -1 ≤ a.lowerNumber
  upper : -1 ≤ a.upperNumber
  ordered : a.lowerNumber ≠ -1 → a.upperNumber ≠ -1 → a.lowerNumber ≤ a.upperNumber

/-- A count is within the two numbers, of which -1 bounds nothing. -/
structure Spans (a : Arity) (count : Nat) : Prop where
  lower : a.lowerNumber ≠ -1 → a.lowerNumber ≤ count
  upper : a.upperNumber ≠ -1 → count ≤ a.upperNumber

section

variable {a : Arity}

theorem wellFormed_iff_ordered : a.WellFormed ↔ a.Ordered := by
  constructor
  · rintro h m hm n hn
    have hle := h.ordered
    simp only [lowerNumber, upperNumber, Option.mem_def.1 hm, Option.mem_def.1 hn,
      boundNumber] at hle
    have := hle (by omega) (by omega)
    exact Fin.le_def.2 (by omega)
  · intro h
    obtain ⟨_ | m, _ | n⟩ := a
    case some.some =>
      have hle : m.val ≤ n.val := h m rfl n rfl
      constructor <;> simp only [lowerNumber, upperNumber, boundNumber] <;> omega
    all_goals constructor <;> simp only [lowerNumber, upperNumber, boundNumber] <;> omega

theorem spans_iff_admits {count : Nat} : a.Spans count ↔ a.admits count = true := by
  have h : a.Spans count ↔ (a.lowerNumber ≠ -1 → a.lowerNumber ≤ count) ∧
      (a.upperNumber ≠ -1 → count ≤ a.upperNumber) :=
    ⟨fun h => ⟨h.lower, h.upper⟩, fun h => ⟨h.1, h.2⟩⟩
  rw [h]
  obtain ⟨_ | m, _ | n⟩ := a <;> simp [admits, lowerNumber, upperNumber, boundNumber]

theorem boundNumber_eq_zero_iff (b : Option Bound) : boundNumber b = 0 ↔ b = some 0 := by
  cases b with
  | none => decide
  | some b => simp [boundNumber]

theorem eq_zero_iff_numbers : a = .zero ↔ a.lowerNumber = 0 ∧ a.upperNumber = 0 := by
  obtain ⟨lower, upper⟩ := a
  simp [zero, exactly, lowerNumber, upperNumber, boundNumber_eq_zero_iff]

theorem exists_ofBounds_of_decodeArity {j : Json} (h : Codec.decodeArity j = .ok a) :
    ∃ min max, Arity.ofBounds min max = .ok a := by
  unfold Codec.decodeArity at h
  obtain ⟨_, -, h⟩ := bind_eq_ok_iff.1 h
  obtain ⟨_, -, h⟩ := bind_eq_ok_iff.1 h
  obtain ⟨min, -, h⟩ := bind_eq_ok_iff.1 h
  obtain ⟨_, -, h⟩ := bind_eq_ok_iff.1 h
  obtain ⟨max, -, h⟩ := bind_eq_ok_iff.1 h
  unfold Codec.buildArity at h
  split at h
  · cases h
    exact ⟨min, max, ‹_›⟩
  · cases h

/-- Each way to an arity goes by its two bounds. -/
theorem Built.exists_ofBounds (h : a.Built) : ∃ min max, Arity.ofBounds min max = .ok a := by
  cases h with
  | @ofBounds min max _ h => exact ⟨min, max, h⟩
  | @ofCount count _ h =>
    unfold Arity.ofCount at h
    split at h
    · exact ⟨count, count, h⟩
    · cases h
  | @ofRange min max _ h =>
    unfold Arity.ofRange at h
    split at h
    · exact ⟨min, max, h⟩
    · cases h
  | @atLeast min _ h =>
    unfold Arity.atLeast at h
    split at h
    · exact ⟨min, -1, h⟩
    · cases h
  | @atMost max _ h =>
    unfold Arity.atMost at h
    split at h
    · exact ⟨-1, max, h⟩
    · cases h
  | unbounded => exact ⟨-1, -1, rfl⟩
  | read h => exact exists_ofBounds_of_decodeArity h

theorem built_iff_ordered : a.Built ↔ a.Ordered := by
  constructor
  · intro h
    obtain ⟨min, max, h⟩ := h.exists_ofBounds
    exact ordered_of_ofBounds h
  · exact fun h => .ofBounds (ofBounds_numbers h)

end

end Arity

/-! ## Operators -/

namespace Operator

inductive Built : Operator → Prop
  | check {parts op : Operator} : parts.arity.Built → parts.check = .ok op → Built op
  | read {leniency : Codec.Leniency} {j : Json} {op : Operator} :
    Codec.decodeOperator leniency j = .ok op → Built op

/-- A name, well-formed bounds, and rules that go with the kind. A minus in front of its operand
is no arithmetic. -/
structure WellFormed (op : Operator) : Prop where
  name : op.name ≠ ""
  arity : op.arity.WellFormed
  arithmetic : op.kind ∈ [.plus, .minus, .times, .divide, .mod] →
    op.operands ∈ [.numeric, .numericOrInterval, .division]
  trim : op.kind = .trim → op.operands = .trim
  niladic : op.operands = .niladic → op.arity.lowerNumber = 0 ∧ op.arity.upperNumber = 0

section

variable {op : Operator}

theorem arithmetic_iff_mem (k : Kind) :
    k.isArithmetic = true ↔ k ∈ [.plus, .minus, .times, .divide, .mod] := by
  cases k <;> decide

theorem numericOrTemporal_iff_mem (r : OperandRule) :
    r.isNumericOrTemporal = true ↔ r ∈ [.numeric, .numericOrInterval, .division] := by
  cases r <;> decide

theorem wellFormed_iff_consistent : op.WellFormed ↔ op.Consistent := by
  constructor
  · intro h
    refine ⟨h.name, Arity.wellFormed_iff_ordered.1 h.arity, ?_, h.trim, ?_⟩
    · rw [arithmetic_iff_mem, numericOrTemporal_iff_mem]
      exact h.arithmetic
    · rw [Arity.eq_zero_iff_numbers]
      exact h.niladic
  · intro h
    refine ⟨h.name_ne_empty, Arity.wellFormed_iff_ordered.2 h.ordered, ?_, h.trim, ?_⟩
    · rw [← arithmetic_iff_mem, ← numericOrTemporal_iff_mem]
      exact h.arithmetic
    · rw [← Arity.eq_zero_iff_numbers]
      exact h.niladic

theorem consistent_of_decodeOperator {leniency : Codec.Leniency} {j : Json}
    (h : Codec.decodeOperator leniency j = .ok op) : op.Consistent := by
  unfold Codec.decodeOperator at h
  -- All steps but the last only gather the parts.
  repeat obtain ⟨_, -, h⟩ := bind_eq_ok_iff.1 h
  obtain ⟨rfl, hop⟩ := check_eq_ok_iff.1 (Codec.ofBuilt_eq_ok_iff.1 h)
  exact hop

theorem built_iff_consistent : op.Built ↔ op.Consistent := by
  constructor
  · rintro (⟨-, h⟩ | h)
    · obtain ⟨rfl, hop⟩ := check_eq_ok_iff.1 h
      exact hop
    · exact consistent_of_decodeOperator h
  · intro h
    exact .check (Arity.built_iff_ordered.2 h.ordered) (check_eq_ok_iff.2 ⟨rfl, h⟩)

end

end Operator

/-! ## Expressions -/

namespace Node

/-- An expression that is come by in any way: a leaf as it is given, a call as it is built or
read, and what stands inside. -/
inductive Built : Node → Prop
  | literal (v : Value) (type : SqlType) : Built (.literal v type)
  | input (index : UInt64) (name : Option String) (type : SqlType) :
    Built (.input index name type)
  | ofCall {op : Operator} {operands : List Node} {type : SqlType} {n : Node} :
    op.Built → (∀ m ∈ operands, Built m) → ofCall op operands type = .ok n → Built n
  | infer {op : Operator} {operands : List Node} {n : Node} :
    op.Built → (∀ m ∈ operands, Built m) → infer op operands = .ok n → Built n
  | withOperator {op : Operator} {m n : Node} :
    op.Built → Built m → withOperator op m = .ok n → Built n
  | operand {m n : Node} : Built m → n ∈ m.operands → Built n
  | read {fuel : Nat} {leniency : Codec.Leniency} {j : Json} {n : Node} :
    Codec.decodeNodeWithin fuel leniency j = .ok n → Built n
  | readCall {fuel : Nat} {leniency : Codec.Leniency} {j : Json} {n : Node} :
    Codec.decodeCall leniency (Codec.decodeNodeWithin fuel leniency) j = .ok n → Built n

/-- A call of a well-formed operator on as many operands as its bounds allow. -/
def WellFormed : Node → Prop
  | call op operands _ => op.WellFormed ∧ op.arity.Spans operands.length
  | _ => True

/-- What the construction of a call makes sure of. -/
def Sound : Node → Prop
  | call op operands _ => op.Consistent ∧ op.arity.admits operands.length = true
  | _ => True

theorem wellFormed_iff_sound (n : Node) : n.WellFormed ↔ n.Sound := by
  cases n with
  | literal | input => exact Iff.rfl
  | call => exact and_congr Operator.wellFormed_iff_consistent Arity.spans_iff_admits

section

variable {n : Node}

theorem everywhere_sound_of_ofCall {op : Operator} {operands : List Node} {type : SqlType}
    (hop : op.Consistent) (hoperands : ∀ m ∈ operands, m.Everywhere Sound)
    (h : ofCall op operands type = .ok n) : n.Everywhere Sound := by
  obtain ⟨rfl, hcount⟩ := ofCall_eq_ok_iff.1 h
  exact (everywhere_call _ _ _).2 ⟨⟨hop, hcount⟩, hoperands⟩

theorem everywhere_sound_of_decodeCall {leniency : Codec.Leniency}
    {decodeOperand : Json → Codec.Decoded Node}
    (hoperand : ∀ j m, decodeOperand j = .ok m → m.Everywhere Sound) {j : Json}
    (h : Codec.decodeCall leniency decodeOperand j = .ok n) : n.Everywhere Sound := by
  unfold Codec.decodeCall at h
  obtain ⟨_, -, h⟩ := bind_eq_ok_iff.1 h
  obtain ⟨_, -, h⟩ := bind_eq_ok_iff.1 h
  obtain ⟨op, hop, h⟩ := bind_eq_ok_iff.1 h
  obtain ⟨_, -, h⟩ := bind_eq_ok_iff.1 h
  obtain ⟨operands, hoperands, h⟩ := bind_eq_ok_iff.1 h
  obtain ⟨_, -, h⟩ := bind_eq_ok_iff.1 h
  obtain ⟨type, -, h⟩ := bind_eq_ok_iff.1 h
  refine everywhere_sound_of_ofCall (Operator.consistent_of_decodeOperator hop) ?_
    (Codec.ofBuilt_eq_ok_iff.1 h)
  intro m hm
  unfold Codec.list at hoperands
  split at hoperands
  · obtain ⟨item, -, hitem⟩ := exists_of_mem_of_mapM hoperands hm
    exact hoperand item m hitem
  · cases hoperands

theorem exists_of_decodeLiteral {j : Json} (h : Codec.decodeLiteral j = .ok n) :
    ∃ v type, n = literal v type := by
  unfold Codec.decodeLiteral at h
  obtain ⟨_, -, h⟩ := bind_eq_ok_iff.1 h
  obtain ⟨_, -, h⟩ := bind_eq_ok_iff.1 h
  obtain ⟨v, -, h⟩ := bind_eq_ok_iff.1 h
  obtain ⟨_, -, h⟩ := bind_eq_ok_iff.1 h
  obtain ⟨type, -, h⟩ := bind_eq_ok_iff.1 h
  cases h
  exact ⟨v, type, rfl⟩

theorem exists_of_decodeInput {j : Json} (h : Codec.decodeInput j = .ok n) :
    ∃ index name type, n = input index name type := by
  unfold Codec.decodeInput at h
  obtain ⟨_, -, h⟩ := bind_eq_ok_iff.1 h
  obtain ⟨_, -, h⟩ := bind_eq_ok_iff.1 h
  obtain ⟨index, -, h⟩ := bind_eq_ok_iff.1 h
  obtain ⟨name, -, h⟩ := bind_eq_ok_iff.1 h
  obtain ⟨_, -, h⟩ := bind_eq_ok_iff.1 h
  obtain ⟨type, -, h⟩ := bind_eq_ok_iff.1 h
  cases h
  exact ⟨index, name, type, rfl⟩

theorem everywhere_sound_of_decodeNodeWithin {fuel : Nat} {leniency : Codec.Leniency} {j : Json}
    (h : Codec.decodeNodeWithin fuel leniency j = .ok n) : n.Everywhere Sound := by
  induction fuel generalizing leniency j n with
  | zero => cases h
  | succ fuel ih =>
    rw [Codec.decodeNodeWithin] at h
    obtain ⟨⟨tag, body⟩, -, h⟩ := bind_eq_ok_iff.1 h
    split at h
    · obtain ⟨v, type, rfl⟩ := exists_of_decodeLiteral h
      exact (everywhere_literal v type).2 trivial
    · obtain ⟨index, name, type, rfl⟩ := exists_of_decodeInput h
      exact (everywhere_input index name type).2 trivial
    · exact everywhere_sound_of_decodeCall (fun _ _ => ih) h
    · cases h

theorem everywhere_sound_of_built (h : n.Built) : n.Everywhere Sound := by
  induction h with
  | literal v type => exact (everywhere_literal v type).2 trivial
  | input index name type => exact (everywhere_input index name type).2 trivial
  | ofCall hop _ h ih => exact everywhere_sound_of_ofCall (Operator.built_iff_consistent.1 hop) ih h
  | infer hop _ h ih => exact everywhere_sound_of_ofCall (Operator.built_iff_consistent.1 hop) ih h
  | @withOperator op m n hop _ h ih =>
    cases m with
    | literal | input => cases h; exact ih
    | call =>
      exact everywhere_sound_of_ofCall (Operator.built_iff_consistent.1 hop) ih.inside h
  | operand _ hn ih => exact ih.inside _ hn
  | read h => exact everywhere_sound_of_decodeNodeWithin h
  | readCall h =>
    exact everywhere_sound_of_decodeCall (fun _ _ => everywhere_sound_of_decodeNodeWithin) h

theorem built_of_everywhere_sound (h : n.Everywhere Sound) : n.Built := by
  induction h with
  | @intro n hn _ ih =>
    cases n with
    | literal v type => exact .literal v type
    | input index name type => exact .input index name type
    | call op operands type =>
      exact .ofCall (Operator.built_iff_consistent.2 hn.1) ih (ofCall_eq_ok_iff.2 ⟨rfl, hn.2⟩)

end

theorem built_iff_everywhere_wellFormed (n : Node) : n.Built ↔ n.Everywhere WellFormed := by
  constructor
  · intro h
    exact (everywhere_sound_of_built h).imp fun m => (wellFormed_iff_sound m).2
  · intro h
    exact built_of_everywhere_sound (h.imp fun m => (wellFormed_iff_sound m).1)

end Node

end RowExpr
