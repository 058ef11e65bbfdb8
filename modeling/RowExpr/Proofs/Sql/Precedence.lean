import RowExpr.Proofs.Sql.Outline

/-!
# Reading by precedence

Symbols are read from left to right with a stack of what is not finished: operators whose
right operand is due, and brackets that are open. Where two operators compete for the operand
between them, the left one takes it exactly when it binds its right operand more strongly than
the other binds its left one.
-/

namespace RowExpr.Sql

/-- What stands behind an operand in a bracket. -/
inductive Mark
  | comma
  | fromWord
  | forWord
  | close
  /-- The rest of a `CASE` that tests for null. -/
  | caseEnd
  deriving DecidableEq, Repr

inductive Bracket
  | group
  | call (name : String) (form : Form) (done : List Outline)
  | caseWhen
  deriving Repr

inductive Symbol
  | operand (e : Outline)
  | sign (name : String)
  | opening (b : Bracket)
  | mark (m : Mark)
  deriving Repr

/-- Something that is not finished. -/
inductive Frame
  | prefixed (op : Operator)
  | infixed (left : Outline) (op : Operator)
  | inside (b : Bracket)
  deriving Repr

structure Reading where
  stack : List Frame
  held : Option Outline
  deriving Repr

/-! ## Operators -/

def isSign (op : Operator) : Bool :=
  op.form == .binary || op.form == .prefixOp || op.form == .postfixOp

/-- The operator of a sign, by whether an operand is due where it stands. -/
def operatorOf? (ops : List Operator) (due : Bool) (name : String) : Option Operator :=
  ops.find? fun op => isSign op && (op.form == .prefixOp) == due && op.name == name

/-- Gives the operand to the pending operators that take it from an operator that binds it
with `p`. -/
def settle (p : Nat) : Outline → List Frame → Outline × List Frame
  | e, .prefixed op :: rest =>
    if p < op.rightPrec then settle p (op.outline [e]) rest else (e, .prefixed op :: rest)
  | e, .infixed left op :: rest =>
    if p < op.rightPrec then settle p (op.outline [left, e]) rest
    else (e, .infixed left op :: rest)
  | e, stack => (e, stack)

/-- What stands between two operators goes to the left one if that has the higher precedence, or
if both have one precedence and both associate to the left. -/
theorem leftPrec_lt_rightPrec_iff {a b : Operator} :
    b.leftPrec < a.rightPrec ↔ b.precedence < a.precedence ∨
      b.precedence = a.precedence ∧ a.leftAssoc = true ∧ b.leftAssoc = true := by
  rw [UInt32.lt_iff_toNat_lt, ← UInt32.toNat_inj]
  unfold Operator.leftPrec Operator.rightPrec
  cases a.leftAssoc <;> cases b.leftAssoc <;> simp <;> omega

/-! ## Brackets -/

def marks (form : Form) (count : Nat) (m : Mark) : Bool :=
  match form, count, m with
  | .function, _, .comma | .function, _, .close => true
  | .trim, 2, .fromWord | .trim, 3, .close => true
  | .substring, 1, .comma | .substring, 1, .fromWord => true
  | .substring, 2, .comma | .substring, 2, .forWord => true
  | .substring, 2, .close | .substring, 3, .close => true
  | _, _, _ => false

def indicator? : Outline → Option Outline
  | .call name .postfixOp [e] =>
    if name = Catalog.isNull.name then some (Catalog.nullIndicator.outline [e]) else none
  | _ => none

def Bracket.feed (b : Bracket) (m : Mark) (e : Outline) (rest : List Frame) : Option Reading :=
  match b with
  | .group => if m = .close then some ⟨rest, some e⟩ else none
  | .caseWhen => if m = .caseEnd then (indicator? e).map fun i => ⟨rest, some i⟩ else none
  | .call name form done =>
    if marks form (done.length + 1) m then
      if m = .close then some ⟨rest, some (.call name form (done ++ [e]))⟩
      else some ⟨.inside (.call name form (done ++ [e])) :: rest, none⟩
    else none

/-! ## Steps -/

def begin (ops : List Operator) (stack : List Frame) : Symbol → Option Reading
  | .operand e => some ⟨stack, some e⟩
  | .sign name => (operatorOf? ops true name).map fun op => ⟨.prefixed op :: stack, none⟩
  | .opening b => some ⟨.inside b :: stack, none⟩
  | .mark _ => none

def follow (op : Operator) : Outline × List Frame → Reading
  | (e, stack) =>
    if op.form = .postfixOp then ⟨stack, some (op.outline [e])⟩ else ⟨.infixed e op :: stack, none⟩

def endOperand (m : Mark) : Outline × List Frame → Option Reading
  | (e, .inside b :: rest) => b.feed m e rest
  | _ => none

def proceed (ops : List Operator) (e : Outline) (stack : List Frame) : Symbol → Option Reading
  | .sign name =>
    (operatorOf? ops false name).map fun op => follow op (settle op.leftPrec e stack)
  | .mark m => endOperand m (settle 0 e stack)
  | _ => none

def step (ops : List Operator) (r : Reading) (s : Symbol) : Option Reading :=
  match r.held with
  | none => begin ops r.stack s
  | some e => proceed ops e r.stack s

def run (ops : List Operator) (r : Reading) (ss : List Symbol) : Option Reading :=
  ss.foldlM (step ops) r

def finish (r : Reading) : Option Outline :=
  match r.held.map (settle 0 · r.stack) with
  | some (e, []) => some e
  | _ => none

def parse (ops : List Operator) (ss : List Symbol) : Option Outline :=
  (run ops ⟨[], none⟩ ss).bind finish

theorem run_append (ops : List Operator) (r : Reading) (as bs : List Symbol) :
    run ops r (as ++ bs) = (run ops r as).bind fun r => run ops r bs := by
  simp [run, List.foldlM_append, Option.bind_eq_bind]

/-! ## Pending operators -/

/-- How strongly the innermost pending operator binds the operand that is due; zero stands
for none. -/
def pending : List Frame → Nat
  | .prefixed op :: _ | .infixed _ op :: _ => op.rightPrec
  | _ => 0

theorem settle_eq_self {p : Nat} {stack : List Frame} (h : pending stack ≤ p) (e : Outline) :
    settle p e stack = (e, stack) := by
  match stack with
  | [] => rfl
  | .inside _ :: _ => rfl
  | .prefixed op :: _ | .infixed _ op :: _ =>
    have hp : ¬ p < op.rightPrec := by simpa [pending] using h
    simp [settle, hp]

theorem settle_prefixed {p : Nat} {op : Operator} (h : p < op.rightPrec) (e : Outline)
    (stack : List Frame) :
    settle p e (.prefixed op :: stack) = settle p (op.outline [e]) stack := by
  rw [settle, if_pos h]

theorem settle_infixed {p : Nat} {op : Operator} (h : p < op.rightPrec) (l e : Outline)
    (stack : List Frame) :
    settle p e (.infixed l op :: stack) = settle p (op.outline [l, e]) stack := by
  rw [settle, if_pos h]

/-- Whether every operator that is written without parentheses between neighbours of strength
`left` and `right` keeps its left operand from a pending operator of strength `outer`. -/
def Covers (outer left right : Nat) : Prop :=
  ∀ op : Operator, left ≤ op.leftPrec → (right ≠ 0 → right < op.rightPrec) →
    outer ≤ op.leftPrec

/-- An operator that has to have no parentheses between these neighbours. -/
structure Bare (op : Operator) (left right : Nat) : Prop where
  left : left ≤ op.leftPrec
  right : right ≠ 0 → right < op.rightPrec

theorem bare_of_not_needsParens {op : Operator} {left right : Nat}
    (h : needsParens op.leftPrec op.rightPrec left right = false) : Bare op left right := by
  simp only [needsParens, Bool.or_eq_false_iff, decide_eq_false_iff_not, Nat.not_lt,
    Bool.and_eq_false_iff, Nat.not_le] at h
  obtain ⟨h1, h2⟩ := h
  exact ⟨h1, fun h0 => by omega⟩

theorem rightPrec_le_leftPrec_succ (op : Operator) : op.rightPrec ≤ op.leftPrec + 1 := by
  unfold Operator.rightPrec Operator.leftPrec
  split <;> omega

theorem covers_zero (left right : Nat) : Covers 0 left right := fun _ _ _ => Nat.zero_le _

theorem covers_self (p right : Nat) : Covers p p right := fun _ h _ => h

/-- On the way down to a left operand, operators bind their right operands more and more
strongly, so that none of them loses its left operand. -/
theorem Covers.leftOperand {outer left right : Nat} (h : Covers outer left right) {op : Operator}
    (hop : Bare op left right) : Covers outer left op.leftPrec := by
  intro inner hl hr
  have houter := h op hop.left hop.right
  have := rightPrec_le_leftPrec_succ inner
  by_cases h0 : op.leftPrec = 0
  · omega
  · have := hr h0
    omega

/-- The operand of a prefix operator is written as if the operator bound the operand behind it
with its left strength. That is enough: of two operators of one precedence, at most one binds
to the right. -/
theorem covers_prefixOperand (op : Operator) :
    Covers op.rightPrec op.leftPrec op.rightPrec := by
  intro inner hl hr
  unfold Operator.leftPrec Operator.rightPrec at *
  cases ho : op.leftAssoc <;> cases hi : inner.leftAssoc <;> simp [ho, hi] at hl hr ⊢ <;> omega

end RowExpr.Sql
