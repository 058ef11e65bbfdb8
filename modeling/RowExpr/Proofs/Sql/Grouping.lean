import RowExpr.Proofs.Sql.Context
import RowExpr.Proofs.Sql.Vocabulary

/-!
# What a grouping costs

Where every operator stands between its operands, only parentheses group against precedence.
Whatever tokens are read as a tree, they open at least the parentheses that the tree is written
with (`parens_le_of_readTokens`).
-/

namespace RowExpr.Sql.Vocabulary

/-- Whether every operator stands between its operands. -/
def Infix (v : Vocabulary) : Prop := ∀ op ∈ v.operators, op.form = .binary

variable {v : Vocabulary}

/-! ## Operators by name -/

section

variable {w : String} {op : Operator}

theorem operatorOf?_true (hv : v.Infix) (w : String) : operatorOf? v.operators true w = none := by
  rw [operatorOf?, List.find?_eq_none]
  intro op hop
  simp [hv op hop]

theorem mem_of_operatorOf? (h : operatorOf? v.operators false w = some op) :
    op ∈ v.operators :=
  List.mem_of_find?_eq_some h

theorem name_of_operatorOf? (h : operatorOf? v.operators false w = some op) : op.name = w := by
  have hmatch := List.find?_some h
  simp only [Bool.and_eq_true, beq_iff_eq] at hmatch
  exact hmatch.2

theorem operatorOf?_like_binary (hv : v.Infix) (hop : op ∈ v.operators) :
    ∃ o, operatorOf? v.operators false op.name = some o ∧ o.Like op := by
  have hlike := operatorOf?_like hop
  rwa [hv op hop] at hlike

theorem isSome_operatorOf? (hv : v.Infix) (w : String) :
    (operatorOf? v.operators false w).isSome = decide (w ∈ v.names) := by
  rw [Bool.eq_iff_iff, Option.isSome_iff_exists, decide_eq_true_eq]
  constructor
  · rintro ⟨op, hfound⟩
    rw [← name_of_operatorOf? hfound]
    exact List.mem_map_of_mem (mem_of_operatorOf? hfound)
  · intro hw
    obtain ⟨op, hop, rfl⟩ := List.mem_map.1 hw
    obtain ⟨o, hfound, -⟩ := operatorOf?_like_binary hv hop
    exact ⟨o, hfound⟩

end

/-! ## Token by token -/

def readTokens (v : Vocabulary) (ts : List Token) : Option Outline :=
  (v.grammar.symbols ts).bind (parse v.operators)

def tokenStep (v : Vocabulary) (r : Reading) (t : Token) : Option Reading :=
  (v.symbol? t).bind (step v.operators r)

theorem bind_run_symbols (ts : List Token) (r : Reading) :
    (v.grammar.symbols ts).bind (run v.operators r) = ts.foldlM v.tokenStep r := by
  induction ts generalizing r with
  | nil => simp [grammar, run]
  | cons t rest ih =>
    rw [List.foldlM_cons, tokenStep]
    cases hs : v.symbol? t with
    | none => simp [grammar, List.mapM_cons, hs]
    | some s =>
      rw [symbols_cons hs, Option.bind_map]
      simp only [Function.comp_def, run, List.foldlM_cons, Option.bind_some]
      cases hstep : step v.operators r s with
      | none => simp
      | some r' => exact ih r'

theorem readTokens_eq (ts : List Token) :
    v.readTokens ts = (ts.foldlM v.tokenStep ⟨[], none⟩).bind finish := by
  rw [← bind_run_symbols, readTokens, Option.bind_assoc]
  rfl

/-! ## The parentheses of a tree -/

/-- How many pairs of parentheses a tree is written with between its neighbours. -/
def parens (v : Vocabulary) (e : Outline) (left right : Nat) : Nat :=
  match e with
  | .call name _ [a, b] =>
    match operatorOf? v.operators false name with
    | some op =>
      parens v a 0 op.leftPrec + parens v b op.rightPrec 0
        + if needsParens op.leftPrec op.rightPrec left right then 1 else 0
    | none => 0
  | _ => 0

theorem parens_call {name : String} {form : Form} {a b : Outline} {op : Operator}
    (h : operatorOf? v.operators false name = some op) (left right : Nat) :
    v.parens (.call name form [a, b]) left right =
      v.parens a 0 op.leftPrec + v.parens b op.rightPrec 0
        + if needsParens op.leftPrec op.rightPrec left right then 1 else 0 := by
  simp only [parens, h]

/-- Neighbours add at most one pair. -/
theorem parens_le_succ (e : Outline) (left right : Nat) :
    v.parens e left right ≤ v.parens e 0 0 + 1 := by
  unfold parens
  split
  · split
    · split <;> omega
    · omega
  · omega

/-! ## What is read so far -/

/-- Groups, and operators of the vocabulary, each of which keeps its left operand from what is
pending before it. -/
inductive Stacked (v : Vocabulary) : List Frame → Prop
  | nil : Stacked v []
  | group {rest : List Frame} : Stacked v rest → Stacked v (.inside .group :: rest)
  | infixed {left : Outline} {op : Operator} {rest : List Frame} :
    operatorOf? v.operators false op.name = some op → pending rest ≤ op.leftPrec →
    Stacked v rest → Stacked v (.infixed left op :: rest)

/-- The parentheses that are open, and those of the left operands. -/
def load (v : Vocabulary) : List Frame → Nat
  | [] => 0
  | .inside _ :: rest => load v rest + 1
  | .prefixed _ :: rest => load v rest
  | .infixed left op :: rest => load v rest + v.parens left 0 op.leftPrec

/-- A reading that has opened `k` parentheses. What is held is paid for between any
neighbours: it is a column, or it has been in parentheses. -/
inductive Paid (v : Vocabulary) (k : Nat) : Reading → Prop
  | due {stack : List Frame} : Stacked v stack → v.load stack ≤ k → Paid v k ⟨stack, none⟩
  | held {stack : List Frame} {e : Outline} : Stacked v stack →
    (∀ left right, v.load stack + v.parens e left right ≤ k) → Paid v k ⟨stack, some e⟩

/-- What `settle` leaves: an operand in front of an operator that binds it with `p`. -/
structure Settled (v : Vocabulary) (k p : Nat) (s : Outline × List Frame) : Prop where
  stacked : v.Stacked s.2
  pending : pending s.2 ≤ p
  paid : v.load s.2 + v.parens s.1 0 p ≤ k

/-- An operator that takes its right operand stands bare between what is pending and the next
operator. -/
theorem needsParens_of_pending {op : Operator} {outer p left right : Nat}
    (houter : outer ≤ op.leftPrec) (hp : p < op.rightPrec) (hl : left ≤ outer) (hr : right ≤ p) :
    needsParens op.leftPrec op.rightPrec left right = false := by
  simp only [needsParens, Bool.or_eq_false_iff, Bool.and_eq_false_iff, decide_eq_false_iff_not]
  omega

theorem settled {k p : Nat} {e : Outline} {stack : List Frame} (hs : v.Stacked stack)
    (he : ∀ left ≤ pending stack, ∀ right ≤ p, v.load stack + v.parens e left right ≤ k) :
    v.Settled k p (settle p e stack) := by
  induction hs generalizing e with
  | nil => exact ⟨.nil, Nat.zero_le _, he 0 (Nat.zero_le _) p (Nat.le_refl _)⟩
  | group hrest => exact ⟨.group hrest, Nat.zero_le _, he 0 (Nat.zero_le _) p (Nat.le_refl _)⟩
  | @infixed left op rest hop houter hrest ih =>
    by_cases hp : p < op.rightPrec
    · rw [settle_infixed hp]
      apply ih
      intro l hl r hr
      have hright := he op.rightPrec (Nat.le_refl _) 0 (Nat.zero_le _)
      rw [load] at hright
      rw [Operator.outline, parens_call hop, needsParens_of_pending houter hp hl hr]
      simp only [Bool.false_eq_true, if_false]
      omega
    · rw [settle_eq_self (Nat.le_of_not_lt hp)]
      exact ⟨.infixed hop houter hrest, Nat.le_of_not_lt hp,
        he 0 (Nat.zero_le _) p (Nat.le_refl _)⟩

/-- At the end of a text or of a group, one tree is left. -/
theorem settled_zero {k : Nat} {e : Outline} {stack : List Frame} (hs : v.Stacked stack)
    (he : ∀ left right, v.load stack + v.parens e left right ≤ k) :
    ∃ tree, settle 0 e stack = (tree, []) ∧ v.parens tree 0 0 ≤ k ∨
      ∃ rest, settle 0 e stack = (tree, .inside .group :: rest) ∧ v.Paid k ⟨rest, some tree⟩ := by
  obtain ⟨hrest, hpending, hpaid⟩ := settled (p := 0) hs fun left _ right _ => he left right
  generalize settle 0 e stack = s at hrest hpending hpaid ⊢
  obtain ⟨tree, stack'⟩ := s
  refine ⟨tree, ?_⟩
  cases hrest with
  | nil => exact .inl ⟨rfl, by simpa [load] using hpaid⟩
  | @group rest hrest =>
    refine .inr ⟨rest, rfl, .held hrest fun left right => ?_⟩
    have := v.parens_le_succ tree left right
    simp only [load] at hpaid
    omega
  | infixed hop =>
    have := rightPrec_pos (mem_of_operatorOf? hop)
    rw [pending] at hpending
    omega

/-! ## Steps -/

section

variable {stack : List Frame} {e : Outline}

theorem tokenStep_due_word (hv : v.Infix) (stack : List Frame) (w : String) :
    v.tokenStep ⟨stack, none⟩ (.word w) =
      if w ∈ v.names then none else some ⟨stack, some (.column w)⟩ := by
  by_cases hw : w ∈ v.names <;> simp [tokenStep, symbol?, hw, step, begin, operatorOf?_true hv]

theorem tokenStep_held_word (hv : v.Infix) (stack : List Frame) (e : Outline) (w : String) :
    v.tokenStep ⟨stack, some e⟩ (.word w) =
      (operatorOf? v.operators false w).map fun op =>
        follow op (settle op.leftPrec e stack) := by
  have hnames := isSome_operatorOf? hv w
  by_cases hw : w ∈ v.names
  · simp [tokenStep, symbol?, hw, step, proceed]
  · simp only [hw, decide_false, Option.isSome_eq_false_iff, Option.isNone_iff_eq_none] at hnames
    simp [tokenStep, symbol?, hw, step, proceed, hnames]

theorem tokenStep_held_closing (stack : List Frame) (e : Outline) :
    v.tokenStep ⟨stack, some e⟩ .closing = endOperand .close (settle 0 e stack) := rfl

theorem follow_binary (hv : v.Infix) {op : Operator} (hop : op ∈ v.operators)
    (s : Outline × List Frame) : follow op s = ⟨.infixed s.1 op :: s.2, none⟩ := by
  simp [follow, hv op hop]

theorem paid_tokenStep (hv : v.Infix) {k : Nat} {r r' : Reading} {t : Token} (hr : v.Paid k r)
    (h : v.tokenStep r t = some r') : v.Paid (k + [t].count .opening) r' := by
  cases hr with
  | @due stack hs hload =>
    cases t with
    | word w =>
      rw [tokenStep_due_word hv] at h
      split at h
      · cases h
      · cases h
        exact .held hs fun left right => by simpa [parens] using hload
    | opening =>
      cases h
      exact .due (.group hs) (by simpa [load] using hload)
    | closing | quoted | call | comma => cases h
  | @held stack e hs he =>
    cases t with
    | word w =>
      rw [tokenStep_held_word hv] at h
      obtain ⟨op, hop, rfl⟩ := Option.map_eq_some_iff.1 h
      obtain ⟨hrest, hpending, hpaid⟩ :=
        settled (p := op.leftPrec) hs fun left _ right _ => he left right
      rw [follow_binary hv (mem_of_operatorOf? hop)]
      rw [← name_of_operatorOf? hop] at hop
      exact .due (.infixed hop hpending hrest) (by simpa [load] using hpaid)
    | closing =>
      rw [tokenStep_held_closing] at h
      obtain ⟨tree, ⟨hset, -⟩ | ⟨rest, hset, hpaid⟩⟩ := settled_zero hs he
      · rw [hset] at h
        cases h
      · rw [hset] at h
        cases h
        simpa using hpaid
    | opening | quoted | call | comma => cases h

theorem paid_foldlM (hv : v.Infix) {k : Nat} {r r' : Reading} {ts : List Token} (hr : v.Paid k r)
    (h : ts.foldlM v.tokenStep r = some r') : v.Paid (k + ts.count .opening) r' := by
  induction ts generalizing k r with
  | nil =>
    cases h
    exact hr
  | cons t rest ih =>
    rw [List.foldlM_cons] at h
    obtain ⟨next, hnext, hrest⟩ := Option.bind_eq_some_iff.1 h
    have hpaid := ih (paid_tokenStep hv hr hnext) hrest
    rw [Nat.add_assoc, ← List.count_append, List.singleton_append] at hpaid
    exact hpaid

theorem Paid.parens_le {k : Nat} {r : Reading} (hr : v.Paid k r) (h : finish r = some e) :
    v.parens e 0 0 ≤ k := by
  cases hr with
  | due => cases h
  | @held stack held hs he =>
    obtain ⟨tree, ⟨hset, hle⟩ | ⟨rest, hset, -⟩⟩ := settled_zero hs he
    · rw [finish, Option.map_some, hset] at h
      cases h
      exact hle
    · rw [finish, Option.map_some, hset] at h
      cases h

/-- Tokens that are read as a tree open the parentheses of the tree. -/
theorem parens_le_of_readTokens (hv : v.Infix) {ts : List Token}
    (h : v.readTokens ts = some e) : v.parens e 0 0 ≤ ts.count .opening := by
  rw [readTokens_eq] at h
  obtain ⟨r, hrun, hfinish⟩ := Option.bind_eq_some_iff.1 h
  have hpaid := paid_foldlM hv (.due .nil (Nat.le_refl 0)) hrun
  rw [Nat.zero_add] at hpaid
  exact hpaid.parens_le hfinish

end

end RowExpr.Sql.Vocabulary
