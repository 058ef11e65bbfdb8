import RowExpr.Proofs.Node.Everywhere
import RowExpr.Proofs.Sql.Context

/-!
# Raised precedences

When all precedences of an expression are raised by one number, the text stays the same, unless
a neighbour of strength zero counts as none. On the left that makes no difference. On the right
it does behind an operator that itself binds with strength zero there: such a neighbour does not
ask for parentheses before it is raised. So raising changes a text exactly where an operator of
right strength zero stands in front of a neighbour of strength zero (`text_raised_eq_iff`).
-/

namespace RowExpr

def Operator.raised (k : Nat) (op : Operator) : Operator :=
  { op with precedence := op.precedence + UInt32.ofNat k }

/-- The dialect does not replace the operator, and its precedence can be raised. -/
structure Operator.Raisable (d : Dialect) (k : Nat) (op : Operator) : Prop where
  kept : d.overrideOf? op.id = none
  bounded : op.precedence.toNat + k < 2147483648

namespace Node

mutual

/-- The same expression with every precedence raised. -/
def raised (k : Nat) : Node → Node
  | call op operands type => call (op.raised k) (raisedAll k operands) type
  | literal v type => literal v type
  | input index name type => input index name type

def raisedAll (k : Nat) : List Node → List Node
  | [] => []
  | n :: rest => raised k n :: raisedAll k rest

end

/-- Function calls, and operators with the operands that their form asks for, over any leaves. A
trim of three operands is no function call: it is written in a way of its own. -/
inductive Raisable (d : Dialect) (k : Nat) : Node → Prop
  | literal (v : Value) (type : SqlType) : Raisable d k (literal v type)
  | input (index : UInt64) (name : Option String) (type : SqlType) :
    Raisable d k (input index name type)
  | function {op : Operator} {ns : List Node} (type : SqlType) :
    op.Raisable d k → op.form = .function → (op.kind = .trim → ns.length ≠ 3) →
    (∀ n ∈ ns, Raisable d k n) → Raisable d k (call op ns type)
  | between {op : Operator} {a b : Node} (type : SqlType) :
    op.Raisable d k → op.form = .binary → Raisable d k a → Raisable d k b →
    Raisable d k (call op [a, b] type)
  | before {op : Operator} {a : Node} (type : SqlType) :
    op.Raisable d k → op.form = .prefixOp → Raisable d k a → Raisable d k (call op [a] type)
  | behind {op : Operator} {a : Node} (type : SqlType) :
    op.Raisable d k → op.form = .postfixOp → Raisable d k a → Raisable d k (call op [a] type)

/-- Behind a neighbour of strength `left`, the expression ends outside of parentheses in a call
of an operator of right strength zero. -/
inductive EndsLoose : Nat → Node → Prop
  | here {left : Nat} {op : Operator} {operands : List Node} {type : SqlType} :
    Sql.isSign op = true → left ≤ op.leftPrec → op.rightPrec = 0 →
    EndsLoose left (call op operands type)
  | last {left : Nat} {op : Operator} {a b : Node} {type : SqlType} :
    op.form = .binary → left ≤ op.leftPrec → EndsLoose op.rightPrec b →
    EndsLoose left (call op [a, b] type)

/-- No operand that ends in such a call stands in front of strength zero. -/
def Tight : Node → Prop
  | call op [a, _] _ => op.form = .binary → op.leftPrec = 0 → ¬ a.EndsLoose 0
  | call op [a] _ =>
    (op.form = .prefixOp → op.rightPrec = 0 → ¬ a.EndsLoose op.leftPrec) ∧
      (op.form = .postfixOp → op.leftPrec = 0 → ¬ a.EndsLoose 0)
  | _ => True

theorem raisedAll_eq_map (k : Nat) (ns : List Node) : raisedAll k ns = ns.map (raised k) := by
  induction ns with
  | nil => rfl
  | cons n rest ih => simp [raisedAll, ih]

mutual

theorem raised_zero (n : Node) : raised 0 n = n := by
  cases n with
  | literal | input => rfl
  | call op ns type =>
    have hop : op.raised 0 = op := by simp [Operator.raised]
    rw [raised, hop, raisedAll_zero ns]

theorem raisedAll_zero (ns : List Node) : raisedAll 0 ns = ns := by
  cases ns with
  | nil => rfl
  | cons n rest => rw [raisedAll, raised_zero n, raisedAll_zero rest]

end

end Node

namespace Sql

/-! ## Strengths -/

section

variable {k : Nat} {op : Operator}

theorem precedence_raised (h : op.precedence.toNat + k < 2147483648) :
    (op.raised k).precedence.toNat = op.precedence.toNat + k := by
  rw [Operator.raised, UInt32.toNat_add, UInt32.toNat_ofNat']
  omega

theorem leftPrec_raised (h : op.precedence.toNat + k < 2147483648) :
    (op.raised k).leftPrec = op.leftPrec + 2 * k := by
  show 2 * (op.raised k).precedence.toNat + (if op.leftAssoc then 0 else 1) = _
  rw [precedence_raised h, Operator.leftPrec]
  omega

theorem rightPrec_raised (h : op.precedence.toNat + k < 2147483648) :
    (op.raised k).rightPrec = op.rightPrec + 2 * k := by
  show 2 * (op.raised k).precedence.toNat + (if op.leftAssoc then 1 else 0) = _
  rw [precedence_raised h, Operator.rightPrec]
  omega

/-- No neighbour, or one whose strength is raised. -/
def Lifted (k s s' : Nat) : Prop := s = 0 ∧ s' = 0 ∨ s' = s + 2 * k

/-- Raised strengths ask for the same parentheses, and for those in front of a neighbour that
did not count before. -/
theorem needsParens_raised (h : op.precedence.toNat + k < 2147483648) {l l' r r' : Nat}
    (hl : Lifted k l l') (hr : Lifted k r r') :
    needsParens (op.raised k).leftPrec (op.raised k).rightPrec l' r' =
      (needsParens op.leftPrec op.rightPrec l r ||
        decide (r = 0 ∧ r' ≠ 0 ∧ op.rightPrec = 0)) := by
  rw [leftPrec_raised h, rightPrec_raised h, Bool.eq_iff_iff]
  unfold Lifted at hl hr
  simp only [needsParens, Bool.or_eq_true, Bool.and_eq_true, decide_eq_true_eq]
  omega

end

theorem raisable_operator {d : Dialect} {k : Nat} {op : Operator} (hop : op.Raisable d k) :
    (op.raised k).Raisable d 0 :=
  ⟨hop.kept, by rw [precedence_raised hop.bounded]; exact hop.bounded⟩

/-! ## Steps with more parentheses -/

/-- How many parentheses a step opens, those in its word included. -/
def Step.opens (s : Step) : Nat := (s.chars false).count '('

def opens : List Step → Nat
  | [] => 0
  | s :: rest => s.opens + opens rest

theorem opens_append (as bs : List Step) : opens (as ++ bs) = opens as + opens bs := by
  induction as with
  | nil => simp [opens]
  | cons s rest ih => rw [List.cons_append, opens, ih, opens, Nat.add_assoc]

theorem count_layoutFrom (spaced : Bool) (steps : List Step) :
    (layoutFrom spaced steps).count '(' = opens steps := by
  induction steps generalizing spaced with
  | nil => rfl
  | cons s rest ih =>
    have hspace : (s.chars spaced).count '(' = s.opens := by
      cases s <;> cases spaced <;> simp [Step.opens, Step.chars]
    rw [layoutFrom, List.count_append, ih, hspace, opens]

/-- The same steps if `p` holds, and otherwise steps that open more parentheses. -/
structure Grows (p : Prop) (as bs : List Step) : Prop where
  same : p → as = bs
  more : ¬ p → opens as < opens bs

namespace Grows

variable {p q : Prop} {as bs cs ds : List Step}

theorem refl (as : List Step) : Grows True as as := ⟨fun _ => rfl, fun h => absurd trivial h⟩

theorem of_iff (h : Grows p as bs) (hpq : p ↔ q) : Grows q as bs :=
  ⟨fun hq => h.same (hpq.2 hq), fun hq => h.more (mt hpq.1 hq)⟩

theorem opens_le (h : Grows p as bs) : opens as ≤ opens bs := by
  by_cases hp : p
  · exact Nat.le_of_eq (congrArg opens (h.same hp))
  · exact Nat.le_of_lt (h.more hp)

theorem append (h : Grows p as bs) (h' : Grows q cs ds) : Grows (p ∧ q) (as ++ cs) (bs ++ ds) where
  same hpq := by rw [h.same hpq.1, h'.same hpq.2]
  more hpq := by
    rw [opens_append, opens_append]
    have := h.opens_le
    have := h'.opens_le
    by_cases hp : p
    · have := h'.more fun hq => hpq ⟨hp, hq⟩
      omega
    · have := h.more hp
      omega

theorem cons (s : Step) (h : Grows p as bs) : Grows p (s :: as) (s :: bs) :=
  ((refl [s]).append h).of_iff (by simp)

theorem layout_eq_iff (h : Grows p as bs) : layout bs = layout as ↔ p := by
  constructor
  · intro heq
    by_contra hp
    have hcount := congrArg (fun s => s.toList.count '(') heq
    simp only [layout, String.toList_ofList, count_layoutFrom] at hcount
    exact absurd (h.more hp) (by omega)
  · intro hp
    rw [h.same hp]

theorem intercalate {α : Type} {p : α → Prop} {f g : α → List Step} {xs : List α}
    (h : ∀ x ∈ xs, Grows (p x) (f x) (g x)) :
    Grows (∀ x ∈ xs, p x) ([Step.comma].intercalate (xs.map f))
      ([Step.comma].intercalate (xs.map g)) := by
  induction xs with
  | nil => exact (refl []).of_iff (by simp)
  | cons x rest ih =>
    obtain ⟨hx, hrest⟩ := List.forall_mem_cons.1 h
    cases rest with
    | nil => exact (by simpa [List.intercalate] using hx : Grows (p x) _ _).of_iff (by simp)
    | cons y rest =>
      simp only [List.map_cons, List.intercalate_cons_cons]
      refine ((hx.append (refl [.comma])).append (ih hrest)).of_iff ?_
      simp

end Grows

/-! ## Calls -/

/-- A neighbour on the left makes no difference beside one on the right that binds as strongly. -/
def LeftFree (a : Fragment) : Prop := ∀ left right, left ≤ right → a left right = a 0 right

section

variable {op : Operator} {a b : Fragment}

theorem leftFree_wrap (op : Operator) (body : Nat → List Step) :
    LeftFree (wrap op.leftPrec op.rightPrec fun _ right => body right) := by
  intro left right h
  rw [wrap, wrap, needsParens_leftOperand h]

/-- What is between an operator's operands hands its left neighbour on to the first of them, which
does not depend on it. -/
theorem wrap_between_of_leftFree (ha : LeftFree a) :
    wrap op.leftPrec op.rightPrec (between op [a, b]) =
      wrap op.leftPrec op.rightPrec
        fun _ right => a 0 op.leftPrec ++ .word op.name :: b op.rightPrec right := by
  apply wrap_congr
  intro left right hbare
  show a left op.leftPrec ++ .word op.name :: b op.rightPrec right = _
  rw [ha left op.leftPrec hbare.left]

theorem wrap_behind_of_leftFree (ha : LeftFree a) :
    wrap op.leftPrec op.rightPrec (behind op [a]) =
      wrap op.leftPrec op.rightPrec fun _ _ => a 0 op.leftPrec ++ [.word op.name] := by
  apply wrap_congr
  intro left right hbare
  rw [behind, List.flatMap_singleton, ha left op.leftPrec hbare.left]

end

section

variable {k : Nat} {op : Operator}

/-- Where the body ends loosely if `e` holds, the call does if it is not in parentheses and the
body or the operator itself does. -/
theorem grows_wrap (hop : op.precedence.toNat + k < 2147483648) {t e : Prop}
    {body body' : Nat → List Step}
    (hbody : ∀ s s', Lifted k s s' → Grows (t ∧ (s = 0 → s' ≠ 0 → ¬ e)) (body s) (body' s'))
    {l l' r r' : Nat} (hl : Lifted k l l') (hr : Lifted k r r') :
    Grows (t ∧ (r = 0 → r' ≠ 0 → ¬ (l ≤ op.leftPrec ∧ (op.rightPrec = 0 ∨ e))))
      (wrap op.leftPrec op.rightPrec (fun _ right => body right) l r)
      (wrap (op.raised k).leftPrec (op.raised k).rightPrec (fun _ right => body' right) l' r') := by
  have hzero : Grows t (body 0) (body' 0) :=
    (hbody 0 0 (.inl ⟨rfl, rfl⟩)).of_iff ⟨And.left, fun ht => ⟨ht, fun _ h => absurd rfl h⟩⟩
  rw [wrap, wrap, needsParens_raised hop hl hr]
  by_cases hneeds : needsParens op.leftPrec op.rightPrec l r = true
  · have hend : r = 0 → ¬ l ≤ op.leftPrec := by
      rintro rfl
      simpa [needsParens] using hneeds
    rw [hneeds, Bool.true_or, if_pos rfl, if_pos rfl]
    refine ((hzero.cons .paren).append (.refl [.close])).of_iff ⟨fun h => ?_, fun h => ⟨h.1, trivial⟩⟩
    exact ⟨h.1, fun h0 _ hloose => hend h0 hloose.1⟩
  · rw [Bool.not_eq_true] at hneeds
    have hleft : l ≤ op.leftPrec := (bare_of_not_needsParens hneeds).left
    rw [hneeds, Bool.false_or, if_neg Bool.false_ne_true]
    by_cases hhidden : r = 0 ∧ r' ≠ 0 ∧ op.rightPrec = 0
    · -- The neighbour counts only once it is raised.
      rw [if_pos (decide_eq_true hhidden)]
      obtain ⟨rfl, hr0, hop0⟩ := hhidden
      refine ⟨fun h => absurd ⟨hleft, .inl hop0⟩ (h.2 rfl hr0), fun _ => ?_⟩
      have hparens : opens (.paren :: body' 0 ++ [.close]) = opens (body' 0) + 1 := by
        rw [List.cons_append, opens, opens_append]
        show 1 + (_ + 0) = _
        omega
      have := hzero.opens_le
      omega
    · rw [if_neg (by simpa using hhidden)]
      refine (hbody r r' hr).of_iff (and_congr_right fun _ => ?_)
      constructor
      · rintro h hr0 hr0' ⟨-, hop0 | he⟩
        · exact hhidden ⟨hr0, hr0', hop0⟩
        · exact h hr0 hr0' he
      · exact fun h hr0 hr0' he => h hr0 hr0' ⟨hleft, .inr he⟩

end

/-! ## Expressions -/

section

variable {d : Dialect} {k : Nat} {op : Operator}

theorem render_between (hop : d.overrideOf? op.id = none) (hform : op.form = .binary)
    (a b : Node) (type : SqlType) :
    render d (.call op [a, b] type) =
      wrap op.leftPrec op.rightPrec (between op [render d a, render d b]) := by
  rw [render_eq_byForm hop (by simp) (by simp [hform]), byForm_binary _ hform]
  rfl

theorem render_before (hop : d.overrideOf? op.id = none) (hform : op.form = .prefixOp)
    (a : Node) (type : SqlType) :
    render d (.call op [a] type) =
      wrap op.leftPrec op.rightPrec
        fun _ _ => .word op.name :: render d a op.leftPrec op.rightPrec := by
  rw [render_eq_byForm hop (by simp) (by simp [hform]), byForm_prefixOp _ hform]
  simp [before]

theorem render_behind (hop : d.overrideOf? op.id = none) (hform : op.form = .postfixOp)
    (a : Node) (type : SqlType) :
    render d (.call op [a] type) = wrap op.leftPrec op.rightPrec (behind op [render d a]) := by
  rw [render_eq_byForm hop (by simp) (by simp [hform]), byForm_postfixOp _ hform]
  rfl

theorem render_function (hop : d.overrideOf? op.id = none) (hform : op.form = .function)
    {ns : List Node} (htrim : op.kind = .trim → ns.length ≠ 3) (type : SqlType) :
    render d (.call op ns type) = fun _ _ => function op.name (ns.map (render d)) := by
  rw [render_eq_byForm hop htrim (by simp [hform]), byForm_function _ hform]

theorem leftFree_render {n : Node} (hn : n.Raisable d k) : LeftFree (render d n) := by
  induction hn with
  | literal | input => exact fun _ _ _ => rfl
  | function type hop hform htrim =>
    rw [render_function hop.kept hform htrim]
    exact fun _ _ _ => rfl
  | between type hop hform _ _ iha =>
    rw [render_between hop.kept hform, wrap_between_of_leftFree iha]
    exact leftFree_wrap _ _
  | before type hop hform =>
    rw [render_before hop.kept hform]
    exact leftFree_wrap _ fun _ => _
  | behind type hop hform _ iha =>
    rw [render_behind hop.kept hform, wrap_behind_of_leftFree iha]
    exact leftFree_wrap _ fun _ => _

theorem endsLoose_between_iff (hform : op.form = .binary) {a b : Node} {type : SqlType}
    {left : Nat} : (Node.call op [a, b] type).EndsLoose left ↔
      left ≤ op.leftPrec ∧ (op.rightPrec = 0 ∨ b.EndsLoose op.rightPrec) := by
  constructor
  · rintro (⟨-, hleft, hright⟩ | ⟨-, hleft, hb⟩)
    · exact ⟨hleft, .inl hright⟩
    · exact ⟨hleft, .inr hb⟩
  · rintro ⟨hleft, hright | hb⟩
    · exact .here (by simp [isSign, hform]) hleft hright
    · exact .last hform hleft hb

theorem everywhere_tight_between_iff (hform : op.form = .binary) {a b : Node} {type : SqlType} :
    (Node.call op [a, b] type).Everywhere Node.Tight ↔
      (op.leftPrec = 0 → ¬ a.EndsLoose 0) ∧ a.Everywhere Node.Tight ∧
        b.Everywhere Node.Tight := by
  have htight : (Node.call op [a, b] type).Tight ↔ (op.leftPrec = 0 → ¬ a.EndsLoose 0) :=
    ⟨fun h => h hform, fun h _ => h⟩
  rw [Node.everywhere_call, htight, List.forall_mem_cons, List.forall_mem_singleton]

theorem endsLoose_single_iff (hsign : isSign op = true) {a : Node} {type : SqlType}
    {left : Nat} : (Node.call op [a] type).EndsLoose left ↔
      left ≤ op.leftPrec ∧ (op.rightPrec = 0 ∨ False) := by
  rw [or_false]
  constructor
  · rintro ⟨-, hleft, hright⟩
    exact ⟨hleft, hright⟩
  · exact fun ⟨hleft, hright⟩ => .here hsign hleft hright

theorem raisable_raised {n : Node} (hn : n.Raisable d k) : (n.raised k).Raisable d 0 := by
  induction hn with
  | literal v type => exact .literal v type
  | input index name type => exact .input index name type
  | function type hop hform htrim _ ih =>
    rw [Node.raised, Node.raisedAll_eq_map]
    refine .function type (raisable_operator hop) hform (fun hkind => ?_) (List.forall_mem_map.2 ih)
    rw [List.length_map]
    exact htrim hkind
  | between type hop hform _ _ iha ihb => exact .between type (raisable_operator hop) hform iha ihb
  | before type hop hform _ iha => exact .before type (raisable_operator hop) hform iha
  | behind type hop hform _ iha => exact .behind type (raisable_operator hop) hform iha

/-- What is written for a raised expression between raised neighbours grows, unless the expression
is tight and does not end loosely in front of a neighbour that counts only now. -/
def Rises (d : Dialect) (k : Nat) (n : Node) : Prop :=
  ∀ l l' r r', Lifted k l l' → Lifted k r r' →
    Grows (n.Everywhere Node.Tight ∧ (r = 0 → r' ≠ 0 → ¬ n.EndsLoose l))
      (render d n l r) (render d (n.raised k) l' r')

/-- Alone, an expression has no neighbour that could count. -/
theorem Rises.alone {n : Node} (h : Rises d k n) :
    Grows (n.Everywhere Node.Tight) (render d n 0 0) (render d (n.raised k) 0 0) :=
  (h 0 0 0 0 (.inl ⟨rfl, rfl⟩) (.inl ⟨rfl, rfl⟩)).of_iff
    ⟨And.left, fun h => ⟨h, fun _ h0 => absurd rfl h0⟩⟩

theorem rises_function (hop : op.Raisable d k) (hform : op.form = .function) {ns : List Node}
    (htrim : op.kind = .trim → ns.length ≠ 3) (type : SqlType) (hns : ∀ n ∈ ns, Rises d k n) :
    Rises d k (.call op ns type) := by
  intro l l' r r' _ _
  have htrim' : (op.raised k).kind = .trim → (ns.map (Node.raised k)).length ≠ 3 := by
    rw [List.length_map]
    exact htrim
  rw [Node.raised, Node.raisedAll_eq_map, render_function hop.kept hform htrim,
    render_function (raisable_operator hop).kept hform htrim', function, function,
    List.map_map, List.map_map, List.map_map]
  have harguments := Grows.intercalate fun n hn => (hns n hn).alone
  refine ((harguments.cons (.call op.name)).append (.refl [.close])).of_iff ?_
  have htight : (Node.call op ns type).Tight := by
    unfold Node.Tight
    split <;> simp_all
  have hend : ¬ (Node.call op ns type).EndsLoose l := by
    rintro (⟨hsign, -, -⟩ | ⟨hbinary, -, -⟩)
    · simp [isSign, hform] at hsign
    · simp [hform] at hbinary
  simp [htight, hend]

theorem rises_between (hk : k ≠ 0) (hop : op.Raisable d k) (hform : op.form = .binary)
    {a b : Node} (ha : a.Raisable d k) (type : SqlType) (hra : Rises d k a) (hrb : Rises d k b) :
    Rises d k (.call op [a, b] type) := by
  intro l l' r r' hl hr
  have hraised : (Node.call op [a, b] type).raised k =
      .call (op.raised k) [a.raised k, b.raised k] type := rfl
  rw [hraised, render_between hop.kept hform, render_between (raisable_operator hop).kept hform,
    wrap_between_of_leftFree (leftFree_render ha),
    wrap_between_of_leftFree (leftFree_render (raisable_raised ha))]
  have hleft := leftPrec_raised hop.bounded
  have hright := rightPrec_raised hop.bounded
  have hpos : (op.raised k).leftPrec ≠ 0 := by omega
  have hbody : ∀ s s', Lifted k s s' →
      Grows (((a.Everywhere Node.Tight ∧ (op.leftPrec = 0 → ¬ a.EndsLoose 0)) ∧
          b.Everywhere Node.Tight) ∧ (s = 0 → s' ≠ 0 → ¬ b.EndsLoose op.rightPrec))
        (render d a 0 op.leftPrec ++ .word op.name :: render d b op.rightPrec s)
        (render d (a.raised k) 0 (op.raised k).leftPrec ++
          .word op.name :: render d (b.raised k) (op.raised k).rightPrec s') := by
    intro s s' hs
    have hfirst := hra 0 0 _ _ (.inl ⟨rfl, rfl⟩) (.inr hleft)
    have hlast := hrb _ _ s s' (.inr hright) hs
    refine (hfirst.append (hlast.cons (.word op.name))).of_iff ?_
    simp [hpos, and_assoc]
  refine (grows_wrap hop.bounded hbody hl hr).of_iff ?_
  rw [endsLoose_between_iff hform, everywhere_tight_between_iff hform]
  tauto

theorem rises_before (hk : k ≠ 0) (hop : op.Raisable d k) (hform : op.form = .prefixOp)
    {a : Node} (type : SqlType) (hra : Rises d k a) : Rises d k (.call op [a] type) := by
  intro l l' r r' hl hr
  have hraised : (Node.call op [a] type).raised k = .call (op.raised k) [a.raised k] type := rfl
  rw [hraised, render_before hop.kept hform, render_before (raisable_operator hop).kept hform]
  have hleft := leftPrec_raised hop.bounded
  have hright := rightPrec_raised hop.bounded
  have hpos : (op.raised k).rightPrec ≠ 0 := by omega
  have hbody : ∀ s s', Lifted k s s' →
      Grows ((a.Everywhere Node.Tight ∧ (op.rightPrec = 0 → ¬ a.EndsLoose op.leftPrec)) ∧
          (s = 0 → s' ≠ 0 → ¬ False))
        (.word op.name :: render d a op.leftPrec op.rightPrec)
        (.word op.name :: render d (a.raised k) (op.raised k).leftPrec (op.raised k).rightPrec) := by
    intro s s' _
    refine ((hra _ _ _ _ (.inr hleft) (.inr hright)).cons (.word op.name)).of_iff ?_
    simp [hpos]
  refine (grows_wrap hop.bounded hbody hl hr).of_iff ?_
  have htight : (Node.call op [a] type).Tight ↔
      (op.rightPrec = 0 → ¬ a.EndsLoose op.leftPrec) := by
    simp [Node.Tight, hform]
  rw [endsLoose_single_iff (by simp [isSign, hform]), Node.everywhere_call, htight,
    List.forall_mem_singleton]
  tauto

theorem rises_behind (hk : k ≠ 0) (hop : op.Raisable d k) (hform : op.form = .postfixOp)
    {a : Node} (ha : a.Raisable d k) (type : SqlType) (hra : Rises d k a) :
    Rises d k (.call op [a] type) := by
  intro l l' r r' hl hr
  have hraised : (Node.call op [a] type).raised k = .call (op.raised k) [a.raised k] type := rfl
  rw [hraised, render_behind hop.kept hform, render_behind (raisable_operator hop).kept hform,
    wrap_behind_of_leftFree (leftFree_render ha),
    wrap_behind_of_leftFree (leftFree_render (raisable_raised ha))]
  have hleft := leftPrec_raised hop.bounded
  have hpos : (op.raised k).leftPrec ≠ 0 := by omega
  have hbody : ∀ s s', Lifted k s s' →
      Grows ((a.Everywhere Node.Tight ∧ (op.leftPrec = 0 → ¬ a.EndsLoose 0)) ∧
          (s = 0 → s' ≠ 0 → ¬ False))
        (render d a 0 op.leftPrec ++ [.word op.name])
        (render d (a.raised k) 0 (op.raised k).leftPrec ++ [.word op.name]) := by
    intro s s' _
    refine ((hra 0 0 _ _ (.inl ⟨rfl, rfl⟩) (.inr hleft)).append (.refl _)).of_iff ?_
    simp [hpos]
  refine (grows_wrap hop.bounded hbody hl hr).of_iff ?_
  have htight : (Node.call op [a] type).Tight ↔ (op.leftPrec = 0 → ¬ a.EndsLoose 0) := by
    simp [Node.Tight, hform]
  rw [endsLoose_single_iff (by simp [isSign, hform]), Node.everywhere_call, htight,
    List.forall_mem_singleton]
  tauto

theorem rises_of_raisable (hk : k ≠ 0) {n : Node} (hn : n.Raisable d k) : Rises d k n := by
  induction hn with
  | literal | input =>
    refine fun l l' r r' _ _ => (Grows.refl _).of_iff ?_
    exact iff_of_true trivial ⟨by simp [Node.Tight], fun _ _ => nofun⟩
  | function type hop hform htrim _ ih => exact rises_function hop hform htrim type ih
  | between type hop hform ha _ iha ihb => exact rises_between hk hop hform ha type iha ihb
  | before type hop hform _ iha => exact rises_before hk hop hform type iha
  | behind type hop hform ha iha => exact rises_behind hk hop hform ha type iha

/-- Raising all precedences of an expression by `k` leaves its text as it is, just if `k` is zero
or nowhere in it an operand ends loosely in front of strength zero. -/
theorem text_raised_eq_iff {n : Node} (hn : n.Raisable d k) :
    text d (n.raised k) 0 0 = text d n 0 0 ↔ k = 0 ∨ n.Everywhere Node.Tight := by
  by_cases hk : k = 0
  · subst hk
    simp [Node.raised_zero]
  · rw [text, text, (rises_of_raisable hk hn).alone.layout_eq_iff]
    simp [hk]

end

namespace Implication

def xor : Operator := { id := "XOR", name := "XOR", kind := .other, form := .binary }

/-- Groups to the right. -/
def implies : Operator := { xor with id := "IMPLIES", name := "=>", leftAssoc := false }

def known : Operator := { id := "KNOWN", name := "KNOWN", kind := .other }

def column (name : String) : Node := .column 0 name (.orNull .boolean)

def call (op : Operator) (operands : List Node) : Node := .call op operands (.orNull .boolean)

/-- Nothing stands behind the implications. -/
def chain : Node :=
  call implies [call xor [call xor [column "a", column "b"], column "c"],
    call implies [call known [call implies [column "d", column "e"]], column "f"]]

/-- An implication in front of an operator of strength zero. -/
def first : Node := call xor [call implies [column "a", column "b"], column "c"]

theorem raisable_operators (k : Nat) (hk : k < 2147483648) :
    ∀ op ∈ [xor, implies, known], op.Raisable Dialect.ansi k := by
  simp only [List.forall_mem_cons]
  refine ⟨⟨rfl, ?_⟩, ⟨rfl, ?_⟩, ⟨rfl, ?_⟩, List.forall_mem_nil _⟩
  all_goals
    show 0 + k < _
    omega

theorem raisable_chain : chain.Raisable Dialect.ansi 7 := by
  have hops := raisable_operators 7 (by decide)
  have hxor := hops xor (by simp)
  have himplies := hops implies (by simp)
  have hcolumn : ∀ name, (column name).Raisable Dialect.ansi 7 := fun _ => .input _ _ _
  have hknown : (call known [call implies [column "d", column "e"]]).Raisable Dialect.ansi 7 :=
    .function _ (hops known (by simp)) rfl (by decide)
      (List.forall_mem_singleton.2 (.between _ himplies rfl (hcolumn _) (hcolumn _)))
  exact .between _ himplies rfl
    (.between _ hxor rfl (.between _ hxor rfl (hcolumn _) (hcolumn _)) (hcolumn _))
    (.between _ himplies rfl hknown (hcolumn _))

theorem tight_chain : chain.Everywhere Node.Tight := by
  have hcolumn : ∀ name, (column name).Everywhere Node.Tight := by
    simp [column, Node.column, Node.Tight]
  have hloose : ∀ name left, ¬ (column name).EndsLoose left := by
    intro name left h
    cases h
  have himplies : implies.leftPrec = 0 → ∀ n : Node, ¬ n.EndsLoose 0 := fun h => absurd h (by decide)
  have hxor : ¬ (call xor [column "a", column "b"]).EndsLoose 0 := by
    rw [call, endsLoose_between_iff rfl]
    rintro ⟨-, h | h⟩
    · exact absurd h (by decide)
    · exact hloose _ _ h
  have hknown : (call known [call implies [column "d", column "e"]]).Everywhere Node.Tight := by
    rw [call, Node.everywhere_call, List.forall_mem_singleton]
    have htight : (call known [call implies [column "d", column "e"]]).Tight := by
      constructor <;> intro h <;> cases h
    exact ⟨htight, (everywhere_tight_between_iff rfl).2 ⟨fun h => himplies h _, hcolumn _, hcolumn _⟩⟩
  refine (everywhere_tight_between_iff rfl).2 ⟨fun h => himplies h _, ?_, ?_⟩
  · exact (everywhere_tight_between_iff rfl).2 ⟨fun _ => hxor, (everywhere_tight_between_iff rfl).2
      ⟨fun _ => hloose _ _, hcolumn _, hcolumn _⟩, hcolumn _⟩
  · exact (everywhere_tight_between_iff rfl).2 ⟨fun h => himplies h _, hknown, hcolumn _⟩

theorem text_of_chain :
    (chain.Raisable Dialect.ansi 7 ∧ chain.Everywhere Node.Tight) ∧
      text Dialect.ansi (chain.raised 7) 0 0 = text Dialect.ansi chain 0 0 :=
  ⟨⟨raisable_chain, tight_chain⟩, (text_raised_eq_iff raisable_chain).2 (.inr tight_chain)⟩

theorem parens_lost_of_first :
    first.Raisable Dialect.ansi 1 ∧
      text Dialect.ansi (first.raised 1) 0 0 = "(a => b) XOR c" ∧
      text Dialect.ansi first 0 0 = "a => b XOR c" := by
  have hops := raisable_operators 1 (by decide)
  refine ⟨.between _ (hops xor (by simp)) rfl ?_ (.input _ _ _), by decide, by decide⟩
  exact .between _ (hops implies (by simp)) rfl (.input _ _ _) (.input _ _ _)

end Implication

end Sql

end RowExpr
