import RowExpr.Proofs.Node.Everywhere
import RowExpr.Proofs.Sql.CatalogReading

/-!
# What neighbours decide

A call hands its neighbours on to its first and its last operand, and these hand them on in turn.
Still they only decide whether the whole is in parentheses (`text_eq_or_enclosed`), as long as
operators of one precedence group to one side: what a neighbour could ask of an operand, the
call has asked already.
-/

namespace RowExpr.Sql

/-- No two operators of one precedence group to different sides. -/
def Unmixed (ops : List Operator) : Prop :=
  ∀ a ∈ ops, ∀ b ∈ ops, a.precedence = b.precedence → a.leftAssoc = b.leftAssoc

instance (ops : List Operator) : Decidable (Unmixed ops) := by
  unfold Unmixed
  infer_instance

/-- A fragment that its neighbours can only put in parentheses. -/
inductive Steady (ops : List Operator) : Fragment → Prop
  | fixed (steps : List Step) : Steady ops fun _ _ => steps
  | wrapped {op : Operator} (steps : List Step) :
    op ∈ ops → Steady ops (wrap op.leftPrec op.rightPrec fun _ _ => steps)

section

variable {ops : List Operator} {op p : Operator}

/-! ## Operands -/

theorem needsParens_leftOperand {left strength : Nat} (h : left ≤ strength) :
    needsParens op.leftPrec op.rightPrec left strength =
      needsParens op.leftPrec op.rightPrec 0 strength := by
  have := rightPrec_le_leftPrec_succ op
  rw [Bool.eq_iff_iff]
  simp only [needsParens, Bool.or_eq_true, Bool.and_eq_true, decide_eq_true_eq]
  omega

/-- An operator that a neighbour behind `p` puts in parentheses has them because of `p`. -/
theorem leftPrec_lt_of_rightPrec_le (hops : Unmixed ops) (hop : op ∈ ops) (hp : p ∈ ops)
    {right : Nat} (hle : op.rightPrec ≤ right) (hlt : right < p.rightPrec) :
    op.leftPrec < p.rightPrec := by
  have hsides : op.precedence.toNat = p.precedence.toNat → op.leftAssoc = p.leftAssoc :=
    fun h => hops op hop p hp (UInt32.toNat_inj.1 h)
  unfold Operator.leftPrec Operator.rightPrec at *
  cases ho : op.leftAssoc <;> cases hq : p.leftAssoc <;> simp [ho, hq] at hle hlt hsides ⊢ <;> omega

theorem needsParens_rightOperand (hops : Unmixed ops) (hop : op ∈ ops) (hp : p ∈ ops)
    {right : Nat} (h : right ≠ 0 → right < p.rightPrec) :
    needsParens op.leftPrec op.rightPrec p.rightPrec right =
      needsParens op.leftPrec op.rightPrec p.rightPrec 0 := by
  have hasked : right ≠ 0 → op.rightPrec ≤ right → op.leftPrec < p.rightPrec :=
    fun h0 hle => leftPrec_lt_of_rightPrec_le hops hop hp hle (h h0)
  rw [Bool.eq_iff_iff]
  simp only [needsParens, Bool.or_eq_true, Bool.and_eq_true, decide_eq_true_eq]
  omega

variable {a b : Fragment}

theorem Steady.leftOperand (ha : Steady ops a) {left strength : Nat} (h : left ≤ strength) :
    a left strength = a 0 strength := by
  cases ha with
  | fixed => rfl
  | wrapped => rw [wrap, wrap, needsParens_leftOperand h]

theorem Steady.rightOperand (hops : Unmixed ops) (hp : p ∈ ops) (hb : Steady ops b) {right : Nat}
    (h : right ≠ 0 → right < p.rightPrec) : b p.rightPrec right = b p.rightPrec 0 := by
  cases hb with
  | fixed => rfl
  | wrapped _ hop => rw [wrap, wrap, needsParens_rightOperand hops hop hp h]

/-! ## Calls -/

theorem bare_zero (op : Operator) : Bare op 0 0 := ⟨Nat.zero_le _, fun h => absurd rfl h⟩

/-- Only what stands bare hands its neighbours on. -/
theorem wrap_congr {body body' : Fragment}
    (h : ∀ left right, Bare op left right → body left right = body' left right) :
    wrap op.leftPrec op.rightPrec body = wrap op.leftPrec op.rightPrec body' := by
  funext left right
  unfold wrap
  split
  · rw [h 0 0 (bare_zero op)]
  · next hp => exact h left right (bare_of_not_needsParens (by simpa using hp))

theorem wrap_between (hops : Unmixed ops) (hp : p ∈ ops) (ha : Steady ops a) (hb : Steady ops b) :
    wrap p.leftPrec p.rightPrec (between p [a, b]) =
      wrap p.leftPrec p.rightPrec
        fun _ _ => a 0 p.leftPrec ++ .word p.name :: b p.rightPrec 0 := by
  apply wrap_congr
  intro left right hbare
  have hbetween : between p [a, b] left right =
      a left p.leftPrec ++ .word p.name :: b p.rightPrec right := rfl
  rw [hbetween, ha.leftOperand hbare.left, hb.rightOperand hops hp hbare.right]

theorem wrap_behind (p : Operator) (ha : Steady ops a) (name : String) :
    wrap p.leftPrec p.rightPrec (fun left _ => a left p.leftPrec ++ [.word name]) =
      wrap p.leftPrec p.rightPrec fun _ _ => a 0 p.leftPrec ++ [.word name] := by
  apply wrap_congr
  intro left right hbare
  rw [ha.leftOperand hbare.left]

/-! ## Texts -/

theorem layout_enclosed (steps : List Step) :
    layout (.paren :: steps ++ [.close]) = "(" ++ layout steps ++ ")" := by
  apply String.toList_inj.1
  simp [layout, layoutFrom, layoutFrom_append, Step.chars, Step.spaces]

theorem Steady.layout_eq_or (ha : Steady ops a) (left right : Nat) :
    layout (a left right) = layout (a 0 0) ∨
      layout (a left right) = "(" ++ layout (a 0 0) ++ ")" := by
  cases ha with
  | fixed => exact .inl rfl
  | @wrapped op steps =>
    have hzero : wrap op.leftPrec op.rightPrec (fun _ _ => steps) 0 0 = steps := by
      simp [wrap, needsParens]
    rw [hzero, wrap]
    split
    · exact .inr (layout_enclosed steps)
    · exact .inl rfl

end

namespace Standard

variable {d : Dialect} {op : Operator}

def signs : List Operator := Catalog.all.filter isSign

theorem unmixed_signs : Unmixed signs := by decide

theorem isNull_mem_signs : Catalog.isNull ∈ signs := by decide

theorem steady_nullIndicator (d : Dialect) {operand : Option Fragment}
    (h : ∀ a ∈ operand, Steady signs a) : Steady signs (nullIndicator d operand) := by
  cases operand with
  | none => exact .fixed _
  | some a =>
    unfold nullIndicator
    simp only
    split
    · rw [wrap_behind _ (h a rfl)]
      exact .wrapped _ isNull_mem_signs
    · exact .fixed _

/-- An operator beside its operands is one of the catalog, and has its operands. -/
theorem steady_byForm (d : Dialect) {parts : List Fragment}
    (hop : isSign op = true → op ∈ Catalog.all ∧ op.arity.admits parts.length = true)
    (hparts : ∀ a ∈ parts, Steady signs a) : Steady signs (byForm d op parts) := by
  have hsigns (h : isSign op = true) : op ∈ signs := List.mem_filter.2 ⟨(hop h).1, h⟩
  unfold byForm
  split
  · exact .fixed _
  · exact .fixed _
  · split <;> exact .fixed _
  · exact .fixed _
  · exact steady_nullIndicator d fun a ha => hparts a (List.mem_of_mem_head? ha)
  · next hform =>
    have hsign : isSign op = true := by simp [isSign, hform]
    obtain ⟨hmem, hcount⟩ := hop hsign
    rw [arity_of_form op hmem, hform] at hcount
    obtain ⟨a, b, rfl⟩ := Arity.eq_pair_of_admits_two hcount
    rw [wrap_between unmixed_signs (hsigns hsign) (hparts a (by simp)) (hparts b (by simp))]
    exact .wrapped _ (hsigns hsign)
  · next hform => exact .wrapped _ (hsigns (by simp [isSign, hform]))
  · next hform =>
    have hsign : isSign op = true := by simp [isSign, hform]
    obtain ⟨hmem, hcount⟩ := hop hsign
    rw [arity_of_form op hmem, hform] at hcount
    obtain ⟨a, rfl⟩ := Arity.eq_singleton_of_admits_one hcount
    have hbehind : behind op [a] = fun left _ => a left op.leftPrec ++ [.word op.name] := by
      funext left right
      simp [behind]
    rw [hbehind, wrap_behind op (hparts a (by simp))]
    exact .wrapped _ (hsigns hsign)

theorem steady_spell (d : Dialect) {operands : List Node} {parts : List Fragment}
    (hop : isSign op = true → op ∈ Catalog.all ∧ op.arity.admits parts.length = true)
    (hparts : ∀ a ∈ parts, Steady signs a) : Steady signs (spell d op operands parts) := by
  unfold spell
  split
  · exact .fixed _
  · split
    · exact .fixed _
    · exact steady_byForm d hop hparts
  · exact steady_byForm d hop hparts

theorem steady_render (hd : ∀ p ∈ d.overrides, p = (Catalog.pi.id, Dialect.piFunction)) {n : Node}
    (hn : n.Everywhere Node.Admitted) : Steady signs (render d n) := by
  induction hn with
  | @intro n hn _ ih =>
    cases n with
    | literal v type =>
      rw [render]
      exact .fixed _
    | input index name type =>
      rw [render]
      exact .fixed _
    | call op operands type =>
      obtain ⟨hop, hcount⟩ := hn
      have hparts : ∀ a ∈ operands.map (render d), Steady signs a := List.forall_mem_map.2 ih
      rw [render, renderAll_eq_map]
      rcases resolve_eq_or hd op operands.length with h | ⟨-, h⟩
      · rw [h]
        exact steady_spell d (fun _ => ⟨hop, by simpa using hcount⟩) hparts
      · rw [h]
        exact steady_spell d (fun hsign => absurd hsign (by decide)) hparts

/-- Between any neighbours, an expression over the catalog is written as it is alone, or as that
in parentheses. -/
theorem text_eq_or_enclosed
    (hd : ∀ p ∈ d.overrides, p = (Catalog.pi.id, Dialect.piFunction)) {n : Node}
    (hn : n.Everywhere Node.Admitted) (left right : Nat) :
    text d n left right = text d n 0 0 ∨
      text d n left right = "(" ++ text d n 0 0 ++ ")" :=
  (steady_render hd hn).layout_eq_or left right

namespace Between

def column (name : String) : Node := .column 0 name (.orNull .boolean)

/-- A negation on the left, and a null test on the right. -/
def condition : Node :=
  .call Catalog.and
    [.call Catalog.not [column "a"] (.orNull .boolean),
     .call Catalog.equals [column "b",
       .call Catalog.nullIndicator [column "c"] (.notNull .integer)] (.orNull .boolean)]
    (.orNull .boolean)

theorem admitted : condition.Everywhere Node.Admitted := by
  simp only [condition, column, Node.column, Node.everywhere_call, Node.everywhere_input,
    List.forall_mem_cons, List.not_mem_nil, false_implies, implies_true, and_true, Node.Admitted]
  decide

theorem overrides_hive :
    ∀ p ∈ (Dialect.hive none).overrides, p = (Catalog.pi.id, Dialect.piFunction) := by
  simp [Dialect.hive, Dialect.withPiFunction, Dialect.withOverride]

theorem text_of_condition :
    (∀ p ∈ (Dialect.hive none).overrides, p = (Catalog.pi.id, Dialect.piFunction)) ∧
      condition.Everywhere Node.Admitted ∧
      (text (Dialect.hive none) condition 49 40 = text (Dialect.hive none) condition 0 0 ∨
        text (Dialect.hive none) condition 49 40 =
          "(" ++ text (Dialect.hive none) condition 0 0 ++ ")") :=
  ⟨overrides_hive, admitted, text_eq_or_enclosed overrides_hive admitted 49 40⟩

example : text (Dialect.hive none) condition 49 40 = "(NOT a AND b = (c IS NULL))" := by decide

end Between

end Standard

end RowExpr.Sql
