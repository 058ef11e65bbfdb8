import Mathlib.Data.List.Count
import RowExpr.Proofs.Sql.Deletion
import RowExpr.Proofs.Sql.StepTokens

/-!
# No pair too many

A tree over operators that stand between their operands is written with just the parentheses
that its grouping costs. So without any pair of them the text is read as another tree
(`minimal_text`).
-/

namespace RowExpr.Sql

namespace Vocabulary

variable {v : Vocabulary} {d : Dialect}

/-! ## What is written -/

/-- A fragment that is written with the parentheses of the tree, and otherwise in words. -/
structure Writes (v : Vocabulary) (part : Fragment) (e : Outline) : Prop where
  steady : Steady v.operators part
  count : ∀ left right, (part left right).count .paren = v.parens e left right
  comma : ∀ left right, .comma ∉ part left right
  spelled : ∀ left right, ∀ s ∈ part left right, Spelled v.grammar.lexicon s [s.token]

theorem writes_column {name : String} (h : v.grammar.lexicon.IsWord name.toList) :
    v.Writes (fun _ _ => [.word name]) (.column name) where
  steady := .fixed _
  count _ _ := by simp [parens]
  comma _ _ := by simp
  spelled _ _ := by simpa [Step.token] using Spelled.word (splits_word h)

theorem count_paren_wrap (op : Operator) (steps : List Step) (left right : Nat) :
    (wrap op.leftPrec op.rightPrec (fun _ _ => steps) left right).count .paren =
      steps.count .paren + if needsParens op.leftPrec op.rightPrec left right then 1 else 0 := by
  unfold wrap
  split <;> simp [*]

theorem mem_wrap {opLeft opRight left right : Nat} {steps : List Step} {s : Step}
    (h : s ∈ wrap opLeft opRight (fun _ _ => steps) left right) :
    s ∈ steps ∨ s = .paren ∨ s = .close := by
  unfold wrap at h
  split at h
  · simpa [or_comm, or_assoc, or_left_comm] using h
  · exact .inl h

theorem writes_between (hv : v.Infix) (hops : Unmixed v.operators) {op : Operator}
    (hop : op ∈ v.operators) {a b : Fragment} {ea eb : Outline} (ha : v.Writes a ea)
    (hb : v.Writes b eb) :
    v.Writes (wrap op.leftPrec op.rightPrec (between op [a, b])) (op.outline [ea, eb]) := by
  rw [wrap_between hops hop ha.steady hb.steady]
  refine ⟨.wrapped _ hop, fun left right => ?_, fun left right hmem => ?_,
    fun left right s hs => ?_⟩
  · obtain ⟨o, hfound, hlike⟩ := operatorOf?_like_binary hv hop
    rw [count_paren_wrap, Operator.outline, parens_call hfound, hlike.leftPrec, hlike.rightPrec,
      List.count_append, List.count_cons, ha.count, hb.count]
    simp
  · have hsteps := mem_wrap hmem
    simp [ha.comma, hb.comma] at hsteps
  · rcases mem_wrap hs with hs | rfl | rfl
    · rw [List.mem_append, List.mem_cons] at hs
      rcases hs with hs | rfl | hs
      · exact ha.spelled _ _ s hs
      · exact .word (splits_word (v.worded op hop))
      · exact hb.spelled _ _ s hs
    · exact .paren
    · exact .close

theorem writes_tree (hv : v.Infix) (hops : Unmixed v.operators)
    (hd : ∀ op ∈ v.operators, d.overrideOf? op.id = none) {n : Node} (hn : v.Tree n) :
    v.Writes (render d n) (n.outline d) := by
  induction hn with
  | column hplain =>
    rw [render_column hplain, Node.outline]
    exact writes_column (isWord_of_isPlainName (by simp [grammar]) hplain)
  | between hop hform _ _ iha ihb =>
    rw [render_call hop (hd _ hop) (by simp), byForm_binary _ hform,
      Node.outline_call (form_ne_nullIndicator hop)]
    exact writes_between hv hops hop iha ihb
  | before hop hform => simp [hv _ hop] at hform
  | behind hop hform => simp [hv _ hop] at hform

/-! ## Every pair is needed -/

/-- No matching pair of parentheses can be left out: the rest would be read as another tree. -/
def Minimal (v : Vocabulary) (ts : List Token) (e : Outline) : Prop :=
  ∀ before inside behind, ts = before ++ .opening :: inside ++ .closing :: behind →
    Balanced inside →
    ∃ e', v.readTokens (before ++ inside ++ behind) = some e' ∧ e' ≠ e

/-- Tokens with just the parentheses that a tree costs. -/
theorem minimal_of_count (hv : v.Infix) {ts : List Token} {e : Outline}
    (hread : v.readTokens ts = some e) (hcount : ts.count .opening = v.parens e 0 0) :
    v.Minimal ts e := by
  rintro before inside behind rfl hinside
  obtain ⟨e', hread'⟩ := Option.isSome_iff_exists.1
    (isSome_readTokens_of_pair hv hinside (Option.isSome_of_eq_some hread))
  refine ⟨e', hread', ?_⟩
  rintro rfl
  have hle := parens_le_of_readTokens hv hread'
  simp [List.count_append] at hcount hle
  omega

theorem tokens_text (hv : v.Infix) (hops : Unmixed v.operators)
    (hd : ∀ op ∈ v.operators, d.overrideOf? op.id = none) {n : Node} (hn : v.Tree n) :
    ∃ ts, tokens v.grammar.lexicon (text d n).toList = some ts ∧
      v.readTokens ts = some (n.outline d) ∧
      ts.count .opening = v.parens (n.outline d) 0 0 := by
  have hwrites := writes_tree hv hops hd hn
  have htokens : tokens v.grammar.lexicon (text d n).toList =
      some ((render d n 0 0).map Step.token) := by
    rw [text, layout, String.toList_ofList]
    exact (spelledAll_token (hwrites.spelled 0 0)).tokens_layoutFrom
      (fun h => absurd h (hwrites.comma 0 0)) false
  refine ⟨_, htokens, ?_, ?_⟩
  · have hread := (reads_tree hd hn).read_layout v.plain
    change v.grammar.read (text d n) = _ at hread
    rw [Grammar.read, Grammar.scan, htokens] at hread
    exact hread
  · rw [← hwrites.count 0 0]
    exact List.count_map_of_injective _ _ Step.token_injective .paren

/-! ## Chains -/

/-- Columns one behind the other, with one operator between them. -/
inductive Chain (op : Operator) : Node → Prop
  | column {index : UInt64} {name : String} {type : SqlType} :
    Chain op (.input index (some name) type)
  | next {a : Node} {index : UInt64} {name : String} {type type' : SqlType} :
    Chain op a → Chain op (.call op [a, .input index (some name) type] type')

/-- A step that is one word. -/
def Worded (x : Lexicon) (s : Step) : Prop := ∃ w, s = .word w ∧ x.IsWord w.toList

theorem worded_of_chain (hleft : ∀ op ∈ v.operators, op.leftAssoc = true)
    (hd : ∀ op ∈ v.operators, d.overrideOf? op.id = none) {op : Operator} {n : Node}
    (hchain : Chain op n) (hn : v.Tree n) {right : Nat} (hright : right ≤ op.leftPrec) :
    ∀ s ∈ render d n 0 right, Worded v.grammar.lexicon s := by
  have hcolumn {name : String} (h : isPlainName name.toList = true) :
      Worded v.grammar.lexicon (.word name) :=
    ⟨name, rfl, isWord_of_isPlainName (by simp [grammar]) h⟩
  induction hchain generalizing right with
  | column =>
    cases hn with
    | column hplain =>
      rw [render_column hplain]
      simpa using hcolumn hplain
  | next _ ih =>
    cases hn with
    | between hop hform ha hb =>
      have hbare : needsParens op.leftPrec op.rightPrec 0 right = false := by
        have hkeeps : op.leftPrec < op.rightPrec :=
          leftPrec_lt_rightPrec_iff.2 (.inr ⟨rfl, hleft op hop, hleft op hop⟩)
        simp only [needsParens, Bool.or_eq_false_iff, Bool.and_eq_false_iff,
          decide_eq_false_iff_not]
        omega
      rw [render_call hop (hd _ hop) (by simp), byForm_binary _ hform, wrap, hbare]
      cases hb with
      | column hplain =>
        have hop : Worded v.grammar.lexicon (.word op.name) := ⟨_, rfl, v.worded op hop⟩
        simpa [between, render_column hplain, or_imp, forall_and, hop] using
          ⟨ih ha (Nat.le_refl _), hcolumn hplain⟩

theorem no_parens_of_worded {x : Lexicon} {steps : List Step} (h : ∀ s ∈ steps, Worded x s)
    (spaced : Bool) : ∀ c ∈ layoutFrom spaced steps, c ≠ '(' ∧ c ≠ ')' := by
  induction steps generalizing spaced with
  | nil => simp [layoutFrom]
  | cons s rest ih =>
    rw [List.forall_mem_cons] at h
    obtain ⟨⟨w, rfl, hw⟩, hrest⟩ := h
    have hword : ∀ c ∈ w.toList, c ≠ '(' ∧ c ≠ ')' := fun c hc =>
      have hc := not_delimits_iff.1 (hw.inside c hc)
      ⟨hc.2.1, hc.2.2.1⟩
    rw [layoutFrom, List.forall_mem_append]
    refine ⟨?_, ih hrest _⟩
    cases spaced <;> simpa [Step.chars] using hword

end Vocabulary

namespace Standard

def infixes : Vocabulary where
  operators := Catalog.all.filter (·.form == .binary)
  beside := by decide
  binds := by decide
  worded := by decide
  agree := by decide
  apart := by decide

theorem infix_infixes : infixes.Infix := by
  intro op hop
  simpa using (List.mem_filter.1 hop).2

theorem unmixed_infixes : Unmixed infixes.operators := by decide

theorem leftAssoc_of_mem_infixes : ∀ op ∈ infixes.operators, op.leftAssoc = true := by decide

/-- What a dialect writes for a tree over the infix operators of the catalog is read as the tree,
and without any pair of its parentheses as another tree. Chains have no parentheses. -/
theorem minimal_text {d : Dialect} (hd : ∀ op ∈ infixes.operators, d.overrideOf? op.id = none)
    {n : Node} (hn : infixes.Tree n) :
    (∃ ts, tokens infixes.grammar.lexicon (text d n).toList = some ts ∧
      infixes.readTokens ts = some (n.outline d) ∧ infixes.Minimal ts (n.outline d)) ∧
    ∀ op, Vocabulary.Chain op n → ∀ c ∈ (text d n).toList, c ≠ '(' ∧ c ≠ ')' := by
  constructor
  · obtain ⟨ts, htokens, hread, hcount⟩ :=
      Vocabulary.tokens_text infix_infixes unmixed_infixes hd hn
    exact ⟨ts, htokens, hread, Vocabulary.minimal_of_count infix_infixes hread hcount⟩
  · intro op hchain
    rw [text, layout, String.toList_ofList]
    exact Vocabulary.no_parens_of_worded
      (Vocabulary.worded_of_chain leftAssoc_of_mem_infixes hd hchain hn (Nat.zero_le _)) false

namespace Nested

def column (name : String) : Node := .column 0 name (.notNull .integer)

def call (op : Operator) (a b : Node) : Node := .call op [a, b] (.notNull .integer)

/-- The product asks for parentheses on its left, and the outer difference on its right. -/
def difference : Node :=
  call Catalog.minus
    (call Catalog.times (call Catalog.plus (column "a") (column "b")) (column "c"))
    (call Catalog.minus (column "d")
      (call Catalog.datetimeDivide (column "e") (column "f")))

theorem tree_difference : infixes.Tree difference := by
  have leaf : ∀ name ∈ ["a", "b", "c", "d", "e", "f"], infixes.Tree (column name) := by
    intro name hname
    have h : ∀ name ∈ ["a", "b", "c", "d", "e", "f"],
        isPlainName name.toList = true ∧ name ∉ infixes.names := by decide
    exact .column (h name hname).1 (h name hname).2
  have between {op : Operator} (hop : op ∈ infixes.operators) {a b : Node}
      (ha : infixes.Tree a) (hb : infixes.Tree b) : infixes.Tree (call op a b) :=
    .between hop (infix_infixes op hop) ha hb
  have hsum : infixes.Tree (call Catalog.plus (column "a") (column "b")) :=
    between (by decide) (leaf "a" (by decide)) (leaf "b" (by decide))
  have hquotient : infixes.Tree (call Catalog.datetimeDivide (column "e") (column "f")) :=
    between (by decide) (leaf "e" (by decide)) (leaf "f" (by decide))
  exact between (by decide) (between (by decide) hsum (leaf "c" (by decide)))
    (between (by decide) (leaf "d" (by decide)) hquotient)

theorem minimal_difference :
    (∀ op ∈ infixes.operators, (Dialect.hive none).overrideOf? op.id = none) ∧
      infixes.Tree difference ∧
      (∃ ts, tokens infixes.grammar.lexicon (text (Dialect.hive none) difference).toList =
          some ts ∧
        infixes.readTokens ts = some (difference.outline (Dialect.hive none)) ∧
        infixes.Minimal ts (difference.outline (Dialect.hive none))) ∧
      ∀ op, Vocabulary.Chain op difference →
        ∀ c ∈ (text (Dialect.hive none) difference).toList, c ≠ '(' ∧ c ≠ ')' :=
  ⟨by decide, tree_difference, minimal_text (by decide) tree_difference⟩

example : text (Dialect.hive none) difference = "(a + b) * c - (d - e / f)" := by decide

end Nested

end Standard

end RowExpr.Sql
