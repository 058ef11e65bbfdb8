import RowExpr.Proofs.Sql.Reading

/-!
# Any operators

Operators before, between and behind their operands, of any strength and grouping to either
side. Whatever they are, what is written with them is read back.
-/

namespace RowExpr.Sql

/-- Operators that can be told apart in a text by their names and by whether an operand is
due. -/
structure Vocabulary where
  operators : List Operator
  beside : ∀ op ∈ operators, isSign op = true
  binds : ∀ op ∈ operators, 0 < op.precedence
  worded : ∀ op ∈ operators, Lexicon.IsWord ⟨[], false⟩ op.name.toList
  agree : ∀ a ∈ operators, ∀ b ∈ operators, a.name = b.name → a.form = b.form →
    a.precedence = b.precedence ∧ a.leftAssoc = b.leftAssoc
  apart : ∀ a ∈ operators, ∀ b ∈ operators, a.name = b.name → a.form = .binary →
    b.form ≠ .postfixOp

namespace Vocabulary

def names (v : Vocabulary) : List String := v.operators.map (·.name)

/-- A word is a column unless it is the name of an operator. -/
def symbol? (v : Vocabulary) : Token → Option Symbol
  | .word w => some (if w ∈ v.names then .sign w else .operand (.column w))
  | .opening => some (.opening .group)
  | .closing => some (.mark .close)
  | _ => none

/-- Words and parentheses; nothing is quoted. -/
def grammar (v : Vocabulary) : Grammar where
  operators := v.operators
  lexicon := ⟨[], false⟩
  symbols := List.mapM v.symbol?

inductive Tree (v : Vocabulary) : Node → Prop
  | column {index : UInt64} {name : String} {type : SqlType} :
    isPlainName name.toList = true → name ∉ v.names →
    Tree v (.input index (some name) type)
  | between {op : Operator} {a b : Node} {type : SqlType} :
    op ∈ v.operators → op.form = .binary → Tree v a → Tree v b →
    Tree v (.call op [a, b] type)
  | before {op : Operator} {a : Node} {type : SqlType} :
    op ∈ v.operators → op.form = .prefixOp → Tree v a → Tree v (.call op [a] type)
  | behind {op : Operator} {a : Node} {type : SqlType} :
    op ∈ v.operators → op.form = .postfixOp → Tree v a → Tree v (.call op [a] type)

variable {v : Vocabulary}

/-! ## Symbols -/

theorem symbols_cons {t : Token} {s : Symbol} (h : v.symbol? t = some s) (rest : List Token) :
    v.grammar.symbols (t :: rest) = (v.grammar.symbols rest).map (s :: ·) := by
  cases hr : List.mapM v.symbol? rest <;> simp [grammar, List.mapM_cons, h, hr]

theorem plain (v : Vocabulary) : v.grammar.Plain where
  symbols_nil := rfl
  opening := symbols_cons rfl
  closing := symbols_cons rfl

theorem spells_word {w : String} (hw : Lexicon.IsWord ⟨[], false⟩ w.toList) {s : Symbol}
    (h : v.symbol? (.word w) = some s) : v.grammar.Spells [.word w] [s] :=
  Grammar.spells_word (splits_word hw) (symbols_cons h)

/-! ## Signs -/

theorem operatorOf?_like {op : Operator} (hop : op ∈ v.operators) :
    ∃ o, operatorOf? v.operators (op.form == .prefixOp) op.name = some o ∧ o.Like op := by
  have hsign := v.beside op hop
  obtain ⟨o, hfound⟩ : ∃ o, operatorOf? v.operators (op.form == .prefixOp) op.name = some o := by
    rw [← Option.isSome_iff_exists, operatorOf?, List.find?_isSome]
    exact ⟨op, hop, by simp [hsign]⟩
  have hmem : o ∈ v.operators := List.mem_of_find?_eq_some hfound
  have hmatch := List.find?_some hfound
  simp only [Bool.and_eq_true, beq_iff_eq] at hmatch
  obtain ⟨⟨ho, hdue⟩, hname⟩ := hmatch
  have hform : o.form = op.form := by
    have h1 := v.apart o hmem op hop hname
    have h2 := v.apart op hop o hmem hname.symm
    cases hf : o.form <;> cases hg : op.form <;> simp_all [isSign]
  obtain ⟨hprec, hassoc⟩ := v.agree o hmem op hop hname hform
  exact ⟨o, hfound, hname, hform, hprec, hassoc⟩

theorem knows {op : Operator} (hop : op ∈ v.operators) : Knows v.grammar op where
  spells := by
    have hname : op.name ∈ v.names := List.mem_map_of_mem hop
    exact spells_word (v.worded op hop) (by simp [symbol?, hname])
  found := operatorOf?_like hop

theorem rightPrec_pos {op : Operator} (hop : op ∈ v.operators) : 0 < op.rightPrec := by
  have := UInt32.lt_iff_toNat_lt.1 (v.binds op hop)
  unfold Operator.rightPrec
  simp at this
  omega

/-! ## Expressions -/

theorem render_call {d : Dialect} {op : Operator} (hop : op ∈ v.operators)
    (hd : d.overrideOf? op.id = none) {operands : List Node} (hcount : operands.length ≠ 3)
    (type : SqlType) :
    render d (.call op operands type) = byForm d op (operands.map (render d)) := by
  have hform : op.form ≠ .substring := by
    intro h
    simpa [isSign, h] using v.beside op hop
  exact render_eq_byForm hd (fun _ => hcount) hform type

theorem form_ne_nullIndicator {op : Operator} (hop : op ∈ v.operators) :
    op.form ≠ .nullIndicator := by
  intro h
  simpa [isSign, h] using v.beside op hop

theorem render_column {name : String} (h : isPlainName name.toList = true) (d : Dialect)
    (index : UInt64) (type : SqlType) :
    render d (.input index (some name) type) = fun _ _ => [.word name] := by
  have hquote : quoteName d name = name := by
    unfold quoteName
    split
    · rfl
    · exact if_pos h
  rw [render, inputText, hquote]

theorem reads_tree {d : Dialect} (hd : ∀ op ∈ v.operators, d.overrideOf? op.id = none)
    {n : Node} (h : v.Tree n) : Reads v.grammar (render d n) (n.outline d) := by
  induction h with
  | @column index name type hplain hname =>
    rw [render_column hplain, Node.outline]
    apply reads_of_operand
    exact spells_word (isWord_of_isPlainName (by simp) hplain) (by simp [symbol?, hname])
  | between hop hform _ _ iha ihb =>
    rw [render_call hop (hd _ hop) (by simp), byForm_binary _ hform, Node.outline_call (form_ne_nullIndicator hop)]
    exact reads_between v.plain (knows hop) hform (rightPrec_pos hop) iha ihb
  | before hop hform _ iha =>
    rw [render_call hop (hd _ hop) (by simp), byForm_prefixOp _ hform, Node.outline_call (form_ne_nullIndicator hop)]
    exact reads_before v.plain (knows hop) hform (rightPrec_pos hop) iha
  | behind hop hform _ iha =>
    rw [render_call hop (hd _ hop) (by simp), byForm_postfixOp _ hform, Node.outline_call (form_ne_nullIndicator hop)]
    exact reads_behind v.plain (knows hop) hform iha

/-- What a dialect writes for a tree of operators that it does not replace is read back as
that tree. -/
theorem read_text_of_tree {d : Dialect} (hd : ∀ op ∈ v.operators, d.overrideOf? op.id = none)
    {n : Node} (h : v.Tree n) : v.grammar.read (text d n) = some (n.outline d) :=
  (reads_tree hd h).read_layout v.plain

/-! ## Two groupings at one strength -/

namespace Mixed

def minus : Operator :=
  { id := "MINUS", name := "-", kind := .minus, form := .binary, precedence := 40 }

def power : Operator :=
  { minus with id := "POWER", name := "^", kind := .other, leftAssoc := false }

def negate : Operator :=
  { minus with id := "NEGATE", kind := .minusPrefix, form := .prefixOp, precedence := 80 }

def factorial : Operator :=
  { id := "FACTORIAL", name := "!", kind := .other, form := .postfixOp, precedence := 80 }

def vocabulary : Vocabulary where
  operators := [minus, power, negate, factorial]
  beside := by decide
  binds := by decide
  worded := by decide
  agree := by decide
  apart := by decide

def column (name : String) : Node := .column 0 name (.notNull .double)

def call (op : Operator) (operands : List Node) : Node := .call op operands (.notNull .double)

/-- The minus before `d` and the factorial behind it bind with one strength. -/
def tree : Node :=
  call power
    [call minus [column "a", column "b"],
     call minus [column "c", call factorial [call negate [column "d"]]]]

theorem tree_tree : vocabulary.Tree tree := by
  have leaf : ∀ name ∈ ["a", "b", "c", "d"], vocabulary.Tree (column name) := by
    intro name hname
    have h : ∀ name ∈ ["a", "b", "c", "d"],
        isPlainName name.toList = true ∧ name ∉ vocabulary.names := by decide
    exact .column (h name hname).1 (h name hname).2
  have ha := leaf "a" (by decide)
  have hb := leaf "b" (by decide)
  have hc := leaf "c" (by decide)
  have hd := leaf "d" (by decide)
  have hfactorial : vocabulary.Tree (call factorial [call negate [column "d"]]) :=
    .behind (by decide) rfl (.before (by decide) rfl hd)
  have hright : vocabulary.Tree
      (call minus [column "c", call factorial [call negate [column "d"]]]) :=
    .between (by decide) rfl hc hfactorial
  exact .between (by decide) rfl (.between (by decide) rfl ha hb) hright

theorem read_text_of_mixed_tree :
    (∀ op ∈ vocabulary.operators, ({ product := .ansi } : Dialect).overrideOf? op.id = none) ∧
      vocabulary.grammar.read (text { product := .ansi } tree) =
        some (tree.outline { product := .ansi }) :=
  ⟨by decide, read_text_of_tree (by decide) tree_tree⟩

example : text { product := .ansi } tree = "(a - b) ^ c - - d !" := by decide

end Mixed

end Vocabulary

end RowExpr.Sql
