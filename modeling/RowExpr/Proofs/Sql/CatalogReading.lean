import Mathlib.Data.List.Basic
import RowExpr.Dialect.Profile
import RowExpr.Proofs.Sql.CatalogGrammar

/-!
# Reading back the standard operators

Whatever a dialect with standard trims writes for an expression over the catalog is read as
that expression.
-/

namespace RowExpr.Sql.Standard

/-- A dialect that quotes names, trims in the standard way and replaces nothing but `PI`. -/
structure Conforms (d : Dialect) : Prop where
  trim : d.trimStyle = .standard
  quote : d.quote = some '"' ∨ d.quote = some '\x60'
  overrides : ∀ p ∈ d.overrides, p = (Catalog.pi.id, Dialect.piFunction)

/-- The same with trims in any style. -/
structure Ordinary (d : Dialect) : Prop where
  quote : d.quote = some '"' ∨ d.quote = some '\x60'
  overrides : ∀ p ∈ d.overrides, p = (Catalog.pi.id, Dialect.piFunction)

theorem Conforms.ordinary {d : Dialect} (hd : Conforms d) : Ordinary d := ⟨hd.quote, hd.overrides⟩

def isFlag : Node → Bool
  | .literal (.flag _) _ => true
  | _ => false

/-- An expression over the catalog without floats. -/
inductive Readable : Node → Prop
  | literal {v : Value} {type : SqlType} : (∀ x, v ≠ .float x) → Readable (.literal v type)
  | position {index : UInt64} {type : SqlType} : Readable (.input index none type)
  | column {index : UInt64} {name : String} {type : SqlType} :
    name ∉ reserved → Readable (.input index (some name) type)
  | call {op : Operator} {operands : List Node} {type : SqlType} :
    op ∈ Catalog.all → op.arity.admits operands.length = true →
    (op.form = .trim → operands.head?.any isFlag = true) →
    (∀ n ∈ operands, Readable n) → Readable (.call op operands type)

/-! ## Calls -/

theorem arity_of_form : ∀ op ∈ Catalog.all, op.arity =
    match op.form with
    | .binary => .two
    | .prefixOp | .postfixOp | .function | .nullIndicator => .one
    | .functionId => .zero
    | .trim => .three
    | .substring => .twoOrThree := by
  decide

theorem precedence_pos : ∀ op ∈ Catalog.all, isSign op = true → 0 < op.precedence := by decide

theorem rightPrec_pos {op : Operator} (hop : op ∈ Catalog.all) (hsign : isSign op = true) :
    0 < op.rightPrec := by
  have := UInt32.lt_iff_toNat_lt.1 (precedence_pos op hop hsign)
  unfold Operator.rightPrec
  simp at this
  omega

variable {d : Dialect}

theorem resolve_eq_or (hd : ∀ p ∈ d.overrides, p = (Catalog.pi.id, Dialect.piFunction))
    (op : Operator) (count : Nat) :
    d.resolve op count = op ∨
      op.id = Catalog.pi.id ∧ d.resolve op count = Dialect.piFunction := by
  unfold Dialect.resolve
  split
  · next other hover =>
    obtain ⟨before, after, hsplit, -⟩ := List.lookup_eq_some_iff.1 hover
    have hpair := hd (op.id, other) (by simp [hsplit])
    rw [Prod.mk.injEq] at hpair
    split
    · exact .inr hpair
    · exact .inl rfl
  · exact .inl rfl

theorem Ordinary.resolve_eq_or (hd : Ordinary d) (op : Operator) (count : Nat) :
    d.resolve op count = op ∨
      op.id = Catalog.pi.id ∧ d.resolve op count = Dialect.piFunction :=
  Standard.resolve_eq_or hd.overrides op count

theorem Conforms.resolve (hd : Conforms d) {op : Operator} (hop : op.id ≠ Catalog.pi.id)
    (count : Nat) : d.resolve op count = op :=
  (hd.ordinary.resolve_eq_or op count).resolve_right fun h => hop h.1

theorem render_call (hd : Conforms d) {op : Operator} (hop : op ∈ Catalog.all)
    (hform : op.form ≠ .trim ∧ op.form ≠ .substring ∧ op.form ≠ .functionId)
    (operands : List Node) (type : SqlType) :
    render d (.call op operands type) = byForm d op (operands.map (render d)) := by
  have hcatalog : ∀ op ∈ Catalog.all, (op.kind = .trim → op.form = .trim) ∧
      (op.id = Catalog.pi.id → op.form = .functionId) := by decide
  obtain ⟨hkind, hid⟩ := hcatalog op hop
  rw [render, hd.resolve (fun h => hform.2.2 (hid h)), renderAll_eq_map,
    spell_eq_byForm (fun h => absurd (hkind h) hform.1) hform.2.1]

theorem opens_function {op : Operator} (hop : op ∈ Catalog.all) (hfun : isFunction op = true) :
    grammar.Opens (.call op.name) (.call op.name op.form []) := by
  have hcatalog : ∀ op ∈ Catalog.all, isFunction op = true → grammar.lexicon.IsWord op.name.toList ∧
      (Catalog.all.find? fun o => isFunction o && o.name == op.name) = some op := by decide
  obtain ⟨hword, hfind⟩ := hcatalog op hop hfun
  apply Grammar.opens_call hword
  apply symbols_cons
  simp [symbol?, hfind]

/-! ## Beside the operands -/

section

variable {op : Operator} {a b : Node}

theorem reads_binary (hd : Conforms d) (hop : op ∈ Catalog.all) (hform : op.form = .binary)
    (ha : Reads grammar (render d a) (a.outline d)) (hb : Reads grammar (render d b) (b.outline d))
    (type : SqlType) :
    Reads grammar (render d (.call op [a, b] type)) ((Node.call op [a, b] type).outline d) := by
  have hsign : isSign op = true := by simp [isSign, hform]
  rw [render_call hd hop (by simp [hform]), byForm_binary _ hform,
    Node.outline_call (by simp [hform])]
  exact reads_between plain (knows hop hsign) hform (rightPrec_pos hop hsign) ha hb

theorem reads_prefix (hd : Conforms d) (hop : op ∈ Catalog.all) (hform : op.form = .prefixOp)
    (ha : Reads grammar (render d a) (a.outline d)) (type : SqlType) :
    Reads grammar (render d (.call op [a] type)) ((Node.call op [a] type).outline d) := by
  have hsign : isSign op = true := by simp [isSign, hform]
  rw [render_call hd hop (by simp [hform]), byForm_prefixOp _ hform,
    Node.outline_call (by simp [hform])]
  exact reads_before plain (knows hop hsign) hform (rightPrec_pos hop hsign) ha

theorem reads_postfix (hd : Conforms d) (hop : op ∈ Catalog.all) (hform : op.form = .postfixOp)
    (ha : Reads grammar (render d a) (a.outline d)) (type : SqlType) :
    Reads grammar (render d (.call op [a] type)) ((Node.call op [a] type).outline d) := by
  have hsign : isSign op = true := by simp [isSign, hform]
  rw [render_call hd hop (by simp [hform]), byForm_postfixOp _ hform,
    Node.outline_call (by simp [hform])]
  exact reads_behind plain (knows hop hsign) hform ha

theorem reads_indicator (hd : Conforms d) (hop : op ∈ Catalog.all)
    (hform : op.form = .nullIndicator) (ha : Reads grammar (render d a) (a.outline d))
    (type : SqlType) :
    Reads grammar (render d (.call op [a] type)) ((Node.call op [a] type).outline d) := by
  have hcatalog : ∀ op ∈ Catalog.all, op.form = .nullIndicator → op = Catalog.nullIndicator := by
    decide
  obtain rfl := hcatalog op hop hform
  rw [render_call hd hop (by decide), Node.outline, Node.outlineAll_eq_map]
  cases hkeys : d.has .booleanSortKeys
  · simpa [byForm, Catalog.nullIndicator, Node.written, hkeys] using
      reads_nullIndicator indicates hkeys ha
  · simpa [byForm, Catalog.nullIndicator, Node.written, hkeys] using
      reads_nullTest plain indicates hkeys ha

end

/-! ## Names with arguments -/

theorem reads_unary (hd : Conforms d) {op : Operator} (hop : op ∈ Catalog.all)
    (hform : op.form = .function) {a : Node} (ha : Reads grammar (render d a) (a.outline d))
    (type : SqlType) :
    Reads grammar (render d (.call op [a] type)) ((Node.call op [a] type).outline d) := by
  have hopens := opens_function hop (by simp [isFunction, hform])
  rw [hform] at hopens
  rw [render_call hd hop (by simp [hform]), byForm_function _ hform,
    Node.outline_call (by simp [hform]), Operator.outline, hform]
  exact reads_function separates hopens (by simpa using ha) (by simp) (by simp [marks])
    (by simp [marks])

theorem spells_piFunction :
    grammar.Spells [.call "PI", .close] [.operand (Catalog.pi.outline [])] := by
  apply Grammar.spells_of_tokens [.call "PI", .closing] _ (fun _ => rfl) rfl
  · intro rest _
    have hcall := tokens_call (x := grammar.lexicon) (s := "PI".toList) (by decide) (')' :: rest)
    rw [tokens_closing, Option.map_map] at hcall
    exact hcall
  · exact fun _ => rfl

theorem reads_pi (hd : Conforms d) (type : SqlType) :
    Reads grammar (render d (.call Catalog.pi [] type))
      ((Node.call Catalog.pi [] type).outline d) := by
  rw [Node.outline_call (by decide), render, List.length_nil, renderAll, List.map_nil]
  rcases hd.ordinary.resolve_eq_or Catalog.pi 0 with h | ⟨-, h⟩
  · have hword : spell d Catalog.pi [] [] = fun _ _ => [.word "PI"] := rfl
    rw [h, hword]
    exact reads_of_operand (spells_word (by decide) rfl)
  · have hcall : spell d Dialect.piFunction [] [] = fun _ _ => [.call "PI", .close] := rfl
    rw [h, hcall]
    exact reads_of_operand spells_piFunction

theorem spells_trim (flag : TrimFlag) :
    grammar.Spells [.call "TRIM", .word flag.keyword]
      [.opening (.call "TRIM" .trim [.literal (.flag flag)])] := by
  apply Grammar.spells_of_tokens [.call "TRIM", .word flag.keyword] _ (fun _ => rfl) rfl
  · intro rest hrest
    have hflag : grammar.lexicon.IsWord flag.keyword.toList := by cases flag <;> decide
    have hcall := tokens_call (x := grammar.lexicon) (s := "TRIM".toList) (by decide)
      (flag.keyword.toList ++ rest)
    rw [tokens_word hflag hrest, Option.map_map, String.ofList_toList] at hcall
    simpa [layoutFrom, Step.chars, Step.spaces, Function.comp_def] using hcall
  · intro more
    cases flag <;> rfl

theorem reads_trim (hd : Conforms d) {flag : TrimFlag} {chars source : Node}
    (hchars : Reads grammar (render d chars) (chars.outline d))
    (hsource : Reads grammar (render d source) (source.outline d)) (flagType type : SqlType) :
    Reads grammar
      (render d (.call Catalog.trim [.literal (.flag flag) flagType, chars, source] type))
      ((Node.call Catalog.trim [.literal (.flag flag) flagType, chars, source] type).outline d) := by
  rw [Node.outline_call (by decide), render, hd.resolve (by decide), renderAll_eq_map]
  have hstyle : spell d Catalog.trim [.literal (.flag flag) flagType, chars, source]
      ([.literal (.flag flag) flagType, chars, source].map (render d)) = fun _ _ =>
        standardTrim "TRIM" (fun _ _ => [.word flag.keyword]) (render d chars) (render d source) := by
    simp [spell, trim, hd.trim, Catalog.trim, render, literalText]
  rw [hstyle]
  exact reads_standardTrim separates (spells_trim flag) hchars hsource

theorem reads_substringCall (hd : Conforms d) {operands : List Node}
    (hcount : operands.length = 2 ∨ operands.length = 3)
    (hreads : ∀ n ∈ operands, Reads grammar (render d n) (n.outline d)) (type : SqlType) :
    Reads grammar (render d (.call Catalog.substring operands type))
      ((Node.call Catalog.substring operands type).outline d) := by
  have hopens : grammar.Opens (.call "SUBSTRING") (.call "SUBSTRING" .substring []) :=
    opens_function (show Catalog.substring ∈ Catalog.all by decide) rfl
  rw [Node.outline_call (by decide), render, hd.resolve (by decide), renderAll_eq_map]
  by_cases hwords : d.has .substringFromFor = false
  · have hspell : spell d Catalog.substring operands (operands.map (render d)) =
        fun _ _ => function "SUBSTRING" (operands.map (render d)) := by
      simp [spell, Catalog.substring, hwords]
    rw [hspell]
    apply reads_function separates hopens hreads
    · rintro rfl
      simp at hcount
    · intro k hpos hlt
      have hk : k = 1 ∨ k = 2 := by omega
      rcases hk with rfl | rfl <;> rfl
    · rcases hcount with h | h <;> rw [h] <;> rfl
  · have hspell : spell d Catalog.substring operands (operands.map (render d)) =
        fun _ _ => substring "SUBSTRING" (operands.map (render d)) := by
      simp [spell, byForm, Catalog.substring, hwords]
    rw [hspell]
    rcases hcount with h | h
    · obtain ⟨source, start, rfl⟩ := List.length_eq_two.1 h
      exact reads_substring separates hopens (hreads source (by simp)) (hreads start (by simp))
    · obtain ⟨source, start, length, rfl⟩ := List.length_eq_three.1 h
      exact reads_substringFor separates hopens (hreads source (by simp)) (hreads start (by simp))
        (hreads length (by simp))

/-! ## Expressions -/

theorem reads_call (hd : Conforms d) {op : Operator} (hop : op ∈ Catalog.all)
    {operands : List Node} (hcount : op.arity.admits operands.length = true)
    (htrim : op.form = .trim → operands.head?.any isFlag = true)
    (hreads : ∀ n ∈ operands, Reads grammar (render d n) (n.outline d)) (type : SqlType) :
    Reads grammar (render d (.call op operands type))
      ((Node.call op operands type).outline d) := by
  rw [arity_of_form op hop] at hcount
  have hcatalog : ∀ op ∈ Catalog.all, (op.form = .functionId → op = Catalog.pi) ∧
      (op.form = .trim → op = Catalog.trim) ∧ (op.form = .substring → op = Catalog.substring) := by
    decide
  obtain ⟨hpi, htrimOp, hsubstring⟩ := hcatalog op hop
  cases hform : op.form <;> simp only [hform] at hcount
  case binary =>
    obtain ⟨a, b, rfl⟩ := Arity.eq_pair_of_admits_two hcount
    exact reads_binary hd hop hform (hreads a (by simp)) (hreads b (by simp)) type
  case prefixOp =>
    obtain ⟨a, rfl⟩ := Arity.eq_singleton_of_admits_one hcount
    exact reads_prefix hd hop hform (hreads a (by simp)) type
  case postfixOp =>
    obtain ⟨a, rfl⟩ := Arity.eq_singleton_of_admits_one hcount
    exact reads_postfix hd hop hform (hreads a (by simp)) type
  case function =>
    obtain ⟨a, rfl⟩ := Arity.eq_singleton_of_admits_one hcount
    exact reads_unary hd hop hform (hreads a (by simp)) type
  case nullIndicator =>
    obtain ⟨a, rfl⟩ := Arity.eq_singleton_of_admits_one hcount
    exact reads_indicator hd hop hform (hreads a (by simp)) type
  case functionId =>
    rw [hpi hform, Arity.eq_nil_of_admits_zero hcount]
    exact reads_pi hd type
  case trim =>
    obtain ⟨flag, chars, source, rfl⟩ := Arity.eq_triple_of_admits_three hcount
    have hflag : isFlag flag = true := htrim hform
    unfold isFlag at hflag
    split at hflag
    · rw [htrimOp hform]
      exact reads_trim hd (hreads chars (by simp)) (hreads source (by simp)) _ type
    · cases hflag
  case substring =>
    have hrange : operands.length = 2 ∨ operands.length = 3 := by
      simp [Arity.admits, Arity.twoOrThree, Arity.between] at hcount
      omega
    rw [hsubstring hform]
    exact reads_substringCall hd hrange hreads type

theorem reads_readable (hd : Conforms d) {n : Node} (h : Readable n) :
    Reads grammar (render d n) (n.outline d) := by
  induction h with
  | literal hv =>
    rw [render, Node.outline]
    exact reads_of_operand (spells_literal hv _)
  | position =>
    rw [render, Node.outline]
    exact reads_of_operand (spells_position _)
  | column hname =>
    rw [render, Node.outline]
    exact reads_of_operand (spells_name hd.quote hname)
  | call hop hcount htrim _ ih => exact reads_call hd hop hcount htrim ih _

/-- The text of an expression over the catalog is read back as the expression. -/
theorem read_text_of_readable (hd : Conforms d) {n : Node} (h : Readable n) :
    grammar.read (text d n) = some (n.outline d) :=
  (reads_readable hd h).read_layout plain

namespace Sample

def price : Node := .column 0 "unit price" (.notNull .double)

def difference : Node := .call Catalog.minus [price, .call Catalog.unaryMinus [.int (-5)]
  (.notNull .integer)] (.notNull .double)

def trimmed : Node := .call Catalog.trim [.symbol .leading, .string "it's",
  .input 2 none (.orNull .varchar)] (.orNull .varchar)

/-- Spaces and quotes in names and strings, and two minus signs in a row. -/
def condition : Node :=
  .call Catalog.and
    [.call Catalog.equals [difference, .call Catalog.pi [] (.notNull .double)] (.notNull .boolean),
     .call Catalog.isNull [trimmed] (.notNull .boolean)] (.notNull .boolean)

theorem conforms_mySql : Conforms (Dialect.mySql none) where
  trim := rfl
  quote := .inr rfl
  overrides := by simp [Dialect.mySql, Dialect.withPiFunction, Dialect.withOverride]

theorem readable_condition : Readable condition := by
  have hnegated : Readable (.call Catalog.unaryMinus [.int (-5)] (.notNull .integer)) :=
    .call (by decide) rfl (by decide) (by simpa using .literal nofun)
  have hdifference : Readable difference :=
    .call (by decide) rfl (by decide) (by simpa using ⟨.column (by decide), hnegated⟩)
  have hpi : Readable (.call Catalog.pi [] (.notNull .double)) :=
    .call (by decide) rfl (by decide) (by simp)
  have hequals : Readable (.call Catalog.equals [difference, .call Catalog.pi []
      (.notNull .double)] (.notNull .boolean)) :=
    .call (by decide) rfl (by decide) (by simpa using ⟨hdifference, hpi⟩)
  have htrimmed : Readable trimmed :=
    .call (by decide) rfl (by decide)
      (by simpa using ⟨.literal nofun, .literal nofun, .position⟩)
  have hisNull : Readable (.call Catalog.isNull [trimmed] (.notNull .boolean)) :=
    .call (by decide) rfl (by decide) (by simpa using htrimmed)
  exact .call (by decide) rfl (by decide) (by simpa using ⟨hequals, hisNull⟩)

theorem read_text_of_condition : Conforms (Dialect.mySql none) ∧ Readable condition ∧
    grammar.read (text (Dialect.mySql none) condition) =
      some (condition.outline (Dialect.mySql none)) :=
  ⟨conforms_mySql, readable_condition, read_text_of_readable conforms_mySql readable_condition⟩

example : text (Dialect.mySql none) condition =
    "`unit price` - - -5 = PI() AND TRIM(LEADING 'it''s' FROM $2) IS NULL" := by
  decide

end Sample

end RowExpr.Sql.Standard
