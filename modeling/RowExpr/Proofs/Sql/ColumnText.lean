import RowExpr.Dialect.Profile
import RowExpr.Proofs.Sql.CatalogGrammar
import RowExpr.Proofs.Sql.Quoting

/-!
# Columns told from other words

A named column is written as its name, in quotes unless the name is plain. No other name, no
position, no number and no string is written so; keywords are (`text_column_eq_iff`), since a
keyword is a plain name.
-/

namespace RowExpr.Sql

/-! ## Names that are no names -/

/-- A text that no name is written as: it is not plain, and not in quotes. -/
def IsForeign (q : Char) (s : List Char) : Prop :=
  isPlainName s = false ∧ (s.head? ≠ some q ∨ s.getLast? ≠ some q)

theorem isForeign_of_head {q : Char} {s : List Char}
    (h : ∀ c ∈ s.head?, isNameStart c = false ∧ c ≠ q) : IsForeign q s := by
  cases s with
  | nil => exact ⟨rfl, .inl (by simp)⟩
  | cons c rest =>
    obtain ⟨hstart, hne⟩ := h c rfl
    exact ⟨by simp [isPlainName, hstart], .inl (by simpa using hne)⟩

theorem isForeign_of_last {q c : Char} {s : List Char} (hlast : s.getLast? = some c)
    (h : isNameChar c = false ∧ c ≠ q) : IsForeign q s := by
  refine ⟨isPlainName_eq_false_of_mem (List.mem_of_getLast? hlast) h.1, .inr ?_⟩
  rw [hlast]
  simpa using h.2

/-! ## Names as a dialect writes them -/

section

variable {d : Dialect} {q : Char} (hd : d.quote = some q)

include hd

theorem quoteName_ne {s : String} (hs : IsForeign q s.toList) (name : String) :
    quoteName d name ≠ s := by
  rintro rfl
  obtain ⟨hplain, hquotes⟩ := hs
  cases hname : isPlainName name.toList with
  | true =>
    rw [quoteName_of_plain hd hname, hname] at hplain
    cases hplain
  | false =>
    rw [toList_quoteName_of_not_plain hd hname, head_enclose, last_enclose] at hquotes
    exact hquotes.elim (absurd rfl) (absurd rfl)

variable (hq : isNameChar q = false)

include hq

theorem quoteName_eq_iff_of_plain {name word : String} (hword : isPlainName word.toList = true) :
    quoteName d name = word ↔ name = word := by
  have hsame := quoteName_of_plain hd hword
  rw [← hsame, (quoteName_injective hd hq).eq_iff, hsame]

end

/-! ## Literals and positions -/

/-- The word that a value is written as, where that is a keyword. -/
def keyword? : Value → Option String
  | .null => some "NULL"
  | .bool true => some "TRUE"
  | .bool false => some "FALSE"
  | .flag f => some f.keyword
  | _ => none

theorem literalText_of_keyword? {v : Value} {word : String} (h : keyword? v = some word)
    (type : SqlType) : literalText v type = word ∧ isPlainName word.toList = true := by
  match v with
  | .null | .bool true | .bool false =>
    cases h
    exact ⟨rfl, by decide⟩
  | .flag f =>
    cases h
    exact ⟨rfl, by cases f <;> decide⟩

/-- The characters that names are quoted with. -/
def IsNameQuote (q : Char) : Prop := q = '"' ∨ q = '\x60'

section

variable {q : Char} (hq : IsNameQuote q)

include hq

theorem IsNameQuote.isNameChar_eq_false : isNameChar q = false := by
  rcases hq with rfl | rfl <;> decide

theorem isForeign_int (i : Int) : IsForeign q (toString i).toList := by
  apply isForeign_of_head
  rw [Standard.toList_toString_int]
  intro c hc
  split at hc
  · have hdigit : c.isDigit = true :=
      Nat.isDigit_of_mem_toDigits (by decide) (by decide) (List.mem_of_mem_head? hc)
    refine ⟨isNameStart_of_isDigit hdigit, ?_⟩
    rintro rfl
    rcases hq with rfl | rfl <;> cases hdigit
  · cases hc
    rcases hq with rfl | rfl <;> decide

theorem isForeign_stringText (s : String) (name : TypeName) :
    IsForeign q (stringText s name).toList := by
  have hlast : (stringText s name).toList.getLast? = some '\'' := by
    unfold stringText quoteString
    split <;> simp [List.getLast?_append, List.getLast?_cons, last_enclose]
  exact isForeign_of_last hlast (by rcases hq with rfl | rfl <;> decide)

theorem isForeign_position (index : UInt64) :
    IsForeign q ("$" ++ toString index.toNat).toList := by
  apply isForeign_of_head
  rw [String.toList_append]
  intro c hc
  cases hc
  rcases hq with rfl | rfl <;> decide

theorem isForeign_literalText {v : Value} (hv : ∀ x, v ≠ .float x) (h : keyword? v = none)
    (type : SqlType) : IsForeign q (literalText v type).toList := by
  match v with
  | .null | .bool true | .bool false | .flag _ => cases h
  | .int i => exact isForeign_int hq i.toInt
  | .float x => exact absurd rfl (hv x)
  | .string s => exact isForeign_stringText hq s type.name

end

/-! ## Calls without operands -/

/-- Whether a call of this operator without operands is written as its name and nothing else. -/
def standsAlone (op : Operator) (left right : Nat) : Bool :=
  match op.form with
  | .functionId => true
  | .prefixOp | .postfixOp => !needsParens op.leftPrec op.rightPrec left right
  | _ => false

theorem render_niladic (d : Dialect) (op : Operator) (type : SqlType) :
    render d (.call op [] type) = byForm d (d.resolve op 0) [] := by
  have hspell : spell d (d.resolve op 0) [] [] = _ :=
    spell_of_no_trim (fun _ => by simp) []
  rw [render, renderAll, List.length_nil, hspell]
  split
  · next h => simp [byForm, h.2.1, function, substring, List.intercalate]
  · rfl

section

variable (d : Dialect) {op : Operator} {left right : Nat}

theorem byForm_of_standsAlone (h : standsAlone op left right = true) :
    byForm d op [] left right = [.word op.name] := by
  unfold standsAlone at h
  cases hform : op.form <;> simp_all [byForm, wrap, before, behind]

/-- Then its arguments or it itself are in parentheses, or it is a null test, or there is
nothing to write. -/
theorem byForm_of_not_standsAlone (h : standsAlone op left right = false) :
    (byForm d op [] left right).getLast? = some .close ∨
      byForm d op [] left right = [.word "0"] ∨ byForm d op [] left right = [] := by
  unfold standsAlone at h
  cases hform : op.form <;>
    simp_all [byForm, wrap, before, behind, between, function, substring, nullIndicator]
  cases needsParens op.leftPrec op.rightPrec left right <;> simp

end

theorem layout_word (w : String) : layout [.word w] = w := by
  simp [layout, layoutFrom, Step.chars]

theorem last_layout_of_close {steps : List Step} (h : steps.getLast? = some .close) :
    (layout steps).toList.getLast? = some ')' := by
  obtain ⟨before, rfl⟩ := List.getLast?_eq_some_iff.1 h
  simp [layout, layoutFrom_append, layoutFrom, Step.chars]

theorem text_of_standsAlone {d : Dialect} {op : Operator} {left right : Nat}
    (h : standsAlone (d.resolve op 0) left right = true) (type : SqlType) :
    text d (.call op [] type) left right = (d.resolve op 0).name := by
  rw [text, render_niladic, byForm_of_standsAlone d h, layout_word]

theorem isForeign_of_not_standsAlone {q : Char} (hq : IsNameQuote q) {d : Dialect} {op : Operator}
    {left right : Nat} (h : standsAlone (d.resolve op 0) left right = false) (type : SqlType) :
    IsForeign q (text d (.call op [] type) left right).toList := by
  rw [text, render_niladic]
  rcases byForm_of_not_standsAlone d h with hclose | hzero | hnil
  · apply isForeign_of_last (last_layout_of_close hclose)
    rcases hq with rfl | rfl <;> decide
  · rw [hzero, layout_word]
    apply isForeign_of_head
    rintro c ⟨⟩
    rcases hq with rfl | rfl <;> decide
  · rw [hnil]
    exact isForeign_of_head (by simp [layout, layoutFrom])

/-! ## Columns -/

theorem text_column (d : Dialect) (index : UInt64) (name : String) (type : SqlType)
    (left right : Nat) : text d (.input index (some name) type) left right = quoteName d name :=
  layout_word _

section

variable {d : Dialect} {q : Char} (hd : d.quote = some q) (hq : IsNameQuote q)

include hd hq

theorem quoteName_eq_literalText_iff {v : Value} (hv : ∀ x, v ≠ .float x) (type : SqlType)
    (name : String) : quoteName d name = literalText v type ↔ keyword? v = some name := by
  cases hword : keyword? v with
  | none => simpa using quoteName_ne hd (isForeign_literalText hq hv hword type) name
  | some word =>
    obtain ⟨htext, hplain⟩ := literalText_of_keyword? hword type
    rw [htext, quoteName_eq_iff_of_plain hd hq.isNameChar_eq_false hplain, Option.some_inj, eq_comm]

theorem quoteName_eq_niladic_iff (op : Operator) (type : SqlType) (left right : Nat)
    (name : String) :
    quoteName d name = text d (.call op [] type) left right ↔
      standsAlone (d.resolve op 0) left right = true ∧
        (d.resolve op 0).name = quoteName d name := by
  cases h : standsAlone (d.resolve op 0) left right with
  | true =>
    rw [text_of_standsAlone h]
    simp [eq_comm]
  | false => simpa using quoteName_ne hd (isForeign_of_not_standsAlone hq h type) name

end

/-- A column is written like a value that is a keyword, or like a call that is a word, if that
is its name, and like nothing else. -/
theorem text_column_eq_iff {d : Dialect} (hd : d.quote = some '"' ∨ d.quote = some '\x60')
    (index : UInt64) (name : String) (type : SqlType) (left right left' right' : Nat) :
    (∀ v vtype, (∀ x, v ≠ .float x) →
      (text d (.input index (some name) type) left right = text d (.literal v vtype) left' right' ↔
        keyword? v = some name)) ∧
    (∀ other otype, text d (.input index (some name) type) left right ≠
      text d (.input other none otype) left' right') ∧
    (∀ ptype, text d (.input index (some name) type) left right =
        text d (.call Catalog.pi [] ptype) left' right' ↔
      standsAlone (d.resolve Catalog.pi 0) left' right' = true ∧
        (d.resolve Catalog.pi 0).name = quoteName d name) ∧
    (d.overrideOf? Catalog.pi.id = none →
      ∀ ptype, text d (.input index (some name) type) left right =
        text d (.call Catalog.pi [] ptype) left' right' ↔ name = "PI") ∧
    (∀ other oname otype, text d (.input index (some name) type) left right =
        text d (.input other (some oname) otype) left' right' ↔ name = oname) := by
  obtain ⟨q, hd, hq⟩ : ∃ q, d.quote = some q ∧ IsNameQuote q := by
    rcases hd with hd | hd
    · exact ⟨_, hd, .inl rfl⟩
    · exact ⟨_, hd, .inr rfl⟩
  have hname := hq.isNameChar_eq_false
  simp only [text_column]
  refine ⟨fun v vtype hv => ?_, fun other otype => ?_, fun ptype => ?_, fun hpi ptype => ?_,
    fun other oname otype => (quoteName_injective hd hname).eq_iff⟩
  · rw [text, render, layout_word]
    exact quoteName_eq_literalText_iff hd hq hv vtype name
  · rw [text, render, layout_word]
    exact quoteName_ne hd (isForeign_position hq other) name
  · exact quoteName_eq_niladic_iff hd hq Catalog.pi ptype left' right' name
  · have halone : standsAlone (d.resolve Catalog.pi 0) left' right' = true := by
      rw [Dialect.resolve_of_overrideOf?_eq_none hpi]
      rfl
    rw [text_of_standsAlone halone, Dialect.resolve_of_overrideOf?_eq_none hpi]
    have hword : isPlainName "PI".toList = true := by decide
    exact quoteName_eq_iff_of_plain hd hname hword

namespace Reserved

/-- A column with the name of a trim flag. -/
def sides : Node := .input 0 (some "BOTH") (.orNull .varchar)

theorem text_of_sides :
    (Dialect.ansi.quote = some '"' ∨ Dialect.ansi.quote = some '\x60') ∧
      text .ansi sides = text .ansi (.literal (.flag .both) (.notNull .symbol)) ∧
      text .ansi sides ≠ text .ansi (.literal (.string "BOTH") (.notNull .varchar)) ∧
      text .ansi sides ≠ text .ansi (.input 0 none (.orNull .varchar)) ∧
      Dialect.ansi.overrideOf? Catalog.pi.id = none ∧
      text .ansi sides ≠ text .ansi (.call Catalog.pi [] (.notNull .double)) ∧
      text .ansi sides ≠ text .ansi (.input 0 (some "both") (.orNull .varchar)) := by
  obtain ⟨hliteral, hposition, -, hpi, hname⟩ :=
    text_column_eq_iff (d := .ansi) (.inl rfl) 0 "BOTH" (.orNull .varchar) 0 0 0 0
  exact ⟨.inl rfl,
    (hliteral (.flag .both) (.notNull .symbol) fun _ h => by cases h).2 rfl,
    fun h => absurd ((hliteral (.string "BOTH") (.notNull .varchar) fun _ h => by cases h).1 h)
      (by decide),
    hposition 0 _, rfl,
    fun h => absurd ((hpi rfl _).1 h) (by decide),
    fun h => absurd ((hname 0 "both" _).1 h) (by decide)⟩

/-- A column named `NULL` reads as null, one named `PI` as the number. -/
theorem mistaken_for_constants :
    Dialect.ansi.quote = some '"' ∧
      text .ansi (.input 0 (some "NULL") (.orNull .integer)) =
        text .ansi (.literal .null (.orNull .integer)) ∧
      text .ansi (.input 0 (some "TRUE") (.orNull .boolean)) =
        text .ansi (.literal (.bool true) (.notNull .boolean)) ∧
      text .ansi (.input 0 (some "PI") (.orNull .double)) =
        text .ansi (.call Catalog.pi [] (.notNull .double)) := by
  decide

end Reserved

end RowExpr.Sql
