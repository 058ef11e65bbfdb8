import RowExpr.Proofs.Sql.CatalogGrammar

/-!
# Tokens of steps

No step runs into the next one: a text of steps is split step by step. What leaves and the
names of standard operators are split into is known.
-/

namespace RowExpr.Sql

def Step.token : Step → Token
  | word text => .word text
  | comma => .comma
  | paren => .opening
  | call name => .call name
  | close => .closing

theorem Step.token_injective : Function.Injective Step.token := by
  intro s t h
  cases s <;> cases t <;> simp_all [Step.token]

inductive Spelled (x : Lexicon) : Step → List Token → Prop
  | word {text : String} {ts : List Token} :
    x.Splits text.toList ts → Spelled x (.word text) ts
  | comma : Spelled x .comma [.comma]
  | paren : Spelled x .paren [.opening]
  | call {name : String} : x.IsWord name.toList → Spelled x (.call name) [.call name]
  | close : Spelled x .close [.closing]

inductive SpelledAll (x : Lexicon) : List Step → List Token → Prop
  | nil : SpelledAll x [] []
  | cons {s : Step} {rest : List Step} {ts us : List Token} :
    Spelled x s ts → SpelledAll x rest us → SpelledAll x (s :: rest) (ts ++ us)

section

variable {x : Lexicon}

/-- Behind a word, every step begins where a word may end. -/
theorem stops_layoutFrom {steps : List Step} (hx : .comma ∈ steps → x.commas = true) :
    x.Stops (layoutFrom true steps) := by
  cases steps with
  | nil => simp [layoutFrom, Lexicon.Stops]
  | cons s rest =>
    cases s with
    | comma =>
      rintro c ⟨⟩
      simp [Lexicon.delimits, hx List.mem_cons_self]
    | close => exact x.stops_close _
    | word | paren | call => exact x.stops_space _

theorem tokens_layoutFrom_cons {s : Step} {ts : List Token} {rest : List Step}
    (hx : .comma ∈ s :: rest → x.commas = true) (hs : Spelled x s ts) (spaced : Bool) :
    tokens x (layoutFrom spaced (s :: rest)) =
      (tokens x (layoutFrom s.spaces rest)).map (ts ++ ·) := by
  -- A space in front of the step is passed over.
  have htight : tokens x (layoutFrom spaced (s :: rest)) =
      tokens x (layoutFrom false (s :: rest)) := by
    cases spaced <;> cases s <;> simp [layoutFrom, Step.chars]
  rw [htight, layoutFrom]
  cases hs with
  | word h => exact h _ (stops_layoutFrom fun h => hx (List.mem_cons_of_mem _ h))
  | comma => exact tokens_comma (hx List.mem_cons_self) _
  | paren => exact tokens_opening _
  | close => exact tokens_closing _
  | @call name h =>
    have hcall := tokens_call h (layoutFrom false rest)
    rw [String.ofList_toList] at hcall
    simpa [Step.chars, Step.spaces] using hcall

theorem SpelledAll.append {as bs : List Step} {ts us : List Token} (ha : SpelledAll x as ts)
    (hb : SpelledAll x bs us) : SpelledAll x (as ++ bs) (ts ++ us) := by
  induction ha with
  | nil => exact hb
  | @cons s rest ts' us' hs _ ih =>
    rw [List.append_assoc]
    exact .cons hs ih

theorem SpelledAll.tokens_layoutFrom {steps : List Step} {ts : List Token}
    (h : SpelledAll x steps ts) (hx : .comma ∈ steps → x.commas = true) (spaced : Bool) :
    tokens x (layoutFrom spaced steps) = some ts := by
  induction h generalizing spaced with
  | nil => exact tokens_nil
  | @cons s rest ts us hs _ ih =>
    rw [tokens_layoutFrom_cons hx hs, ih fun h => hx (List.mem_cons_of_mem s h)]
    rfl

theorem spelledAll_token {steps : List Step} (h : ∀ s ∈ steps, Spelled x s [s.token]) :
    SpelledAll x steps (steps.map Step.token) := by
  induction steps with
  | nil => exact .nil
  | cons s rest ih =>
    rw [List.forall_mem_cons] at h
    exact .cons h.1 (ih h.2)

end

/-! ## Leaves -/

namespace Standard

theorem splits_stringText (name : TypeName) :
    ∃ ts, ∀ s, grammar.lexicon.Splits (stringText s name).toList (ts ++ [.quoted '\'' s]) := by
  unfold stringText
  split
  · next hdatetime =>
    refine ⟨[.word name.text], fun s => splits_datetime ?_ s⟩
    cases name <;> simp [TypeName.isDatetime] at hdatetime <;> decide
  · refine ⟨[], fun s => ?_⟩
    simpa [quoteString] using splits_quoted (by decide) s

theorem splits_quoteName {d : Dialect} (hd : d.quote = some '"' ∨ d.quote = some '\x60')
    (name : String) : ∃ ts, grammar.lexicon.Splits (quoteName d name).toList ts := by
  obtain ⟨q, hq, hmem⟩ : ∃ q, d.quote = some q ∧ q ∈ grammar.lexicon.quotes := by
    rcases hd with hd | hd <;> exact ⟨_, hd, by decide⟩
  rw [quoteName, hq]
  split
  · cases ‹some q = none›
  · next hsome =>
    cases hsome
    split
    · next hplain =>
      exact ⟨_, splits_word (isWord_of_isPlainName (fun q hq => (delimits_of_mem_quotes hq).2)
        hplain)⟩
    · rw [String.toList_ofList]
      exact ⟨_, splits_quoted hmem name⟩

/-! ## Numbers -/

theorem splits_number {s : List Char} (hs : ∀ c ∈ s, IsNumberChar c) :
    ∃ ts, grammar.lexicon.Splits s ts := by
  by_cases hne : s = []
  · subst hne
    exact ⟨[], fun rest _ => by simp⟩
  · have hword := isWord_of_forall hne hs
    rw [← String.toList_ofList (l := s)] at hword ⊢
    exact ⟨_, splits_word hword⟩

section

variable {digits : List Char} (hdigits : ∀ c ∈ digits, IsNumberChar c) (places : Int)
include hdigits

theorem isNumberChar_positionalText (keepsPoint : Bool) :
    ∀ c ∈ Decimal.positionalText keepsPoint digits places, IsNumberChar c := by
  have hzero : IsNumberChar '0' := by decide
  have hpoint : IsNumberChar '.' := by decide
  have hzeros : ∀ n, ∀ c ∈ Decimal.zeros n, IsNumberChar c := fun n c hc =>
    List.eq_of_mem_replicate hc ▸ hzero
  unfold Decimal.positionalText
  split
  · simp only [List.forall_mem_cons, List.forall_mem_append]
    exact ⟨hzero, hpoint, hzeros _, hdigits⟩
  split
  · simp only [List.forall_mem_append]
    refine ⟨⟨hdigits, hzeros _⟩, ?_⟩
    cases keepsPoint <;> simp [hzero, hpoint]
  · simp only [List.forall_mem_cons, List.forall_mem_append]
    exact ⟨fun c hc => hdigits c (List.mem_of_mem_take hc), hpoint,
      fun c hc => hdigits c (List.mem_of_mem_drop hc)⟩

theorem isNumberChar_exponentText :
    ∀ c ∈ Decimal.exponentText false digits places, IsNumberChar c := by
  have hpoint : IsNumberChar '.' := by decide
  have hexponent : IsNumberChar 'e' := by decide
  unfold Decimal.exponentText
  simp only [List.forall_mem_cons, List.forall_mem_append]
  refine ⟨?_, hexponent, by simp, fun _ => isNumberChar_of_mem_int⟩
  split
  · simp
  · exact hdigits
  · rw [List.forall_mem_cons] at hdigits
    simpa [hpoint] using hdigits

end

theorem isNumberChar_magnitude (b : Decimal.Binary) :
    ∀ c ∈ Decimal.Layout.sql.magnitude b, IsNumberChar c := by
  unfold Decimal.Layout.magnitude
  split
  · have hzero : IsNumberChar '0' ∧ IsNumberChar '.' := by decide
    simp [Decimal.Layout.sql, hzero]
  · have hdigits : ∀ c ∈ Nat.toDigits 10 (b.shortest Decimal.Layout.sql.tie).digits,
        IsNumberChar c := fun c => isNumberChar_of_mem_toDigits
    dsimp only
    split
    · exact isNumberChar_positionalText hdigits _ _
    · exact isNumberChar_exponentText hdigits _

theorem splits_call {name : String} (hname : grammar.lexicon.IsWord name.toList)
    {s : List Char} {ts : List Token} (hs : grammar.lexicon.Splits s ts) :
    grammar.lexicon.Splits (name.toList ++ '(' :: s ++ [')']) (.call name :: ts ++ [.closing]) := by
  intro rest _
  have hcall := tokens_call hname (s ++ ')' :: rest)
  rw [hs _ (Lexicon.stops_close _ rest), tokens_closing, Option.map_map, Option.map_map,
    String.ofList_toList] at hcall
  simpa [Function.comp_def] using hcall

theorem splits_cast (name : String) :
    ∃ ts, grammar.lexicon.Splits ("CAST(" ++ quoteString name ++ " AS DOUBLE)").toList ts := by
  have hcast : grammar.lexicon.IsWord "CAST".toList := by decide
  have hquoted := splits_quoted (q := '\'') (by decide) name
  have hwords : ∀ w ∈ ["AS", "DOUBLE"], grammar.lexicon.IsWord w.toList := by decide
  have hsplits := splits_call hcast (hquoted.spaced (splits_words hwords (by decide)))
  have htext : ("CAST(" ++ quoteString name ++ " AS DOUBLE)").toList =
      "CAST".toList ++ '(' :: (enclose '\'' name.toList
        ++ ' ' :: [' '].intercalate (["AS", "DOUBLE"].map String.toList)) ++ [')'] := by
    simp [quoteString, List.intercalate, List.intersperse]
  rw [htext]
  exact ⟨_, hsplits⟩

theorem splits_floatText (x : Float) :
    ∃ ts, grammar.lexicon.Splits (floatText x).toList ts := by
  unfold floatText
  split
  · exact splits_cast "NaN"
  · exact splits_cast "Infinity"
  · exact splits_cast "-Infinity"
  · next b hb =>
    rw [Decimal.Layout.write, hb, String.toList_ofList]
    apply splits_number
    split
    · exact List.forall_mem_cons.2 ⟨by decide, isNumberChar_magnitude b⟩
    · exact isNumberChar_magnitude b

/-! ## Words of an expression -/

theorem splits_literalText (v : Value) (type : SqlType) :
    ∃ ts, grammar.lexicon.Splits (literalText v type).toList ts := by
  match v with
  | .null => exact ⟨_, splits_word (w := "NULL") (by decide)⟩
  | .bool true => exact ⟨_, splits_word (w := "TRUE") (by decide)⟩
  | .bool false => exact ⟨_, splits_word (w := "FALSE") (by decide)⟩
  | .int i => exact ⟨_, splits_word (isWord_int _)⟩
  | .float x => exact splits_floatText x
  | .flag f =>
    have hword : grammar.lexicon.IsWord f.keyword.toList := by cases f <;> decide
    exact ⟨_, splits_word hword⟩
  | .string s =>
    obtain ⟨ts, hsplits⟩ := splits_stringText type.name
    exact ⟨_, hsplits s⟩

theorem splits_inputText {d : Dialect} (hd : d.quote = some '"' ∨ d.quote = some '\x60')
    (index : UInt64) (name : Option String) :
    ∃ ts, grammar.lexicon.Splits (inputText d index name).toList ts := by
  cases name with
  | some name => exact splits_quoteName hd name
  | none => exact ⟨_, splits_word (isWord_position index)⟩

theorem splits_operatorName {op : Operator} (hop : op ∈ Catalog.all) :
    ∃ ts, grammar.lexicon.Splits op.name.toList ts := by
  have hname : ∀ op ∈ Catalog.all, op.name = "IS NULL" ∨ op.name = "IS NOT NULL" ∨
      grammar.lexicon.IsWord op.name.toList := by decide
  have hnull : ∀ w ∈ ["IS", "NULL"], grammar.lexicon.IsWord w.toList := by decide
  have hnotNull : ∀ w ∈ ["IS", "NOT", "NULL"], grammar.lexicon.IsWord w.toList := by decide
  rcases hname op hop with h | h | h
  · rw [h]
    exact ⟨_, splits_words hnull (by decide)⟩
  · rw [h]
    exact ⟨_, splits_words hnotNull (by decide)⟩
  · exact ⟨_, splits_word h⟩

end Standard

end RowExpr.Sql
