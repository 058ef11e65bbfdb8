import RowExpr.Sql.Name
import RowExpr.Sql.Step

/-!
# Tokens

Text is split into words, quoted tokens, commas and parentheses. A word that stands directly
before a parenthesis is the name of a function. What the steps of a text are split into is
given step by step.
-/

namespace RowExpr.Sql

inductive Token
  | word (text : String)
  | quoted (quote : Char) (text : String)
  | call (name : String)
  | comma
  | opening
  | closing
  deriving DecidableEq, Repr

/-- What counts as a token besides words and parentheses. -/
structure Lexicon where
  /-- Characters that stand around a quoted token, and are written twice inside it. -/
  quotes : List Char
  commas : Bool

namespace Lexicon

def delimits (x : Lexicon) (c : Char) : Bool :=
  Text.isBlank c || c == '(' || c == ')' || (x.commas && c == ',')

/-- Whether a word ends before this text, without a parenthesis directly behind it. -/
def Stops (x : Lexicon) (rest : List Char) : Prop :=
  ∀ c ∈ rest.head?, x.delimits c = true ∧ c ≠ '('

theorem stops_space (x : Lexicon) (rest : List Char) : x.Stops (' ' :: rest) := by
  rintro c ⟨⟩
  simp [delimits, show Text.isBlank ' ' = true by decide]

theorem stops_close (x : Lexicon) (rest : List Char) : x.Stops (')' :: rest) := by
  rintro c ⟨⟩
  simp [delimits]

/-- A word: it holds nothing that ends one, and begins with no quote. -/
structure IsWord (x : Lexicon) (s : List Char) : Prop where
  ne_nil : s ≠ []
  inside : ∀ c ∈ s, x.delimits c = false
  unquoted : ∀ c ∈ s.head?, c ∉ x.quotes

theorem isWord_iff (x : Lexicon) (s : List Char) :
    x.IsWord s ↔ s ≠ [] ∧ s.all (!x.delimits ·) = true ∧ s.head?.all (!x.quotes.contains ·) := by
  have hquotes : s.head?.all (!x.quotes.contains ·) = true ↔ ∀ c ∈ s.head?, c ∉ x.quotes := by
    cases s <;> simp
  have hinside : s.all (!x.delimits ·) = true ↔ ∀ c ∈ s, x.delimits c = false := by
    simp
  rw [hquotes, hinside]
  exact ⟨fun ⟨h1, h2, h3⟩ => ⟨h1, h2, h3⟩, fun ⟨h1, h2, h3⟩ => ⟨h1, h2, h3⟩⟩

-- By `all`, and not by a quantifier, which might be decided by going through every character.
instance (x : Lexicon) (s : List Char) : Decidable (x.IsWord s) :=
  decidable_of_iff _ (isWord_iff x s).symm

end Lexicon

/-! ## Plain names -/

theorem isNameChar_of_isNameStart {c : Char} (h : isNameStart c = true) : isNameChar c = true := by
  simp only [isNameStart, isNameChar, Char.isAlphanum, Bool.or_eq_true] at h ⊢
  rcases h with h | h
  · exact .inl (.inl h)
  · exact .inr h

theorem isNameChar_of_isPlainName {s : List Char} (h : isPlainName s = true) :
    ∀ c ∈ s, isNameChar c = true := by
  cases s with
  | nil => simp
  | cons d rest =>
    simp only [isPlainName, Bool.and_eq_true, List.all_eq_true] at h
    intro c hc
    rcases List.mem_cons.1 hc with rfl | hc
    · exact isNameChar_of_isNameStart h.1
    · exact h.2 c hc

theorem toNat_of_isAlpha {c : Char} (h : c.isAlpha = true) :
    65 ≤ c.toNat ∧ c.toNat ≤ 90 ∨ 97 ≤ c.toNat ∧ c.toNat ≤ 122 := by
  have h : (decide (c.val ≥ 65 ∧ c.val ≤ 90) || (decide (c.val ≥ 97) && decide (c.val ≤ 122))) =
      true := h
  simp only [Bool.or_eq_true, Bool.and_eq_true, decide_eq_true_eq, ge_iff_le,
    UInt32.le_iff_toNat_le] at h
  exact h

theorem isNameStart_of_isDigit {c : Char} (h : c.isDigit = true) : isNameStart c = false := by
  have hrange : 48 ≤ c.toNat ∧ c.toNat ≤ 57 := Char.isDigit_iff_toNat.1 h
  rw [Bool.eq_false_iff]
  intro hstart
  simp only [isNameStart, Bool.or_eq_true, beq_iff_eq] at hstart
  rcases hstart with hstart | rfl
  · have := toNat_of_isAlpha hstart
    omega
  · cases h

theorem toNat_of_isNameChar {c : Char} (h : isNameChar c = true) :
    48 ≤ c.toNat ∧ c.toNat ≤ 122 := by
  simp only [isNameChar, Char.isAlphanum, Bool.or_eq_true, beq_iff_eq] at h
  rcases h with (h | h) | rfl
  · have := toNat_of_isAlpha h
    omega
  · have hdigit : 48 ≤ c.toNat ∧ c.toNat ≤ 57 := Char.isDigit_iff_toNat.1 h
    omega
  · decide

theorem delimits_of_isNameChar (x : Lexicon) {c : Char} (h : isNameChar c = true) :
    x.delimits c = false := by
  have hrange := toNat_of_isNameChar h
  have hblank : Text.isBlank c = false := Text.isBlank_of_visible (by omega)
  have hne : c ≠ '(' ∧ c ≠ ')' ∧ c ≠ ',' := by
    refine ⟨?_, ?_, ?_⟩ <;> rintro rfl <;> simp at hrange
  simp [Lexicon.delimits, hblank, hne]

theorem isWord_of_isPlainName {x : Lexicon} (hx : ∀ q ∈ x.quotes, isNameChar q = false)
    {s : List Char} (h : isPlainName s = true) : x.IsWord s where
  ne_nil := by
    rintro rfl
    simp [isPlainName] at h
  inside c hc := delimits_of_isNameChar x (isNameChar_of_isPlainName h c hc)
  unquoted c hc hq := by
    have := hx c hq
    simp [isNameChar_of_isPlainName h c (List.mem_of_mem_head? hc)] at this

/-! ## Quoted tokens -/

/-- The content of a quoted token, whose opening quote has been read, and the text behind the
closing quote: the first that is not doubled. -/
def unquote (q : Char) : List Char → Option (List Char × List Char)
  | [] => none
  | [c] => if c = q then some ([], []) else none
  | c :: d :: rest =>
    if c ≠ q then (unquote q (d :: rest)).map fun r => (c :: r.1, r.2)
    else if d = q then (unquote q rest).map fun r => (q :: r.1, r.2)
    else some ([], d :: rest)

theorem length_lt_of_unquote {q : Char} {s t rest : List Char}
    (h : unquote q s = some (t, rest)) : rest.length < s.length := by
  induction s using unquote.induct q generalizing t with
  | case1 => simp [unquote] at h
  | case2 => simp [unquote] at h; simp [← h.2]
  | case3 c hc => simp [unquote, hc] at h
  | case4 c d more hc ih =>
    simp only [unquote, if_pos hc, Option.map_eq_some_iff, Prod.mk.injEq] at h
    obtain ⟨r, hr, -, rfl⟩ := h
    have := ih hr
    simp only [List.length_cons] at this ⊢
    omega
  | case5 c more hc ih =>
    simp only [unquote, if_neg hc, if_true, Option.map_eq_some_iff, Prod.mk.injEq] at h
    obtain ⟨r, hr, -, rfl⟩ := h
    have := ih hr
    simp only [List.length_cons]
    omega
  | case6 c d more hc hd =>
    simp only [unquote, if_neg hc, if_neg hd, Option.some.injEq, Prod.mk.injEq] at h
    simp [← h.2]

theorem unquote_double {q : Char} {rest : List Char} (h : rest.head? ≠ some q) (s : List Char) :
    unquote q (double q s ++ q :: rest) = some (s, rest) := by
  induction s with
  | nil =>
    cases rest with
    | nil => simp [double, unquote]
    | cons c more =>
      have hc : c ≠ q := by simpa using h
      simp [double, unquote, hc]
  | cons c more ih =>
    have hne : double q more ++ q :: rest ≠ [] := by simp
    by_cases hc : c = q
    · subst hc
      rw [show double c (c :: more) = c :: c :: double c more by simp [double]]
      simp [unquote, ih]
    · rw [show double q (c :: more) = c :: double q more by simp [double, hc]]
      obtain ⟨d, tail, hd⟩ := List.exists_cons_of_ne_nil hne
      rw [List.cons_append, hd, unquote, if_pos hc, ← hd, ih]
      rfl

/-! ## Splitting -/

/-- A word ends where the first character stands that ends it. -/
theorem takeWhile_word {ends : Char → Bool} {s rest : List Char} (hs : ∀ c ∈ s, ends c = false)
    (hrest : ∀ c ∈ rest.head?, ends c = true) :
    (s ++ rest).takeWhile (!ends ·) = s ∧ (s ++ rest).dropWhile (!ends ·) = rest := by
  have hs : ∀ c ∈ s, (!ends c) = true := by simpa using hs
  rw [List.takeWhile_append_of_pos hs, List.dropWhile_append_of_pos hs]
  cases rest with
  | nil => simp
  | cons c more => simp [hrest c rfl]

/-- The tokens of a text; none if a quoted token does not end. -/
def tokens (x : Lexicon) (s : List Char) : Option (List Token) :=
  match s with
  | [] => some []
  | c :: rest =>
    if Text.isBlank c then tokens x rest
    else if c = '(' then (tokens x rest).map (.opening :: ·)
    else if c = ')' then (tokens x rest).map (.closing :: ·)
    else if x.commas && c = ',' then (tokens x rest).map (.comma :: ·)
    else if c ∈ x.quotes then
      match _ : unquote c rest with
      | some (t, more) => (tokens x more).map (.quoted c (String.ofList t) :: ·)
      | none => none
    else
      let word := String.ofList (c :: rest.takeWhile (!x.delimits ·))
      let behind := rest.dropWhile (!x.delimits ·)
      if behind.head? = some '(' then (tokens x behind.tail).map (.call word :: ·)
      else (tokens x behind).map (.word word :: ·)
termination_by s.length
decreasing_by
  all_goals simp only [List.length_cons]
  all_goals try omega
  · have := length_lt_of_unquote ‹_›
    omega
  all_goals
    have := (List.dropWhile_suffix (!x.delimits ·) (l := rest)).length_le
    try rw [List.length_tail]
    omega

section

variable {x : Lexicon}

@[simp] theorem tokens_nil : tokens x [] = some [] := by
  rw [tokens]

theorem tokens_blank {c : Char} (h : Text.isBlank c = true) (rest : List Char) :
    tokens x (c :: rest) = tokens x rest := by
  rw [tokens, if_pos h]

@[simp] theorem tokens_space (rest : List Char) : tokens x (' ' :: rest) = tokens x rest :=
  tokens_blank (by decide) rest

theorem tokens_opening (rest : List Char) :
    tokens x ('(' :: rest) = (tokens x rest).map (.opening :: ·) := by
  rw [tokens, if_neg (by decide), if_pos rfl]

theorem tokens_closing (rest : List Char) :
    tokens x (')' :: rest) = (tokens x rest).map (.closing :: ·) := by
  rw [tokens, if_neg (by decide), if_neg (by decide), if_pos rfl]

theorem tokens_comma (hx : x.commas = true) (rest : List Char) :
    tokens x (',' :: rest) = (tokens x rest).map (.comma :: ·) := by
  rw [tokens, if_neg (by decide), if_neg (by decide), if_neg (by decide), if_pos (by simp [hx])]

theorem not_delimits_iff {c : Char} :
    x.delimits c = false ↔
      Text.isBlank c = false ∧ c ≠ '(' ∧ c ≠ ')' ∧ (x.commas && c == ',') = false := by
  simp [Lexicon.delimits, and_assoc]

theorem tokens_quoted {q : Char} (hq : q ∈ x.quotes) (hd : x.delimits q = false)
    {rest : List Char} (hrest : rest.head? ≠ some q) (s : List Char) :
    tokens x (enclose q s ++ rest) = (tokens x rest).map (.quoted q (String.ofList s) :: ·) := by
  obtain ⟨h1, h2, h3, h4⟩ := not_delimits_iff.1 hd
  have hu := unquote_double hrest s
  rw [show enclose q s ++ rest = q :: (double q s ++ q :: rest) by simp [enclose], tokens]
  simp only [h1, h2, h3, hq, if_true, if_false, Bool.false_eq_true]
  rw [if_neg (by simpa using h4)]
  split
  · next hr =>
    rw [hu] at hr
    cases hr
    rfl
  · next hr =>
    rw [hu] at hr
    cases hr

theorem tokens_cons_word {s : List Char} (hs : x.IsWord s) {rest : List Char}
    (hrest : ∀ c ∈ rest.head?, x.delimits c = true) :
    tokens x (s ++ rest) =
      if rest.head? = some '(' then (tokens x rest.tail).map (.call (String.ofList s) :: ·)
      else (tokens x rest).map (.word (String.ofList s) :: ·) := by
  obtain ⟨c, tail, rfl⟩ := List.exists_cons_of_ne_nil hs.ne_nil
  obtain ⟨h1, h2, h3, h4⟩ := not_delimits_iff.1 (hs.inside c List.mem_cons_self)
  have hq : c ∉ x.quotes := hs.unquoted c rfl
  obtain ⟨htake, hdrop⟩ := takeWhile_word (fun d hd => hs.inside d (List.mem_cons_of_mem c hd)) hrest
  rw [List.cons_append, tokens]
  simp only [h1, h2, h3, hq, if_false, Bool.false_eq_true]
  rw [if_neg (by simpa using h4), htake, hdrop]

theorem tokens_word {s : List Char} (hs : x.IsWord s) {rest : List Char} (hrest : x.Stops rest) :
    tokens x (s ++ rest) = (tokens x rest).map (.word (String.ofList s) :: ·) := by
  rw [tokens_cons_word hs fun c hc => (hrest c hc).1, if_neg]
  intro h
  exact (hrest '(' h).2 rfl

theorem tokens_call {s : List Char} (hs : x.IsWord s) (rest : List Char) :
    tokens x (s ++ '(' :: rest) = (tokens x rest).map (.call (String.ofList s) :: ·) := by
  rw [tokens_cons_word hs (by simp [Lexicon.delimits])]
  simp

end

/-! ## Texts in front of others -/

/-- Wherever a word may end behind it, this text is split into these tokens. -/
def Lexicon.Splits (x : Lexicon) (s : List Char) (ts : List Token) : Prop :=
  ∀ rest, x.Stops rest → tokens x (s ++ rest) = (tokens x rest).map (ts ++ ·)

section

variable {x : Lexicon}

theorem splits_word {w : String} (hw : x.IsWord w.toList) : x.Splits w.toList [.word w] := by
  intro rest hrest
  rw [tokens_word hw hrest, String.ofList_toList]
  rfl

theorem Lexicon.Splits.spaced {s t : List Char} {ts us : List Token} (hs : x.Splits s ts)
    (ht : x.Splits t us) : x.Splits (s ++ ' ' :: t) (ts ++ us) := by
  intro rest hrest
  rw [List.append_assoc, List.cons_append, hs _ (x.stops_space _), tokens_space, ht rest hrest,
    Option.map_map]
  simp [Function.comp_def]

theorem splits_words {ws : List String} (hws : ∀ w ∈ ws, x.IsWord w.toList) (hne : ws ≠ []) :
    x.Splits ([' '].intercalate (ws.map String.toList)) (ws.map .word) := by
  induction ws with
  | nil => exact absurd rfl hne
  | cons w more ih =>
    have hw := splits_word (hws w List.mem_cons_self)
    cases more with
    | nil => simpa [List.intercalate] using hw
    | cons w' more =>
      have hmore := ih (fun v hv => hws v (List.mem_cons_of_mem w hv)) (by simp)
      simpa [List.intercalate, List.intersperse] using hw.spaced hmore

end

end RowExpr.Sql
