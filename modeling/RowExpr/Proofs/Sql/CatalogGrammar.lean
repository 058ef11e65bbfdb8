import RowExpr.Proofs.Sql.Arguments

/-!
# The grammar of the standard operators

Words are numbers, positions, keywords and names. Some words make a phrase with what follows
them. Operators are known from the catalog.
-/

namespace RowExpr.Sql.Standard

/-! ## Numbers -/

def natural? (digits : List Char) : Option Nat :=
  if digits ≠ [] ∧ digits.all Char.isDigit = true then some (Nat.ofDigitChars 10 digits 0)
  else none

/-- Digits, perhaps behind a minus that touches them. -/
def integer? : List Char → Option Int64
  | '-' :: digits => (natural? digits).map fun n : Nat => .ofInt (-n)
  | digits => (natural? digits).map fun n : Nat => .ofInt n

def position? : List Char → Option UInt64
  | '$' :: digits => (natural? digits).map .ofNat
  | _ => none

theorem natural?_toDigits (n : Nat) : natural? (Nat.toDigits 10 n) = some n := by
  have hdigits : (Nat.toDigits 10 n).all Char.isDigit = true := by
    rw [List.all_eq_true]
    exact fun c hc => Nat.isDigit_of_mem_toDigits (by decide) (by decide) hc
  simp [natural?, hdigits]

theorem integer?_of_natural? {digits : List Char} {n : Nat} (h : natural? digits = some n) :
    integer? digits = some (.ofInt n) := by
  unfold integer?
  split
  · simp [natural?] at h
  · simp [h]

theorem toList_toString_int (i : Int) :
    (toString i).toList =
      if 0 ≤ i then Nat.toDigits 10 i.toNat else '-' :: Nat.toDigits 10 (-i).toNat := by
  cases i with
  | ofNat n => simp [toString, Int.repr]
  | negSucc n =>
    rw [if_neg (by omega)]
    simp [toString, Int.repr, Int.negSucc_eq]

theorem integer?_toString (i : Int64) : integer? (toString i.toInt).toList = some i := by
  rw [toList_toString_int]
  split
  · next h =>
    rw [integer?_of_natural? (natural?_toDigits _), Int.toNat_of_nonneg h, Int64.ofInt_toInt]
  · next h =>
    have hneg : -((-i.toInt).toNat : Int) = i.toInt := by omega
    rw [integer?, natural?_toDigits, Option.map_some, hneg, Int64.ofInt_toInt]

theorem position?_toString (index : UInt64) :
    position? ('$' :: (toString index.toNat).toList) = some index := by
  simp [position?, natural?_toDigits]

/-! ## Words -/

/-- Words with one meaning wherever they stand. -/
def keywords : List (String × Symbol) :=
  [("NULL", .operand (.literal .null)), ("TRUE", .operand (.literal (.bool true))),
   ("FALSE", .operand (.literal (.bool false))), ("PI", .operand (Catalog.pi.outline [])),
   ("FROM", .mark .fromWord), ("FOR", .mark .forWord)]
    ++ TrimFlag.all.map (fun f => (f.keyword, .operand (.literal (.flag f))))
    ++ (Catalog.all.filter isSign).map fun op => (op.name, .sign op.name)

def phraseHeads : List String := ["IS", "CASE", "THEN", "DATE", "TIME", "TIMESTAMP"]

/-- Words that no column is named by. -/
def reserved : List String := keywords.map (·.1) ++ phraseHeads

def word? (w : String) : Option Symbol :=
  match integer? w.toList, position? w.toList, keywords.lookup w with
  | some i, _, _ => some (.operand (.literal (.int i)))
  | none, some index, _ => some (.operand (.position index))
  | none, none, some s => some s
  | none, none, none =>
    if isPlainName w.toList = true ∧ w ∉ phraseHeads then some (.operand (.column w)) else none

/-! ## Tokens -/

/-- Whether an operator is written as a name with arguments between commas. -/
def isFunction (op : Operator) : Bool := op.form == .function || op.form == .substring

/-- A token that is no part of a phrase. -/
def symbol? : Token → Option Symbol
  | .word w => word? w
  | .quoted q s => some (.operand (if q = '\'' then .literal (.string s) else .column s))
  | .call name =>
    (Catalog.all.find? fun op => isFunction op && op.name == name).map fun op =>
      .opening (.call op.name op.form [])
  | .comma => some (.mark .comma)
  | .opening => some (.opening .group)
  | .closing => some (.mark .close)

def symbols : List Token → Option (List Symbol)
  | [] => some []
  | .word "IS" :: .word "NULL" :: rest => (symbols rest).map (.sign "IS NULL" :: ·)
  | .word "IS" :: .word "NOT" :: .word "NULL" :: rest =>
    (symbols rest).map (.sign "IS NOT NULL" :: ·)
  | .word "CASE" :: .word "WHEN" :: rest => (symbols rest).map (.opening .caseWhen :: ·)
  | .word "THEN" :: .word "1" :: .word "ELSE" :: .word "0" :: .word "END" :: rest =>
    (symbols rest).map (.mark .caseEnd :: ·)
  | .word "DATE" :: .quoted '\'' s :: rest | .word "TIME" :: .quoted '\'' s :: rest
  | .word "TIMESTAMP" :: .quoted '\'' s :: rest =>
    (symbols rest).map (.operand (.literal (.string s)) :: ·)
  | .call "PI" :: .closing :: rest => (symbols rest).map (.operand (Catalog.pi.outline []) :: ·)
  | .call "TRIM" :: .word flag :: rest =>
    (TrimFlag.ofKeyword? flag).bind fun f =>
      (symbols rest).map (.opening (.call "TRIM" .trim [.literal (.flag f)]) :: ·)
  | t :: rest => (symbol? t).bind fun s => (symbols rest).map (s :: ·)

/-- The grammar that reads what is written with the standard operators. Both quotes of names
are known. -/
def grammar : Grammar where
  operators := Catalog.all
  lexicon := ⟨['\'', '"', '\x60'], true⟩
  symbols

theorem symbol?_eq_none :
    ∀ t ∈ phraseHeads.map Token.word ++ [.call "PI", .call "TRIM"], symbol? t = none := by
  decide

/-- No phrase begins with a token that is a symbol by itself. -/
theorem symbols_cons {t : Token} {s : Symbol} (h : symbol? t = some s) (rest : List Token) :
    symbols (t :: rest) = (symbols rest).map (s :: ·) := by
  rw [symbols.eq_def]
  split
  · next heq => cases heq
  case h_11 heq =>
    cases heq
    rw [h, Option.bind_some]
  all_goals
    injections
    subst_vars
    rw [symbol?_eq_none _ (by decide)] at h
    cases h

/-! ## Spellings -/

theorem plain : grammar.Plain where
  symbols_nil := rfl
  opening := symbols_cons rfl
  closing := symbols_cons rfl

theorem spells_word {w : String} (hw : grammar.lexicon.IsWord w.toList) {s : Symbol}
    (h : symbol? (.word w) = some s) : grammar.Spells [.word w] [s] :=
  Grammar.spells_word (splits_word hw) (symbols_cons h)

theorem spells_words {text : String} (ws : List String)
    (hws : ∀ w ∈ ws, grammar.lexicon.IsWord w.toList) (hne : ws ≠ [])
    (htext : text.toList = [' '].intercalate (ws.map String.toList)) (ss : List Symbol)
    (h : ∀ more, symbols (ws.map Token.word ++ more) = (symbols more).map (ss ++ ·)) :
    grammar.Spells [.word text] ss := by
  have hsplits := splits_words hws hne
  rw [← htext] at hsplits
  exact Grammar.spells_word hsplits h

theorem separates : Separates grammar where
  toPlain := plain
  comma :=
    { spaced := fun _ => rfl
      stops := by
        intro rest c hc
        cases hc
        decide
      scan := fun _ rest _ =>
        Grammar.scan_append (s := [',']) [.comma] [.mark .comma] (tokens_comma rfl rest)
          (symbols_cons rfl) }
  fromWord := spells_word (by decide) rfl
  forWord := spells_word (by decide) rfl

/-! ## Operators -/

def isSignOf (name : String) : Symbol → Bool
  | .sign n => n == name
  | _ => false

theorem eq_sign {name : String} {s : Option Symbol} (h : s.any (isSignOf name) = true) :
    s = some (.sign name) := by
  obtain ⟨s, rfl, hs⟩ := (Option.any_eq_true _ _).1 h
  cases s with
  | sign n => rw [eq_of_beq (hs : (n == name) = true)]
  | _ => cases hs

theorem spells_sign {op : Operator} (hop : op ∈ Catalog.all) (hsign : isSign op = true) :
    grammar.Spells [.word op.name] [.sign op.name] := by
  by_cases hnull : op.name = "IS NULL"
  · rw [hnull]
    exact spells_words ["IS", "NULL"] (by decide) (by decide) (by decide) _ fun _ => rfl
  by_cases hnotNull : op.name = "IS NOT NULL"
  · rw [hnotNull]
    exact spells_words ["IS", "NOT", "NULL"] (by decide) (by decide) (by decide) _ fun _ => rfl
  have hword : ∀ op ∈ Catalog.all, isSign op = true → op.name ≠ "IS NULL" →
      op.name ≠ "IS NOT NULL" → grammar.lexicon.IsWord op.name.toList ∧
        (symbol? (.word op.name)).any (isSignOf op.name) = true := by
    decide
  obtain ⟨hw, hs⟩ := hword op hop hsign hnull hnotNull
  exact spells_word hw (eq_sign hs)

theorem knows {op : Operator} (hop : op ∈ Catalog.all) (hsign : isSign op = true) :
    Knows grammar op where
  spells := spells_sign hop hsign
  found := by
    have h : ∀ op ∈ Catalog.all, isSign op = true →
        (operatorOf? Catalog.all (op.form == .prefixOp) op.name).any (Operator.Like · op) = true := by
      decide
    obtain ⟨o, ho, hlike⟩ := (Option.any_eq_true _ _).1 (h op hop hsign)
    exact ⟨o, ho, by simpa using hlike⟩

theorem indicates : Indicates grammar where
  knows := knows (by decide) rfl
  caseWhen := spells_words ["CASE", "WHEN"] (by decide) (by decide) (by decide) _ fun _ => rfl
  caseEnd :=
    spells_words ["THEN", "1", "ELSE", "0", "END"] (by decide) (by decide) (by decide) _
      fun _ => rfl

/-! ## Leaves -/

theorem word?_of_integer {w : String} {i : Int64} (h : integer? w.toList = some i) :
    word? w = some (.operand (.literal (.int i))) := by
  simp [word?, h]

theorem word?_of_position {w : String} {index : UInt64} (h : position? w.toList = some index) :
    word? w = some (.operand (.position index)) := by
  have hint : integer? w.toList = none := by
    unfold position? at h
    split at h
    · next heq => simp [heq, integer?, natural?]
    · cases h
  simp [word?, hint, h]

theorem natural?_of_isNameStart {c : Char} (h : isNameStart c = true) (rest : List Char) :
    natural? (c :: rest) = none := by
  have hdigit : c.isDigit = false := by
    rw [Bool.eq_false_iff]
    intro hdigit
    rw [isNameStart_of_isDigit hdigit] at h
    cases h
  simp [natural?, hdigit]

theorem word?_of_isPlainName {w : String} (h : isPlainName w.toList = true)
    (hw : w ∉ reserved) : word? w = some (.operand (.column w)) := by
  simp only [reserved, List.mem_append, not_or] at hw
  obtain ⟨hkeyword, hhead⟩ := hw
  have hlookup : keywords.lookup w = none := by
    rw [List.lookup_eq_none_iff]
    intro p hp
    simp only [bne_iff_ne, ne_eq]
    rintro rfl
    exact hkeyword (List.mem_map_of_mem hp)
  have hnumber : integer? w.toList = none ∧ position? w.toList = none := by
    unfold isPlainName at h
    split at h
    · cases h
    · next c rest heq =>
      simp only [Bool.and_eq_true] at h
      rw [heq]
      constructor
      · unfold integer?
        split
        · next hminus => cases hminus; simp [isNameStart] at h
        · simp [natural?_of_isNameStart h.1]
      · unfold position?
        split
        · next hdollar => cases hdollar; simp [isNameStart] at h
        · rfl
  simp [word?, hnumber, hlookup, h, hhead]

theorem delimits_of_mem_quotes {q : Char} (hq : q ∈ grammar.lexicon.quotes) :
    grammar.lexicon.delimits q = false ∧ isNameChar q = false := by
  have hall : grammar.lexicon.quotes.all
      (fun q => !grammar.lexicon.delimits q && !isNameChar q) = true := rfl
  simpa using List.all_eq_true.1 hall q hq

/-- A character of a number or a position. -/
def IsNumberChar (c : Char) : Prop := isNameChar c = true ∨ c ∈ ['-', '.', '$']

instance (c : Char) : Decidable (IsNumberChar c) := inferInstanceAs (Decidable (_ ∨ _))

theorem isWord_of_forall {s : List Char} (hne : s ≠ []) (hs : ∀ c ∈ s, IsNumberChar c) :
    grammar.lexicon.IsWord s := by
  have hinside : ∀ c ∈ s, grammar.lexicon.delimits c = false ∧ c ∉ grammar.lexicon.quotes := by
    intro c hc
    rcases hs c hc with hname | hsign
    · refine ⟨delimits_of_isNameChar _ hname, fun hq => ?_⟩
      simp [(delimits_of_mem_quotes hq).2] at hname
    · obtain rfl | rfl | rfl : c = '-' ∨ c = '.' ∨ c = '$' := by simpa using hsign
      all_goals decide
  exact ⟨hne, fun c hc => (hinside c hc).1,
    fun c hc => (hinside c (List.mem_of_mem_head? hc)).2⟩

theorem isNumberChar_of_mem_toDigits {n : Nat} {c : Char} (hc : c ∈ Nat.toDigits 10 n) :
    IsNumberChar c := by
  have hdigit : c.isDigit = true := Nat.isDigit_of_mem_toDigits (by decide) (by decide) hc
  exact .inl (by simp [isNameChar, Char.isAlphanum, hdigit])

theorem isNumberChar_of_mem_int {i : Int} {c : Char} (hc : c ∈ (toString i).toList) :
    IsNumberChar c := by
  rw [toList_toString_int] at hc
  split at hc
  · exact isNumberChar_of_mem_toDigits hc
  · rcases List.mem_cons.1 hc with rfl | hc
    · decide
    · exact isNumberChar_of_mem_toDigits hc

theorem isWord_int (i : Int) : grammar.lexicon.IsWord (toString i).toList := by
  have hne : (toString i).toList ≠ [] := by
    rw [toList_toString_int]
    split <;> simp
  exact isWord_of_forall hne fun _ => isNumberChar_of_mem_int

theorem isWord_position (index : UInt64) :
    grammar.lexicon.IsWord ("$" ++ toString index.toNat).toList := by
  have htext : ("$" ++ toString index.toNat).toList = '$' :: Nat.toDigits 10 index.toNat := by
    simp
  rw [htext]
  exact isWord_of_forall (by simp)
    (List.forall_mem_cons.2 ⟨by decide, fun _ => isNumberChar_of_mem_toDigits⟩)

theorem spells_int (i : Int64) :
    grammar.Spells [.word (toString i.toInt)] [.operand (.literal (.int i))] :=
  spells_word (isWord_int _) (word?_of_integer (integer?_toString i))

theorem spells_position (index : UInt64) :
    grammar.Spells [.word ("$" ++ toString index.toNat)] [.operand (.position index)] := by
  apply spells_word (isWord_position index)
  apply word?_of_position
  rw [String.toList_append]
  exact position?_toString index

theorem splits_quoted {q : Char} (hq : q ∈ grammar.lexicon.quotes) (s : String) :
    grammar.lexicon.Splits (enclose q s.toList) [.quoted q s] := by
  intro rest hrest
  have hd := (delimits_of_mem_quotes hq).1
  have hhead : rest.head? ≠ some q := by
    intro h
    have := (hrest q h).1
    rw [hd] at this
    cases this
  rw [tokens_quoted hq hd hhead s.toList, String.ofList_toList]
  rfl

theorem spells_quoted {q : Char} (hq : q ∈ grammar.lexicon.quotes) (s : String) :
    grammar.Spells [.word (String.ofList (enclose q s.toList))]
      [.operand (if q = '\'' then .literal (.string s) else .column s)] := by
  have hsplits := splits_quoted hq s
  rw [← String.toList_ofList (l := enclose q s.toList)] at hsplits
  exact Grammar.spells_word hsplits (symbols_cons rfl)

/-- A date or a time stands behind the name of its type. -/
theorem splits_datetime {w : String} (hw : w ∈ ["DATE", "TIME", "TIMESTAMP"]) (s : String) :
    grammar.lexicon.Splits (w ++ " " ++ quoteString s).toList [.word w, .quoted '\'' s] := by
  have hword : ∀ w ∈ ["DATE", "TIME", "TIMESTAMP"], grammar.lexicon.IsWord w.toList := by decide
  simpa [quoteString] using (splits_word (hword w hw)).spaced (splits_quoted (by decide) s)

theorem spells_datetime {w : String} (hw : w ∈ ["DATE", "TIME", "TIMESTAMP"]) (s : String) :
    grammar.Spells [.word (w ++ " " ++ quoteString s)] [.operand (.literal (.string s))] := by
  apply Grammar.spells_word (splits_datetime hw s)
  intro more
  simp only [List.mem_cons, List.not_mem_nil, or_false] at hw
  rcases hw with rfl | rfl | rfl <;> rfl

theorem spells_string (s : String) (type : SqlType) :
    grammar.Spells [.word (stringText s type.name)] [.operand (.literal (.string s))] := by
  unfold stringText
  split
  · next hdatetime =>
    apply spells_datetime
    cases htype : type.name <;> simp [htype, TypeName.isDatetime] at hdatetime <;> decide
  · exact spells_quoted (by decide) s

theorem spells_flag (f : TrimFlag) :
    grammar.Spells [.word f.keyword] [.operand (.literal (.flag f))] := by
  cases f <;> exact spells_word (by decide) rfl

/-- Every value but a float. -/
theorem spells_literal {v : Value} (hv : ∀ x, v ≠ .float x) (type : SqlType) :
    grammar.Spells [.word (literalText v type)] [.operand (.literal v)] := by
  match v with
  | .null => exact spells_word (w := "NULL") (by decide) rfl
  | .bool true => exact spells_word (w := "TRUE") (by decide) rfl
  | .bool false => exact spells_word (w := "FALSE") (by decide) rfl
  | .int i => exact spells_int i
  | .float x => exact absurd rfl (hv x)
  | .flag f => exact spells_flag f
  | .string s => exact spells_string s type

theorem spells_name {d : Dialect} (hd : d.quote = some '"' ∨ d.quote = some '\x60') {name : String}
    (hname : name ∉ reserved) :
    grammar.Spells [.word (quoteName d name)] [.operand (.column name)] := by
  obtain ⟨q, hq, hquote, hne⟩ : ∃ q, d.quote = some q ∧ q ∈ grammar.lexicon.quotes ∧ q ≠ '\'' := by
    rcases hd with hd | hd
    · exact ⟨_, hd, by decide, by decide⟩
    · exact ⟨_, hd, by decide, by decide⟩
  simp only [quoteName, hq]
  split
  · next hplain =>
    exact spells_word (isWord_of_isPlainName (fun q hq => (delimits_of_mem_quotes hq).2) hplain) (word?_of_isPlainName hplain hname)
  · simpa [hne] using spells_quoted hquote name

end RowExpr.Sql.Standard
