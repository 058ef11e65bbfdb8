import RowExpr.Dialect.Version
import RowExpr.Proofs.Text.Strip

/-!
# The grammar of versions

A version is a number, or two numbers with a point between them; behind a second point there may
stand anything. Blanks at both ends do not count. Texts of this form are read as the version they
say and no others are read (`parse_grammar`); what a version is written as is of this form.
-/

namespace RowExpr

namespace Version

/-! ## Numbers -/

/-- Perhaps a plus sign, then digits, of a value that 32 bits hold. -/
def IsNumber (s : List Char) (n : UInt32) : Prop :=
  ∃ digits, (s = digits ∨ s = '+' :: digits) ∧ digits ≠ [] ∧
    (∀ c ∈ digits, c.isDigit = true) ∧ Nat.ofDigitChars 10 digits 0 = n.toNat

theorem digits?_eq_some_iff {s : List Char} {n : Nat} :
    digits? s = some n ↔
      s ≠ [] ∧ (∀ c ∈ s, c.isDigit = true) ∧ Nat.ofDigitChars 10 s 0 = n := by
  have hrefused : (s.isEmpty || !s.all Char.isDigit) = true ↔
      ¬ (s ≠ [] ∧ ∀ c ∈ s, c.isDigit = true) := by
    rw [Decidable.not_and_iff_not_or_not, Decidable.not_not, Bool.or_eq_true, List.isEmpty_iff,
      Bool.not_eq_true', Bool.eq_false_iff, ne_eq, List.all_eq_true]
  rw [digits?, ← and_assoc]
  by_cases h : s ≠ [] ∧ ∀ c ∈ s, c.isDigit = true
  · rw [if_neg fun hr => hrefused.1 hr h, Option.some_inj, and_iff_right h]
    rfl
  · rw [if_pos (hrefused.2 h)]
    constructor
    · exact fun hnone => by cases hnone
    · exact fun hread => absurd hread.1 h

theorem fits_iff {m : Nat} {n : UInt32} :
    (if m < UInt32.size then some (UInt32.ofNat m) else none) = some n ↔ m = n.toNat := by
  split
  · next h => rw [Option.some_inj, ← UInt32.toNat_inj, UInt32.toNat_ofNat_of_lt' h]
  · next h =>
    constructor
    · exact fun h' => by cases h'
    · rintro rfl
      exact absurd n.toNat_lt_size h

/-- A number without the plus sign that it may begin with. -/
def unsigned (s : List Char) : List Char :=
  match s with
  | '+' :: rest => rest
  | _ => s

theorem eq_unsigned (s : List Char) : s = unsigned s ∨ s = '+' :: unsigned s := by
  unfold unsigned
  split
  · exact .inr rfl
  · exact .inl rfl

theorem unsigned_of_digits {s : List Char} (h : ∀ c ∈ s, c.isDigit = true) : unsigned s = s := by
  unfold unsigned
  split
  · have hplus : '+'.isDigit = true := h '+' List.mem_cons_self
    cases hplus
  · rfl

theorem number?_eq_some_iff_digits? {s : List Char} {n : UInt32} :
    number? s = some n ↔ digits? (unsigned s) = some n.toNat := by
  unfold number?
  dsimp only
  split
  · next m hm =>
    have hm : digits? (unsigned s) = some m := hm
    rw [hm, Option.some_inj]
    exact fits_iff
  · next hnone =>
    have hnone : digits? (unsigned s) = none := hnone
    simp [hnone]

theorem number?_eq_some_iff {s : List Char} {n : UInt32} :
    number? s = some n ↔ IsNumber s n := by
  rw [number?_eq_some_iff_digits?, digits?_eq_some_iff]
  constructor
  · exact fun ⟨hne, hdigits, hvalue⟩ => ⟨unsigned s, eq_unsigned s, hne, hdigits, hvalue⟩
  · rintro ⟨digits, rfl | rfl, hne, hdigits, hvalue⟩
    · rw [unsigned_of_digits hdigits]
      exact ⟨hne, hdigits, hvalue⟩
    · exact ⟨hne, hdigits, hvalue⟩

theorem isNumber_toDigits (n : UInt32) : IsNumber (Nat.toDigits 10 n.toNat) n :=
  ⟨_, .inl rfl, Nat.toDigits_ne_nil,
    fun _ hc => Nat.isDigit_of_mem_toDigits (by decide) (by decide) hc,
    Nat.ofDigitChars_ten_toDigits⟩

/-- Numbers are made of digits and plus signs. -/
theorem IsNumber.digit_or_plus {s : List Char} {n : UInt32} (h : IsNumber s n) :
    ∀ c ∈ s, c.isDigit = true ∨ c = '+' := by
  obtain ⟨digits, rfl | rfl, -, hdigits, -⟩ := h
  · exact fun c hc => .inl (hdigits c hc)
  · exact List.forall_mem_cons.2 ⟨.inr rfl, fun c hc => .inl (hdigits c hc)⟩

theorem IsNumber.point_not_mem {s : List Char} {n : UInt32} (h : IsNumber s n) : '.' ∉ s := by
  intro hmem
  rcases h.digit_or_plus '.' hmem with hdigit | hplus
  · cases hdigit
  · cases hplus

/-! ## Points -/

theorem splitPoint_of_not_mem {s : List Char} (h : '.' ∉ s) : splitPoint s = (s, none) := by
  have hnil : s.dropWhile (· ≠ '.') = [] := by
    rw [List.dropWhile_eq_nil_iff]
    exact fun c hc => decide_eq_true fun hpoint => h (hpoint ▸ hc)
  rw [splitPoint, hnil]

theorem splitPoint_append {s : List Char} (h : '.' ∉ s) (rest : List Char) :
    splitPoint (s ++ '.' :: rest) = (s, some rest) := by
  have hs : ∀ c ∈ s, decide (c ≠ '.') = true :=
    fun c hc => decide_eq_true fun hpoint => h (hpoint ▸ hc)
  have hdrop : (s ++ '.' :: rest).dropWhile (· ≠ '.') = '.' :: rest := by
    rw [List.dropWhile_append_of_pos hs]
    rfl
  have htake : (s ++ '.' :: rest).takeWhile (· ≠ '.') = s := by
    rw [List.takeWhile_append_of_pos hs]
    simp
  rw [splitPoint, hdrop, htake]

/-! ## Versions -/

/-- A text that says a version: a number, two numbers, or two numbers and more. -/
inductive IsVersion : List Char → Version → Prop
  | major {s : List Char} {m : UInt32} : IsNumber s m → IsVersion s ⟨m, 0⟩
  | minor {s t : List Char} {m n : UInt32} :
    IsNumber s m → IsNumber t n → IsVersion (s ++ '.' :: t) ⟨m, n⟩
  | more {s t : List Char} {m n : UInt32} (rest : List Char) :
    IsNumber s m → IsNumber t n → IsVersion (s ++ '.' :: (t ++ '.' :: rest)) ⟨m, n⟩

theorem ofChars?_of_not_mem {s : List Char} (h : '.' ∉ s) {v : Version} :
    ofChars? s = some v ↔ ∃ m, IsNumber s m ∧ ⟨m, 0⟩ = v := by
  rw [ofChars?, splitPoint_of_not_mem h]
  dsimp only
  rw [Option.map_eq_some_iff]
  simp only [number?_eq_some_iff]

theorem ofChars?_append {s : List Char} (h : '.' ∉ s) {t : List Char} {v : Version} :
    ofChars? (s ++ '.' :: t) = some v ↔
      IsNumber s v.major ∧ IsNumber (splitPoint t).1 v.minor := by
  obtain ⟨m, n⟩ := v
  rw [ofChars?, splitPoint_append h, ← number?_eq_some_iff, ← number?_eq_some_iff]
  dsimp only
  cases number? s <;> cases number? (splitPoint t).1 <;> simp

theorem ofChars?_eq_some_iff {s : List Char} {v : Version} :
    ofChars? s = some v ↔ IsVersion s v := by
  constructor
  · intro h
    by_cases hpoint : '.' ∈ s
    · obtain ⟨major, t, rfl, hmajor⟩ := List.eq_append_cons_of_mem hpoint
      obtain ⟨hm, hn⟩ := (ofChars?_append hmajor).1 h
      by_cases hsecond : '.' ∈ t
      · obtain ⟨minor, rest, rfl, hminor⟩ := List.eq_append_cons_of_mem hsecond
        rw [splitPoint_append hminor] at hn
        exact .more rest hm hn
      · rw [splitPoint_of_not_mem hsecond] at hn
        exact .minor hm hn
    · obtain ⟨m, hm, rfl⟩ := (ofChars?_of_not_mem hpoint).1 h
      exact .major hm
  · intro h
    cases h with
    | major hm => exact (ofChars?_of_not_mem hm.point_not_mem).2 ⟨_, hm, rfl⟩
    | minor hm hn =>
      rw [ofChars?_append hm.point_not_mem, splitPoint_of_not_mem hn.point_not_mem]
      exact ⟨hm, hn⟩
    | more rest hm hn =>
      rw [ofChars?_append hm.point_not_mem, splitPoint_append hn.point_not_mem]
      exact ⟨hm, hn⟩

/-! ## Texts -/

/-- A text that says a version when the blanks around it are taken off. -/
def Says (s : String) (v : Version) : Prop := ∃ core, Text.IsCore s.toList core ∧ IsVersion core v

theorem says_iff {s : String} {v : Version} :
    Says s v ↔ ofChars? (Text.strip s.toList) = some v := by
  rw [ofChars?_eq_some_iff]
  constructor
  · rintro ⟨core, hcore, hv⟩
    rwa [Text.strip_of_isCore hcore]
  · exact fun hv => ⟨_, Text.isCore_strip s.toList, hv⟩

theorem parse_eq_ok_iff {s : String} {v : Version} : parse s = .ok v ↔ Says s v := by
  rw [says_iff, parse]
  cases ofChars? (Text.strip s.toList) <;> simp

theorem parse_eq_error_iff {s : String} {e : TargetError} :
    parse s = .error e ↔ e = .invalidVersion s ∧ ∀ v, ¬ Says s v := by
  simp only [says_iff, parse]
  cases ofChars? (Text.strip s.toList) <;> simp [eq_comm]

theorem toList_text (v : Version) :
    v.text.toList = Nat.toDigits 10 v.major.toNat ++ '.' :: Nat.toDigits 10 v.minor.toNat := by
  simp [text, toString, Nat.repr]

theorem isBlank_of_mem_text {v : Version} : ∀ c ∈ v.text.toList, Text.isBlank c = false := by
  have hdigit : ∀ n : Nat, ∀ c ∈ Nat.toDigits 10 n, Text.isBlank c = false := fun n c hc =>
    Text.isBlank_of_isDigit (Nat.isDigit_of_mem_toDigits (by decide) (by decide) hc)
  rw [toList_text, List.forall_mem_append, List.forall_mem_cons]
  exact ⟨hdigit _, by decide, hdigit _⟩

theorem says_text (v : Version) : Says v.text v := by
  refine ⟨v.text.toList, Text.isCore_self isBlank_of_mem_text, ?_⟩
  rw [toList_text]
  exact .minor (isNumber_toDigits v.major) (isNumber_toDigits v.minor)

theorem says_text_append (v : Version) (more : String) : Says (v.text ++ "." ++ more) v := by
  have hblank : ∀ c ∈ v.text.toList ++ ['.'], Text.isBlank c = false :=
    List.forall_mem_append.2 ⟨isBlank_of_mem_text, List.forall_mem_singleton.2 (by decide)⟩
  obtain ⟨rest, hcore⟩ := Text.exists_isCore_append (by simp) hblank more.toList
  refine ⟨v.text.toList ++ ['.'] ++ rest, by simpa using hcore, ?_⟩
  have hform : v.text.toList ++ ['.'] ++ rest =
      Nat.toDigits 10 v.major.toNat ++ '.' :: (Nat.toDigits 10 v.minor.toNat ++ '.' :: rest) := by
    simp [toList_text]
  rw [hform]
  exact .more rest (isNumber_toDigits v.major) (isNumber_toDigits v.minor)

/-- A text is read as a version if it says one, and then as that one; else it is refused as it
stands. A version is read from its own text, whatever stands behind a further point. -/
theorem parse_grammar (s : String) :
    (∀ v, parse s = .ok v ↔ Says s v) ∧
      (∀ e, parse s = .error e ↔ e = .invalidVersion s ∧ ∀ v, ¬ Says s v) ∧
      ∀ v : Version, parse v.text = .ok v ∧ ∀ more, parse (v.text ++ "." ++ more) = .ok v := by
  refine ⟨fun v => parse_eq_ok_iff, fun e => parse_eq_error_iff, fun v => ⟨?_, fun more => ?_⟩⟩
  · exact parse_eq_ok_iff.2 (says_text v)
  · exact parse_eq_ok_iff.2 (says_text_append v more)

/-- Of what follows the second point nothing is read, not even whether it is a number. -/
example : (parse " +7.00000000012.x \n").toOption = some ⟨7, 12⟩ ∧
    (parse "7.").toOption = none ∧ (parse "4294967296").toOption = none := by
  decide

end Version

end RowExpr
