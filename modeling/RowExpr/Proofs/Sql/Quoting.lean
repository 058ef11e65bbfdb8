import RowExpr.Dialect.Profile
import RowExpr.Proofs.Sql.Token

/-!
# Reading what is in quotes

A token in quotes ends at the first quote that is not doubled, and each doubled quote inside it
stands for one. Read so, a text begins with such a token exactly if it begins with the token's
content in quotes, and no quote follows (`scanQuoted_eq_some_iff`). Strings and names that are not
plain are written so; a dialect that quotes with a character that is in no plain name writes no two
names alike.
-/

namespace RowExpr.Sql

/-! ## Tokens in quotes -/

/-- The content of the quoted token that a text begins with, and the text behind it. -/
def scanQuoted (q : Char) : List Char → Option (List Char × List Char)
  | [] => none
  | c :: text => if c = q then unquote q text else none

/-- What is read up to the closing quote is what is written there. -/
theorem eq_double_of_unquote {q : Char} {text s rest : List Char}
    (h : unquote q text = some (s, rest)) :
    text = double q s ++ q :: rest ∧ rest.head? ≠ some q := by
  induction text using unquote.induct q generalizing s with
  | case1 => cases h
  | case2 =>
    rw [unquote, if_pos rfl] at h
    cases h
    simp [double]
  | case3 c hc =>
    rw [unquote, if_neg hc] at h
    cases h
  | case4 c d more hc ih =>
    rw [unquote, if_pos hc, Option.map_eq_some_iff] at h
    obtain ⟨⟨s', rest'⟩, hread, heq⟩ := h
    cases heq
    obtain ⟨hmore, hrest⟩ := ih hread
    refine ⟨?_, hrest⟩
    rw [hmore]
    simp [double, hc]
  | case5 c more hc ih =>
    rw [unquote, if_neg hc, if_pos rfl, Option.map_eq_some_iff] at h
    obtain ⟨⟨s', rest'⟩, hread, heq⟩ := h
    cases heq
    obtain ⟨hmore, hrest⟩ := ih hread
    refine ⟨?_, hrest⟩
    rw [hmore, Decidable.of_not_not hc]
    simp [double]
  | case6 c d more hc hd =>
    rw [unquote, if_neg hc, if_neg hd] at h
    cases h
    rw [Decidable.of_not_not hc]
    exact ⟨by simp [double], by simpa using hd⟩

theorem scanQuoted_eq_some_iff {q : Char} {text s rest : List Char} :
    scanQuoted q text = some (s, rest) ↔ text = enclose q s ++ rest ∧ rest.head? ≠ some q := by
  have hwritten : enclose q s ++ rest = q :: (double q s ++ q :: rest) := by simp [enclose]
  constructor
  · intro h
    cases text with
    | nil => cases h
    | cons c more =>
      rw [scanQuoted] at h
      split at h
      · next hc =>
        obtain ⟨hmore, hrest⟩ := eq_double_of_unquote h
        rw [hwritten, hc, hmore]
        exact ⟨rfl, hrest⟩
      · cases h
  · rintro ⟨rfl, hrest⟩
    rw [hwritten, scanQuoted, if_pos rfl, unquote_double hrest]

theorem scanQuoted_enclose {q : Char} {rest : List Char} (h : rest.head? ≠ some q)
    (s : List Char) : scanQuoted q (enclose q s ++ rest) = some (s, rest) :=
  scanQuoted_eq_some_iff.2 ⟨rfl, h⟩

theorem enclose_injective (q : Char) : Function.Injective (enclose q) := by
  intro s t h
  have hs : scanQuoted q (enclose q s ++ []) = some (s, []) := scanQuoted_enclose (by simp) s
  rw [h, scanQuoted_enclose (by simp)] at hs
  cases hs
  rfl

theorem head_enclose (q : Char) (s : List Char) : (enclose q s).head? = some q := rfl

theorem last_enclose (q : Char) (s : List Char) : (enclose q s).getLast? = some q := by
  rw [enclose, List.getLast?_append]
  rfl

/-! ## Names as a dialect writes them -/

theorem isPlainName_eq_false_of_mem {s : List Char} {c : Char} (hc : c ∈ s)
    (h : isNameChar c = false) : isPlainName s = false := by
  rw [Bool.eq_false_iff]
  intro hplain
  rw [isNameChar_of_isPlainName hplain c hc] at h
  cases h

section

variable {d : Dialect} {q : Char} (hd : d.quote = some q)

include hd

theorem quoteName_of_plain {name : String} (h : isPlainName name.toList = true) :
    quoteName d name = name := by
  simp [quoteName, hd, h]

theorem toList_quoteName_of_not_plain {name : String} (h : isPlainName name.toList = false) :
    (quoteName d name).toList = enclose q name.toList := by
  simp [quoteName, hd, h]

variable (hq : isNameChar q = false)

include hq

theorem isPlainName_quoteName (name : String) :
    isPlainName (quoteName d name).toList = isPlainName name.toList := by
  cases hname : isPlainName name.toList with
  | true => rw [quoteName_of_plain hd hname, hname]
  | false =>
    rw [toList_quoteName_of_not_plain hd hname]
    exact isPlainName_eq_false_of_mem List.mem_cons_self hq

theorem quoteName_injective : Function.Injective (quoteName d) := by
  intro s t h
  have hplain := congrArg (fun w : String => isPlainName w.toList) h
  simp only [isPlainName_quoteName hd hq] at hplain
  cases ht : isPlainName t.toList with
  | true => rwa [quoteName_of_plain hd (hplain.trans ht), quoteName_of_plain hd ht] at h
  | false =>
    have h := congrArg String.toList h
    rw [toList_quoteName_of_not_plain hd (hplain.trans ht),
      toList_quoteName_of_not_plain hd ht] at h
    exact String.toList_injective (enclose_injective q h)

end

/-! ## Texts -/

/-- A string in quotes is read back, and so is a name that a dialect quotes, whatever stands
behind it but another quote. Plain names are kept apart from names in quotes. -/
theorem scanQuoted_written :
    (∀ (s : String) (rest : List Char), rest.head? ≠ some '\'' →
      scanQuoted '\'' ((quoteString s).toList ++ rest) = some (s.toList, rest)) ∧
    ∀ (d : Dialect) (q : Char), d.quote = some q → isNameChar q = false →
      (∀ (name : String) (rest : List Char), isPlainName name.toList = false →
        rest.head? ≠ some q →
        scanQuoted q ((quoteName d name).toList ++ rest) = some (name.toList, rest)) ∧
      ∀ m n : String, m ≠ n → quoteName d m ≠ quoteName d n := by
  refine ⟨fun s rest hrest => ?_, fun d q hd hq => ⟨fun name rest hname hrest => ?_, ?_⟩⟩
  · rw [quoteString, String.toList_ofList]
    exact scanQuoted_enclose hrest s.toList
  · rw [toList_quoteName_of_not_plain hd hname]
    exact scanQuoted_enclose hrest name.toList
  · exact fun m n hne h => hne (quoteName_injective hd hq h)

/-- A quote alone, as a string and as a name, and the name without characters. -/
theorem scanQuoted_lone_quotes :
    ([')'].head? ≠ some '\'' ∧ Dialect.ansi.quote = some '"' ∧ isNameChar '"' = false ∧
      isPlainName "\"".toList = false ∧ ".\"\"".toList.head? ≠ some '"' ∧ "\"" ≠ "") ∧
    scanQuoted '\'' "'''')".toList = some (['\''], [')']) ∧
      scanQuoted '"' "\"\"\"\".\"\"".toList = some (['"'], ".\"\"".toList) ∧
      quoteName .ansi "\"" ≠ quoteName .ansi "" := by
  obtain ⟨hstring, hnames⟩ := scanQuoted_written
  have hrest : [')'].head? ≠ some '\'' := by decide
  have hplain : isPlainName "\"".toList = false := by decide
  have hpoint : ".\"\"".toList.head? ≠ some '"' := by decide
  obtain ⟨hname, hapart⟩ := hnames .ansi '"' rfl (by decide)
  exact ⟨⟨hrest, rfl, by decide, hplain, hpoint, by decide⟩, hstring "'" [')'] hrest,
    hname "\"" ".\"\"".toList hplain hpoint, hapart "\"" "" (by decide)⟩

/-- With a letter for a quote, a name in quotes may be plain. -/
example : quoteName { quote := some 'a', product := .ansi } "" =
    quoteName { quote := some 'a', product := .ansi } "aa" := by
  decide

end RowExpr.Sql
