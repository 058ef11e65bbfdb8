import RowExpr.Dialect.Profile
import RowExpr.Proofs.Sql.CatalogGrammar
import RowExpr.Sql.Limit

/-!
# Row limits

A clause that limits rows is read by the forms of `OFFSET … FETCH` or by those of `LIMIT`. What is
read is a window on the rows. Main statement: whatever the dialect, the window of the clause it
writes selects the rows that are asked for (`limitText?_select`).

A dialect that has no form for an offset alone states a limit that no list of rows goes beyond.
Only that clause is read as another window than the one asked for.
-/

namespace RowExpr.Sql

open Standard

universe u

/-! ## Windows -/

/-- The rows behind the first `offset`, all of them or at most `count`. -/
structure Window where
  offset : Nat
  count : Option Nat

namespace Window

/-- What is asked for by an offset and a limit that may be absent. -/
def ofBounds (offset limit : Option Nat) : Window := ⟨offset.getD 0, limit⟩

def select {α : Type u} (w : Window) (rows : List α) : List α :=
  match w.count with
  | none => rows.drop w.offset
  | some n => (rows.drop w.offset).take n

theorem select_of_length_le {α : Type u} {offset n : Nat} {rows : List α} (h : rows.length ≤ n) :
    (mk offset (some n)).select rows = (mk offset none).select rows := by
  have hbehind : (rows.drop offset).length ≤ n := by
    rw [List.length_drop]
    omega
  exact List.take_of_length_le hbehind

end Window

/-! ## Reading a clause -/

def bounds? (offset count : String) : Option Window :=
  (natural? offset.toList).bind fun o => (natural? count.toList).map fun n => ⟨o, some n⟩

def fetchForm? : List Token → Option Window
  | [.word "OFFSET", .word o, .word "ROWS"] => (natural? o.toList).map fun o => ⟨o, none⟩
  | [.word "FETCH", .word "NEXT", .word n, .word "ROWS", .word "ONLY"] =>
    (natural? n.toList).map fun n => ⟨0, some n⟩
  | [.word "OFFSET", .word o, .word "ROWS", .word "FETCH", .word "NEXT", .word n, .word "ROWS",
      .word "ONLY"] => bounds? o n
  | _ => none

def limitForm? : LimitStyle → List Token → Option Window
  | _, [.word "LIMIT", .word n] => (natural? n.toList).map fun n => ⟨0, some n⟩
  | .limitOffset, [.word "OFFSET", .word o] => (natural? o.toList).map fun o => ⟨o, none⟩
  | .limitOffset, [.word "LIMIT", .word n, .word "OFFSET", .word o] => bounds? o n
  | .limitComma, [.word "LIMIT", .word o, .comma, .word n] => bounds? o n
  | _, _ => none

def readBy (form : List Token → Option Window) (clause : String) : Option Window :=
  (tokens grammar.lexicon clause.toList).bind form

/-- The window that a dialect takes a clause for. -/
def window? (d : Dialect) (clause : String) : Option Window :=
  if d.has .nativeOffsetFetch then readBy fetchForm? clause
  else readBy (limitForm? d.limitStyle) clause

/-! ## Tokens of a clause -/

/-- A word that is read as this number. -/
structure IsNumeral (w : String) (n : Nat) : Prop where
  isWord : grammar.lexicon.IsWord w.toList
  natural? : natural? w.toList = some n

theorem isNumeral_int {i : Int} (h : 0 ≤ i) : IsNumeral (toString i) i.toNat where
  isWord := isWord_int i
  natural? := by rw [toList_toString_int, if_pos h, natural?_toDigits]

theorem isNumeral_unlimitedRows : IsNumeral unlimitedRows (UInt64.size - 1) :=
  ⟨by decide, by decide⟩

section

variable {v w : String} {m n : Nat}

theorem splits_offset (ho : IsNumeral w n) :
    grammar.lexicon.Splits ("OFFSET " ++ w).toList [.word "OFFSET", .word w] := by
  simpa using (splits_word (w := "OFFSET") (by decide)).spaced (splits_word ho.isWord)

theorem splits_limit (hn : IsNumeral w n) :
    grammar.lexicon.Splits ("LIMIT " ++ w).toList [.word "LIMIT", .word w] := by
  simpa using (splits_word (w := "LIMIT") (by decide)).spaced (splits_word hn.isWord)

theorem splits_offsetRows (ho : IsNumeral w n) :
    grammar.lexicon.Splits ("OFFSET " ++ w ++ " ROWS").toList
      [.word "OFFSET", .word w, .word "ROWS"] := by
  simpa using (splits_offset ho).spaced (splits_word (w := "ROWS") (by decide))

theorem splits_fetchNext (hn : IsNumeral w n) :
    grammar.lexicon.Splits ("FETCH NEXT " ++ w ++ " ROWS ONLY").toList
      [.word "FETCH", .word "NEXT", .word w, .word "ROWS", .word "ONLY"] := by
  have hhead := (splits_word (w := "FETCH") (by decide)).spaced
    (splits_word (x := grammar.lexicon) (w := "NEXT") (by decide))
  have htail := (splits_word (w := "ROWS") (by decide)).spaced
    (splits_word (x := grammar.lexicon) (w := "ONLY") (by decide))
  simpa using (hhead.spaced (splits_word hn.isWord)).spaced htail

theorem splits_limitOffset (ho : IsNumeral v m) (hn : IsNumeral w n) :
    grammar.lexicon.Splits ("LIMIT " ++ w ++ " OFFSET " ++ v).toList
      [.word "LIMIT", .word w, .word "OFFSET", .word v] := by
  simpa using (splits_limit hn).spaced (splits_offset ho)

theorem splits_limitComma (ho : IsNumeral v m) (hn : IsNumeral w n) :
    grammar.lexicon.Splits ("LIMIT " ++ v ++ ", " ++ w).toList
      [.word "LIMIT", .word v, .comma, .word w] := by
  have hcomma : ∀ rest, grammar.lexicon.Stops (',' :: rest) := by
    rintro rest c ⟨⟩
    decide
  intro rest hrest
  have htext : ("LIMIT " ++ v ++ ", " ++ w).toList ++ rest =
      ("LIMIT " ++ v).toList ++ ',' :: ' ' :: (w.toList ++ rest) := by
    simp
  rw [htext, splits_limit ho _ (hcomma _), tokens_comma rfl, tokens_space,
    splits_word hn.isWord rest hrest, Option.map_map, Option.map_map]
  rfl

end

theorem readBy_of_splits {clause : String} {ts : List Token}
    (h : grammar.lexicon.Splits clause.toList ts) (form : List Token → Option Window) :
    readBy form clause = form ts := by
  have htokens := h [] (by simp [Lexicon.Stops])
  rw [List.append_nil] at htokens
  simp [readBy, htokens]

/-! ## Clauses -/

section

variable {offset limit : Option String}

theorem fetchClause_eq_none : fetchClause offset limit = none ↔ offset = none ∧ limit = none := by
  cases offset <;> cases limit <;> simp [fetchClause]

theorem limitClause_eq_none {style : LimitStyle} :
    limitClause style offset limit = none ↔ offset = none ∧ limit = none := by
  cases style <;> cases offset <;> cases limit <;> simp [limitClause]

variable {o n : Option Nat} {clause : String}

theorem readBy_fetchForm? (ho : Option.Rel IsNumeral offset o) (hn : Option.Rel IsNumeral limit n)
    (h : fetchClause offset limit = some clause) :
    readBy fetchForm? clause = some (.ofBounds o n) := by
  cases ho with
  | none =>
    cases hn with
    | none => cases h
    | some hn =>
      cases h
      rw [readBy_of_splits (splits_fetchNext hn)]
      simp [fetchForm?, hn.natural?, Window.ofBounds]
  | some ho =>
    cases hn with
    | none =>
      cases h
      rw [readBy_of_splits (splits_offsetRows ho)]
      simp [fetchForm?, ho.natural?, Window.ofBounds]
    | some hn =>
      cases h
      have hsplits := (splits_offsetRows ho).spaced (splits_fetchNext hn)
      rw [readBy_of_splits (by simpa using hsplits)]
      simp [fetchForm?, bounds?, ho.natural?, hn.natural?, Window.ofBounds]

theorem readBy_limitForm? (ho : Option.Rel IsNumeral offset o) (hn : Option.Rel IsNumeral limit n)
    {style : LimitStyle} (h : limitClause style offset limit = some clause) :
    readBy (limitForm? style) clause = some (.ofBounds o n) ∨
      n = none ∧ readBy (limitForm? style) clause = some ⟨o.getD 0, some (UInt64.size - 1)⟩ := by
  cases ho with
  | none =>
    cases hn with
    | none => cases h
    | some hn =>
      cases h
      rw [readBy_of_splits (splits_limit hn)]
      simp [limitForm?, hn.natural?, Window.ofBounds]
  | some ho =>
    cases style with
    | limitOffset =>
      left
      cases hn with
      | none =>
        cases h
        rw [readBy_of_splits (splits_offset ho)]
        simp [limitForm?, ho.natural?, Window.ofBounds]
      | some hn =>
        cases h
        rw [readBy_of_splits (splits_limitOffset ho hn)]
        simp [limitForm?, bounds?, ho.natural?, hn.natural?, Window.ofBounds]
    | limitComma =>
      cases hn with
      | none =>
        cases h
        right
        rw [readBy_of_splits (splits_limitComma ho isNumeral_unlimitedRows)]
        simp [limitForm?, bounds?, ho.natural?, isNumeral_unlimitedRows.natural?]
      | some hn =>
        cases h
        left
        rw [readBy_of_splits (splits_limitComma ho hn)]
        simp [limitForm?, bounds?, ho.natural?, hn.natural?, Window.ofBounds]

end

/-! ## Integer literals -/

theorem text_int (d : Dialect) (i : Int64) (type : SqlType) :
    text d (.literal (.int i) type) = toString i.toInt := by
  simp [text, render, layout, layoutFrom, Step.chars, literalText]

theorem rel_isNumeral (d : Dialect) (type : SqlType) {bound : Option Int64}
    (h : ∀ i ∈ bound, 0 ≤ i) :
    Option.Rel IsNumeral ((bound.map fun i => .literal (.int i) type).map (text d ·))
      (bound.map (·.toInt.toNat)) := by
  cases bound with
  | none => exact .none
  | some i =>
    refine .some ?_
    simp only [text_int]
    exact isNumeral_int (Int64.le_iff_toInt_le.1 (h i rfl))

/-- There is a clause exactly if there is something to limit. As the dialect reads it, it selects
what is behind the first `offset` rows, and of that at most `limit` rows. -/
theorem limitText?_select (d : Dialect) (s t : SqlType) {offset limit : Option Int64}
    (hoffset : ∀ i ∈ offset, 0 ≤ i) (hlimit : ∀ i ∈ limit, 0 ≤ i) :
    (limitText? d (offset.map fun i => .literal (.int i) s)
        (limit.map fun i => .literal (.int i) t) = none ↔ offset = none ∧ limit = none) ∧
      ∀ clause, limitText? d (offset.map fun i => .literal (.int i) s)
          (limit.map fun i => .literal (.int i) t) = some clause →
        ∃ w, window? d clause = some w ∧
          ∀ {α : Type u} (rows : List α), rows.length < UInt64.size →
            w.select rows = (Window.ofBounds (offset.map (·.toInt.toNat))
              (limit.map (·.toInt.toNat))).select rows := by
  have ho := rel_isNumeral d s hoffset
  have hn := rel_isNumeral d t hlimit
  unfold limitText? window?
  split
  · exact ⟨by simp [fetchClause_eq_none], fun clause hclause =>
      ⟨_, readBy_fetchForm? ho hn hclause, fun _ _ => rfl⟩⟩
  · next hfetch =>
    rw [emulatedLimit?, if_neg hfetch]
    refine ⟨by simp [limitClause_eq_none], fun clause hclause => ?_⟩
    rcases readBy_limitForm? ho hn hclause with hread | ⟨hnone, hread⟩
    · exact ⟨_, hread, fun _ _ => rfl⟩
    · refine ⟨_, hread, fun rows hrows => ?_⟩
      rw [hnone]
      exact Window.select_of_length_le (by omega)

namespace Paging

/-- What is behind two pages of ten rows. -/
theorem select_behind_pages :
    ((∀ i ∈ some (20 : Int64), 0 ≤ i) ∧ ∀ i ∈ (none : Option Int64), 0 ≤ i) ∧
      limitText? (.mySql none) (some (.int 20)) none = some "LIMIT 20, 18446744073709551615" ∧
      ∃ w, window? (.mySql none) "LIMIT 20, 18446744073709551615" = some w ∧
        w.select (List.range 23) = [20, 21, 22] := by
  have hoffset : ∀ i ∈ some (20 : Int64), 0 ≤ i := by
    rintro i ⟨⟩
    decide
  have hlimit : ∀ i ∈ (none : Option Int64), 0 ≤ i := by simp
  have hclause : limitText? (.mySql none) (some (.int 20)) none =
      some "LIMIT 20, 18446744073709551615" := rfl
  obtain ⟨w, hw, hselect⟩ := (limitText?_select (.mySql none) (.notNull .integer)
    (.notNull .integer) hoffset hlimit).2 _ hclause
  exact ⟨⟨hoffset, hlimit⟩, hclause, w, hw, hselect _ (by decide)⟩

end Paging

end RowExpr.Sql
