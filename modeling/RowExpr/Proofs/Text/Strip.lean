import Mathlib.Data.List.TakeWhile
import RowExpr.Text.Blank

/-!
# Blanks at the ends of a text

Taking the blanks off both ends leaves the one part of a text that has only blanks around it and
neither begins nor ends with one (`isCore_strip`, `strip_of_isCore`).
-/

namespace RowExpr.Text

/-- What is left of a text when the blanks at both ends are taken off. -/
def IsCore (text core : List Char) : Prop :=
  ∃ before after, text = before ++ core ++ after ∧
    (∀ c ∈ before, isBlank c = true) ∧ (∀ c ∈ after, isBlank c = true) ∧
    (∀ c ∈ core.head?, isBlank c = false) ∧ ∀ c ∈ core.getLast?, isBlank c = false

theorem dropWhile_of_head {p : Char → Bool} {s : List Char} (h : ∀ c ∈ s.head?, p c = false) :
    s.dropWhile p = s := by
  cases s with
  | nil => rfl
  | cons c rest => rw [List.dropWhile_cons_of_neg (by simp [h c rfl])]

theorem strip_of_isCore {text core : List Char} (h : IsCore text core) : strip text = core := by
  obtain ⟨before, after, rfl, hbefore, hafter, hhead, hlast⟩ := h
  rw [strip, stripBy, List.append_assoc, List.dropWhile_append_of_pos hbefore]
  cases core with
  | nil =>
    rw [List.nil_append, List.dropWhile_eq_nil_iff.2 hafter]
    rfl
  | cons c more =>
    have hafter : ∀ d ∈ after.reverse, isBlank d = true := by simpa using hafter
    have hstart : ∀ d ∈ (c :: more ++ after).head?, isBlank d = false := hhead
    have hend : ∀ d ∈ (c :: more).reverse.head?, isBlank d = false := by rwa [List.head?_reverse]
    rw [dropWhile_of_head hstart, List.reverse_append, List.dropWhile_append_of_pos hafter,
      dropWhile_of_head hend, List.reverse_reverse]

theorem exists_leading (s : List Char) :
    ∃ before rest, s = before ++ rest ∧ (∀ c ∈ before, isBlank c = true) ∧
      ∀ c ∈ rest.head?, isBlank c = false := by
  induction s with
  | nil => exact ⟨[], [], rfl, by simp, by simp⟩
  | cons c s ih =>
    cases hc : isBlank c with
    | false => exact ⟨[], c :: s, rfl, by simp, by simpa using hc⟩
    | true =>
      obtain ⟨before, rest, rfl, hbefore, hrest⟩ := ih
      exact ⟨c :: before, rest, rfl, List.forall_mem_cons.2 ⟨hc, hbefore⟩, hrest⟩

theorem exists_trailing (s : List Char) :
    ∃ rest after, s = rest ++ after ∧ (∀ c ∈ after, isBlank c = true) ∧
      ∀ c ∈ rest.getLast?, isBlank c = false := by
  obtain ⟨before, rest, hs, hbefore, hrest⟩ := exists_leading s.reverse
  refine ⟨rest.reverse, before.reverse, ?_, by simpa using hbefore, ?_⟩
  · rw [← List.reverse_append, ← hs, List.reverse_reverse]
  · rwa [List.getLast?_reverse]

theorem isCore_self {s : List Char} (h : ∀ c ∈ s, isBlank c = false) : IsCore s s :=
  ⟨[], [], by simp, by simp, by simp, fun c hc => h c (List.mem_of_mem_head? hc),
    fun c hc => h c (List.mem_of_getLast? hc)⟩

/-- Behind a text without blanks, only the end of what follows is taken off. -/
theorem exists_isCore_append {s : List Char} (hne : s ≠ []) (h : ∀ c ∈ s, isBlank c = false)
    (t : List Char) : ∃ rest, IsCore (s ++ t) (s ++ rest) := by
  obtain ⟨rest, after, rfl, hafter, hrest⟩ := exists_trailing t
  refine ⟨rest, [], after, by simp, by simp, hafter, fun c hc => ?_, fun c hc => ?_⟩
  · obtain ⟨d, more, rfl⟩ := List.exists_cons_of_ne_nil hne
    cases hc
    exact h c List.mem_cons_self
  · rw [List.getLast?_append, Option.mem_def, Option.or_eq_some_iff] at hc
    rcases hc with hc | ⟨-, hc⟩
    · exact hrest c hc
    · exact h c (List.mem_of_getLast? hc)

theorem exists_isCore (text : List Char) : ∃ core, IsCore text core := by
  obtain ⟨before, rest, rfl, hbefore, hhead⟩ := exists_leading text
  obtain ⟨core, after, rfl, hafter, hlast⟩ := exists_trailing rest
  refine ⟨core, before, after, by simp, hbefore, hafter, fun c hc => hhead c ?_, hlast⟩
  rw [List.head?_append, hc]
  rfl

theorem isCore_strip (text : List Char) : IsCore text (strip text) := by
  obtain ⟨core, hcore⟩ := exists_isCore text
  rwa [strip_of_isCore hcore]

end RowExpr.Text
