import Mathlib.Data.List.Chain
import RowExpr.Proofs.Sql.Deletion
import RowExpr.Proofs.Sql.StepTokens

/-!
# What spacing tells

A text of steps is the text of no other steps (`layout_of_bare`), as long as their words hold no
spaces, commas and parentheses. A name directly before a parenthesis begins a call; behind a
space the parenthesis is a step of its own.
-/

namespace RowExpr.Sql

/-- A character that stands between words. -/
def isPunctuation (c : Char) : Bool := c == ' ' || c == ',' || c == '(' || c == ')'

def isBareWord (s : List Char) : Bool := !s.isEmpty && s.all (!isPunctuation ·)

/-- A step whose word, if it has one, is not empty and holds no punctuation. -/
def Step.isBare : Step → Bool
  | word text | call text => isBareWord text.toList
  | comma | paren | close => true

theorem isBareWord_iff {s : List Char} :
    isBareWord s = true ↔ s ≠ [] ∧ ∀ c ∈ s, isPunctuation c = false := by
  simp [isBareWord]

/-! ## Steps -/

namespace Step

/-- Whether a space may come before a step. -/
def leads : Step → Bool
  | word _ | paren | call _ => true
  | comma | close => false

theorem chars_eq (spaced : Bool) (s : Step) :
    s.chars spaced = (if spaced && s.leads then [' '] else []) ++ s.chars false := by
  cases s <;> cases spaced <;> rfl

section

variable {s : Step} (hs : s.isBare = true)

include hs

theorem chars_ne_nil (spaced : Bool) : s.chars spaced ≠ [] := by
  cases s with
  | word text =>
    have hne := (isBareWord_iff.1 hs).1
    cases spaced <;> simp_all [chars]
  | comma | close => simp [chars]
  | paren | call => cases spaced <;> simp [chars]

theorem ne_of_mem_chars {c : Char} (hc : c ∈ s.chars false) :
    c ≠ ' ' ∧ (s.leads = true → c ≠ ')') := by
  have hinside : ∀ text, isBareWord text = true → c ∈ text → c ≠ ' ' ∧ c ≠ ')' := by
    intro text htext hmem
    have hnot := (isBareWord_iff.1 htext).2 c hmem
    constructor <;> rintro rfl <;> cases hnot
  cases s with
  | word text => exact (hinside _ hs hc).imp_right fun h _ => h
  | call name =>
    rcases List.mem_append.1 hc with hc | hc
    · exact (hinside _ hs hc).imp_right fun h _ => h
    · cases List.mem_singleton.1 hc
      exact ⟨by decide, fun _ => by decide⟩
  | paren =>
    cases List.mem_singleton.1 hc
    exact ⟨by decide, fun _ => by decide⟩
  | comma | close =>
    cases List.mem_singleton.1 hc
    exact ⟨by decide, fun h => by cases h⟩

end

end Step

/-! ## Reading a step -/

/-- The step that begins with a word, or with none, and the text behind the step. -/
def stepOf : List Char → List Char → Step × List Char
  | [], ',' :: rest => (.comma, rest)
  | [], '(' :: rest => (.paren, rest)
  | [], ')' :: rest => (.close, rest)
  | text, '(' :: rest => (.call (String.ofList text), rest)
  | text, rest => (.word (String.ofList text), rest)

/-- The first step of a text, and the text behind it. Spaces before it are passed over. -/
def firstStep (s : List Char) : Step × List Char :=
  let s := s.dropWhile (· == ' ')
  stepOf (s.takeWhile (!isPunctuation ·)) (s.dropWhile (!isPunctuation ·))

/-- Behind a word comes punctuation, and no parenthesis that would make it a call. -/
theorem head_layoutFrom_true {steps : List Step} {c : Char}
    (hc : c ∈ (layoutFrom true steps).head?) : isPunctuation c = true ∧ c ≠ '(' := by
  cases steps with
  | nil => cases hc
  | cons s rest => cases s <;> cases hc <;> decide

theorem stepOf_word {text rest : List Char} (htext : text ≠ []) (hrest : rest.head? ≠ some '(') :
    stepOf text rest = (.word (String.ofList text), rest) := by
  unfold stepOf
  split
  all_goals first | contradiction | rfl

theorem stepOf_call {text : List Char} (htext : text ≠ []) (rest : List Char) :
    stepOf text ('(' :: rest) = (.call (String.ofList text), rest) := by
  cases text with
  | nil => contradiction
  | cons => rfl

theorem dropWhile_space_layoutFrom {s : Step} (hs : s.isBare = true) (spaced : Bool)
    (rest : List Step) :
    (layoutFrom spaced (s :: rest)).dropWhile (· == ' ') =
      s.chars false ++ layoutFrom s.spaces rest := by
  obtain ⟨c, tail, htext⟩ := List.exists_cons_of_ne_nil (s.chars_ne_nil hs false)
  have hc : (c == ' ') = false := by
    simpa using (s.ne_of_mem_chars hs (htext ▸ List.mem_cons_self)).1
  rw [layoutFrom, Step.chars_eq spaced, htext]
  cases spaced && s.leads <;> simp [hc]

theorem firstStep_layoutFrom {s : Step} (hs : s.isBare = true) (spaced : Bool)
    (rest : List Step) :
    firstStep (layoutFrom spaced (s :: rest)) = (s, layoutFrom s.spaces rest) := by
  rw [firstStep, dropWhile_space_layoutFrom hs]
  cases s with
  | word text =>
    obtain ⟨hne, hinside⟩ := isBareWord_iff.1 hs
    obtain ⟨htake, hdrop⟩ := takeWhile_word hinside fun c hc => (head_layoutFrom_true hc).1
    show stepOf ((text.toList ++ layoutFrom true rest).takeWhile _)
      ((text.toList ++ layoutFrom true rest).dropWhile _) = _
    rw [htake, hdrop, stepOf_word hne fun h => (head_layoutFrom_true h).2 rfl,
      String.ofList_toList]
    rfl
  | call name =>
    obtain ⟨hne, hinside⟩ := isBareWord_iff.1 hs
    have hparen : ∀ c ∈ ('(' :: layoutFrom false rest).head?, isPunctuation c = true := by
      rintro c ⟨⟩
      decide
    obtain ⟨htake, hdrop⟩ := takeWhile_word hinside hparen
    have htext : (Step.call name).chars false ++ layoutFrom (Step.call name).spaces rest =
        name.toList ++ '(' :: layoutFrom false rest := by
      simp [Step.chars, Step.spaces]
    rw [htext, htake, hdrop, stepOf_call hne, String.ofList_toList]
    rfl
  | comma | paren | close => rfl

theorem layoutFrom_eq_nil_iff {spaced : Bool} {steps : List Step}
    (h : ∀ s ∈ steps, s.isBare = true) : layoutFrom spaced steps = [] ↔ steps = [] := by
  cases steps with
  | nil => simp [layoutFrom]
  | cons s rest => simp [layoutFrom, s.chars_ne_nil (h s List.mem_cons_self)]

/-- Steps are read one by one, each with what is due before it. -/
theorem layoutFrom_injective {spaced : Bool} {as bs : List Step}
    (has : ∀ s ∈ as, s.isBare = true) (hbs : ∀ s ∈ bs, s.isBare = true)
    (h : layoutFrom spaced as = layoutFrom spaced bs) : as = bs := by
  induction as generalizing spaced bs with
  | nil => exact ((layoutFrom_eq_nil_iff hbs).1 h.symm).symm
  | cons s as ih =>
    cases bs with
    | nil => exact (layoutFrom_eq_nil_iff has).1 h
    | cons t bs =>
      rw [List.forall_mem_cons] at has hbs
      have hfirst := congrArg firstStep h
      rw [firstStep_layoutFrom has.1, firstStep_layoutFrom hbs.1, Prod.mk.injEq] at hfirst
      obtain ⟨rfl, hrest⟩ := hfirst
      rw [ih has.2 hbs.2 hrest]

/-! ## Spaces -/

/-- May stand next to each other: no two spaces, and none on the inside of a parenthesis. -/
def Adjacent (a b : Char) : Prop :=
  (b = ' ' → a ≠ ' ' ∧ a ≠ '(') ∧ (a = ' ' → b ≠ ')')

structure WellSpaced (s : List Char) : Prop where
  head : s.head? ≠ some ' '
  last : s.getLast? ≠ some ' '
  inside : s.IsChain Adjacent

section

variable {s : Step} (hs : s.isBare = true)

include hs

/-- Whether a space is due behind a step shows in its last character. -/
theorem last_chars {spaced : Bool} {c : Char} (hc : c ∈ (s.chars spaced).getLast?) :
    c ≠ ' ' ∧ (s.spaces = true → c ≠ '(') := by
  have hlast : (s.chars spaced).getLast? = (s.chars false).getLast? := by
    rw [Step.chars_eq, List.getLast?_append_of_ne_nil _ (s.chars_ne_nil hs false)]
  rw [hlast] at hc
  refine ⟨(s.ne_of_mem_chars hs (List.mem_of_mem_getLast? hc)).1, fun hspaces => ?_⟩
  cases s with
  | word text =>
    rintro rfl
    cases (isBareWord_iff.1 hs).2 _ (List.mem_of_mem_getLast? hc)
  | comma | close => cases hc; decide
  | paren | call => cases hspaces

theorem isChain_chars (spaced : Bool) : (s.chars spaced).IsChain Adjacent := by
  have hinside : (s.chars false).IsChain Adjacent := by
    refine (List.pairwise_of_forall_mem_list fun a ha b hb => ?_).isChain
    have hspace : ∀ c ∈ s.chars false, c ≠ ' ' := fun c hc => (s.ne_of_mem_chars hs hc).1
    exact ⟨fun h => absurd h (hspace b hb), fun h => absurd h (hspace a ha)⟩
  rw [Step.chars_eq, List.isChain_append]
  refine ⟨by split <;> simp, hinside, fun a ha b hb => ?_⟩
  split at ha
  · next hgap =>
    cases ha
    rw [Bool.and_eq_true] at hgap
    have hb := s.ne_of_mem_chars hs (List.mem_of_mem_head? hb)
    exact ⟨fun h => absurd h hb.1, fun _ => hb.2 hgap.2⟩
  · cases ha

end

theorem head_layoutFrom {spaced : Bool} {steps : List Step}
    (h : ∀ s ∈ steps, s.isBare = true) (hhead : (layoutFrom spaced steps).head? = some ' ') :
    spaced = true := by
  cases steps with
  | nil => cases hhead
  | cons s rest =>
    have hs := h s List.mem_cons_self
    rw [layoutFrom, List.head?_append_of_ne_nil _ (s.chars_ne_nil hs spaced)] at hhead
    by_contra hspaced
    rw [Bool.not_eq_true] at hspaced
    rw [hspaced] at hhead
    exact (s.ne_of_mem_chars hs (List.mem_of_mem_head? hhead)).1 rfl

theorem isChain_layoutFrom {steps : List Step} (h : ∀ s ∈ steps, s.isBare = true)
    (spaced : Bool) : (layoutFrom spaced steps).IsChain Adjacent := by
  induction steps generalizing spaced with
  | nil => exact .nil
  | cons s rest ih =>
    rw [List.forall_mem_cons] at h
    rw [layoutFrom, List.isChain_append]
    refine ⟨isChain_chars h.1 spaced, ih h.2 s.spaces, fun a ha b hb => ?_⟩
    obtain ⟨hspace, hopening⟩ := last_chars h.1 ha
    refine ⟨?_, fun ha => absurd ha hspace⟩
    rintro rfl
    exact ⟨hspace, hopening (head_layoutFrom h.2 hb)⟩

theorem last_layoutFrom {steps : List Step} (h : ∀ s ∈ steps, s.isBare = true) (spaced : Bool) :
    (layoutFrom spaced steps).getLast? ≠ some ' ' := by
  induction steps generalizing spaced with
  | nil => simp [layoutFrom]
  | cons s rest ih =>
    rw [List.forall_mem_cons] at h
    rw [layoutFrom, List.getLast?_append, ne_eq, Option.or_eq_some_iff, not_or, not_and]
    exact ⟨ih h.2 s.spaces, fun _ hlast => (last_chars h.1 hlast).1 rfl⟩

theorem wellSpaced_layout {steps : List Step} (h : ∀ s ∈ steps, s.isBare = true) :
    WellSpaced (layout steps).toList := by
  rw [layout, String.toList_ofList]
  refine ⟨fun hhead => ?_, last_layoutFrom h false, isChain_layoutFrom h false⟩
  cases head_layoutFrom h hhead

/-! ## Parentheses -/

/-- How many parentheses are open behind a character; nothing may be closed that is not open. -/
def nestChar : Nat → Char → Option Nat
  | n, '(' => some (n + 1)
  | 0, ')' => none
  | n + 1, ')' => some n
  | n, _ => some n

/-- A text whose parentheses match. -/
def BalancedText (s : List Char) : Prop := s.foldlM nestChar 0 = some 0

theorem nestChar_of_ne {c : Char} (hopening : c ≠ '(') (hclosing : c ≠ ')') (n : Nat) :
    nestChar n c = some n := by
  unfold nestChar
  split
  all_goals first | contradiction | rfl

theorem foldlM_nestChar_of_isBareWord {text : List Char}
    (htext : ∀ c ∈ text, isPunctuation c = false) (n : Nat) :
    text.foldlM nestChar n = some n := by
  induction text with
  | nil => rfl
  | cons c rest ih =>
    rw [List.forall_mem_cons] at htext
    have hc : c ≠ '(' ∧ c ≠ ')' := by constructor <;> rintro rfl <;> cases htext.1
    rw [List.foldlM_cons, nestChar_of_ne hc.1 hc.2]
    exact ih htext.2

theorem foldlM_nestChar_chars {s : Step} (hs : s.isBare = true) (spaced : Bool) (n : Nat) :
    (s.chars spaced).foldlM nestChar n = nest n s.token := by
  have hgap : (if spaced && s.leads then [' '] else []).foldlM nestChar n = some n := by
    split
    · cases n <;> rfl
    · rfl
  rw [Step.chars_eq, List.foldlM_append, hgap]
  show (s.chars false).foldlM nestChar n = _
  cases s with
  | word text =>
    show text.toList.foldlM nestChar n = _
    rw [foldlM_nestChar_of_isBareWord (isBareWord_iff.1 hs).2]
    cases n <;> rfl
  | call name =>
    show (name.toList ++ ['(']).foldlM nestChar n = _
    rw [List.foldlM_append, foldlM_nestChar_of_isBareWord (isBareWord_iff.1 hs).2]
    cases n <;> rfl
  | comma | paren | close => cases n <;> rfl

theorem foldlM_nestChar_layoutFrom {steps : List Step} (h : ∀ s ∈ steps, s.isBare = true)
    (spaced : Bool) (n : Nat) :
    (layoutFrom spaced steps).foldlM nestChar n = (steps.map Step.token).foldlM nest n := by
  induction steps generalizing spaced n with
  | nil => rfl
  | cons s rest ih =>
    rw [List.forall_mem_cons] at h
    rw [layoutFrom, List.foldlM_append, foldlM_nestChar_chars h.1, List.map_cons,
      List.foldlM_cons]
    exact congrArg _ (funext fun m => ih h.2 s.spaces m)

/-- A text of steps is the text of no other steps. It is spaced well, and its parentheses match
exactly if those of the steps do. -/
theorem layout_of_bare {as : List Step} (has : ∀ s ∈ as, s.isBare = true) :
    (∀ bs : List Step, (∀ s ∈ bs, s.isBare = true) → layout as = layout bs → as = bs) ∧
      WellSpaced (layout as).toList ∧
      (BalancedText (layout as).toList ↔ Balanced (as.map Step.token)) := by
  refine ⟨fun bs hbs h => ?_, wellSpaced_layout has, ?_⟩
  · exact layoutFrom_injective has hbs (String.ofList_injective h)
  · rw [layout, String.toList_ofList, BalancedText, Balanced, foldlM_nestChar_layoutFrom has]

namespace Subtraction

/-- A function of two arguments, the second of them in parentheses. -/
def called : List Step :=
  [.call "SUB", .word "a", .comma, .paren, .word "-", .word "b", .close, .close]

/-- The same words, with a group in place of the arguments. -/
def grouped : List Step := .word "SUB" :: .paren :: called.tail

theorem layout_of_called :
    ((∀ s ∈ called, s.isBare = true) ∧ (∀ s ∈ grouped, s.isBare = true) ∧
      Balanced (called.map Step.token)) ∧
    layout called ≠ layout grouped ∧ WellSpaced (layout called).toList ∧
      BalancedText (layout called).toList := by
  have hcalled : ∀ s ∈ called, s.isBare = true := by decide
  have hgrouped : ∀ s ∈ grouped, s.isBare = true := by decide
  have hbalanced : Balanced (called.map Step.token) := by decide
  obtain ⟨hinjective, hspaced, hnested⟩ := layout_of_bare hcalled
  refine ⟨⟨hcalled, hgrouped, hbalanced⟩, fun h => ?_, hspaced, hnested.2 hbalanced⟩
  have hne : called ≠ grouped := by decide
  exact hne (hinjective grouped hgrouped h)

example : layout called = "SUB(a, (- b))" ∧ layout grouped = "SUB (a, (- b))" := by decide

end Subtraction

end RowExpr.Sql
