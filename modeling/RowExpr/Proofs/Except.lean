import Mathlib.Data.List.Forall2

/-!
# Computations that may fail

What it says of the steps of a computation that the whole of it succeeds, or fails.
-/

namespace RowExpr

variable {ε α β : Type}

theorem ok_bind (a : α) (f : α → Except ε β) : (Except.ok a >>= f) = f a := by
  simp only [bind, Except.bind]

theorem bind_eq_ok_iff {x : Except ε α} {f : α → Except ε β} {b : β} :
    x >>= f = .ok b ↔ ∃ a, x = .ok a ∧ f a = .ok b := by
  cases x with
  | ok a => exact ⟨fun h => ⟨a, rfl, h⟩, fun ⟨_, ha, h⟩ => by cases ha; exact h⟩
  | error e => exact ⟨nofun, fun ⟨_, ha, _⟩ => nomatch ha⟩

theorem bind_eq_error_iff {x : Except ε α} {f : α → Except ε β} {e : ε} :
    x >>= f = .error e ↔ x = .error e ∨ ∃ a, x = .ok a ∧ f a = .error e := by
  cases x with
  | ok a => simp [ok_bind]
  | error e' => simp [bind, Except.bind]

theorem exists_ok_iff_forall_ne_error {x : Except ε α} :
    (∃ a, x = .ok a) ↔ ∀ e, x ≠ .error e := by
  cases x with
  | ok a => exact ⟨fun _ => nofun, fun _ => ⟨a, rfl⟩⟩
  | error e => exact ⟨nofun, fun h => absurd rfl (h e)⟩

theorem bind_ok (x : Except ε α) : x >>= Except.ok = x := by
  cases x <;> rfl

theorem forall₂_congr_of_mem {R S : α → β → Prop} {as : List α} {bs : List β}
    (h : ∀ a ∈ as, ∀ b, R a b ↔ S a b) : List.Forall₂ R as bs ↔ List.Forall₂ S as bs := by
  induction as generalizing bs with
  | nil => simp
  | cons a as ih =>
    rw [List.forall_mem_cons] at h
    simp only [List.forall₂_cons_left_iff, h.1, ih h.2]

theorem mapM_eq_ok_iff {f : α → Except ε β} {as : List α} {bs : List β} :
    as.mapM f = .ok bs ↔ List.Forall₂ (fun a b => f a = .ok b) as bs := by
  induction as generalizing bs with
  | nil =>
    rw [List.mapM_nil, List.forall₂_nil_left_iff]
    exact ⟨fun h => by cases h; rfl, fun h => by rw [h]; rfl⟩
  | cons a as ih =>
    rw [List.mapM_cons, List.forall₂_cons_left_iff, bind_eq_ok_iff]
    simp only [bind_eq_ok_iff, ih]
    constructor
    · rintro ⟨b, hb, rest, hrest, h⟩
      cases h
      exact ⟨b, rest, hb, hrest, rfl⟩
    · rintro ⟨b, rest, hb, hrest, rfl⟩
      exact ⟨b, hb, rest, hrest, rfl⟩

theorem exists_of_mem_of_mapM {f : α → Except ε β} {as : List α} {bs : List β}
    (h : as.mapM f = .ok bs) {b : β} (hb : b ∈ bs) : ∃ a ∈ as, f a = .ok b := by
  rw [mapM_eq_ok_iff] at h
  induction h with
  | nil => cases hb
  | @cons a b' as bs hfirst _ ih =>
    rcases List.mem_cons.1 hb with rfl | hb
    · exact ⟨a, List.mem_cons_self, hfirst⟩
    · obtain ⟨a', ha', h'⟩ := ih hb
      exact ⟨a', List.mem_cons_of_mem a ha', h'⟩

/-! ## The first failure -/

/-- The first element of a list that `R` finds something wrong with, and what that is. -/
def FirstOf (R : α → ε → Prop) (as : List α) (e : ε) : Prop :=
  ∃ before a after, as = before ++ a :: after ∧ (∀ b ∈ before, ∀ e', ¬ R b e') ∧ R a e

section

variable {R : α → ε → Prop} {a : α} {as bs : List α} {e : ε}

theorem not_firstOf_nil : ¬ FirstOf R [] e := by
  rintro ⟨before, a, after, h, -⟩
  cases before <;> cases h

theorem firstOf_cons : FirstOf R (a :: as) e ↔ R a e ∨ (∀ e', ¬ R a e') ∧ FirstOf R as e := by
  constructor
  · rintro ⟨_ | ⟨b, before⟩, c, after, h, hbefore, hR⟩
    · cases h
      exact .inl hR
    · cases h
      rw [List.forall_mem_cons] at hbefore
      exact .inr ⟨hbefore.1, before, c, after, rfl, hbefore.2, hR⟩
  · rintro (hR | ⟨ha, before, c, after, rfl, hbefore, hR⟩)
    · exact ⟨[], a, as, rfl, List.forall_mem_nil _, hR⟩
    · exact ⟨a :: before, c, after, rfl, List.forall_mem_cons.2 ⟨ha, hbefore⟩, hR⟩

theorem firstOf_singleton : FirstOf R [a] e ↔ R a e := by
  simp [firstOf_cons, not_firstOf_nil]

theorem firstOf_append :
    FirstOf R (as ++ bs) e ↔ FirstOf R as e ∨ (∀ a ∈ as, ∀ e', ¬ R a e') ∧ FirstOf R bs e := by
  induction as with
  | nil => simp [not_firstOf_nil]
  | cons a as ih =>
    rw [List.cons_append, firstOf_cons, firstOf_cons, List.forall_mem_cons, ih, and_or_left,
      or_assoc, and_assoc]

theorem forall_not_firstOf : (∀ e, ¬ FirstOf R as e) ↔ ∀ a ∈ as, ∀ e, ¬ R a e := by
  induction as with
  | nil => simp [not_firstOf_nil]
  | cons a as ih =>
    simp only [firstOf_cons, List.forall_mem_cons, ← ih, not_or, not_and, forall_and]
    exact ⟨fun h => ⟨h.1, fun e => h.2 e h.1⟩, fun h => ⟨h.1, fun e _ => h.2 e⟩⟩

/-- What is wrong with an element is what is first wrong with its parts. -/
theorem firstOf_flatMap {S : β → ε → Prop} {parts : α → List β}
    (h : ∀ a ∈ as, ∀ e, R a e ↔ FirstOf S (parts a) e) :
    FirstOf R as e ↔ FirstOf S (as.flatMap parts) e := by
  induction as with
  | nil => simp [not_firstOf_nil]
  | cons a as ih =>
    rw [List.forall_mem_cons] at h
    rw [firstOf_cons, List.flatMap_cons, firstOf_append, ih h.2, ← forall_not_firstOf]
    simp only [h.1]

end

theorem mapM_eq_error_iff {f : α → Except ε β} {as : List α} {e : ε} :
    as.mapM f = .error e ↔ FirstOf (fun a e => f a = .error e) as e := by
  induction as with
  | nil => simp [not_firstOf_nil, pure, Except.pure]
  | cons a as ih =>
    rw [List.mapM_cons, firstOf_cons, ← ih, bind_eq_error_iff, ← exists_ok_iff_forall_ne_error]
    simp [bind_eq_error_iff, pure, Except.pure]

end RowExpr
