import Mathlib.Data.List.Range
import RowExpr.Proofs.Host.Binding

/-!
# Substrings

A substring has the characters of a string at the positions of a window, which may begin before
the string and end behind it. The end of a window is cut off at the greatest 64-bit integer and
its start is raised to one; neither takes a character away or adds one.
-/

namespace RowExpr.Host

/-! ## Lists by position -/

section

variable {α : Type}

theorem map_filter_zipIdx (p : Nat → Bool) (l : List α) (k : Nat) :
    ((l.zipIdx k).filter (p ·.2)).map (·.1) =
      ((List.range' k l.length).filter p).filterMap (fun i => l[i - k]?) := by
  induction l generalizing k with
  | nil => rfl
  | cons a l ih =>
    have hrest : ((List.range' (k + 1) l.length).filter p).filterMap (fun i => (a :: l)[i - k]?) =
        ((List.range' (k + 1) l.length).filter p).filterMap (fun i => l[i - (k + 1)]?) := by
      refine List.filterMap_congr fun i hi => ?_
      have hlt := (List.mem_range'_1.1 (List.mem_of_mem_filter hi)).1
      rw [show i - k = i - (k + 1) + 1 by omega, List.getElem?_cons_succ]
    rw [List.zipIdx_cons, List.length_cons, List.range'_succ, List.filter_cons, List.filter_cons]
    by_cases hk : p k = true
    · simp [hk, ih, hrest]
    · simp [hk, ih, hrest]

/-- The elements from one position up to another are what is left of a list when its beginning
and its end are taken away. -/
theorem map_filter_zipIdx_interval (l : List α) (k a b : Nat) :
    ((l.zipIdx k).filter fun x => a ≤ x.2 ∧ x.2 < b).map (·.1) =
      (l.drop (a - k)).take (b - max a k) := by
  induction l generalizing k with
  | nil => simp
  | cons c l ih =>
    rw [List.zipIdx_cons, List.filter_cons]
    by_cases hbefore : k < a
    · have hdrop : a - k = a - (k + 1) + 1 := by omega
      have hmax : max a (k + 1) = max a k := by omega
      rw [if_neg (by simp; omega), ih, hdrop, List.drop_succ_cons, hmax]
    have hdrop : a - k = 0 ∧ a - (k + 1) = 0 := by omega
    have hmax : max a k = k ∧ max a (k + 1) = k + 1 := by omega
    by_cases hinside : k < b
    · have htake : b - k = b - (k + 1) + 1 := by omega
      rw [if_pos (by simp; omega), List.map_cons, ih, hdrop.1, hdrop.2, hmax.1, hmax.2, htake,
        List.drop_zero, List.drop_zero, List.take_succ_cons]
    · have htake : b - k = 0 ∧ b - (k + 1) = 0 := by omega
      rw [if_neg (by simp; omega), ih, hmax.1, hmax.2, htake.1, htake.2, List.take_zero,
        List.take_zero]

end

namespace Function

/-! ## Windows -/

/-- Whether a window takes in a position, on integers of any size. -/
def covers (start : Int64) (length : Option Int64) (position : Nat) : Bool :=
  start.toInt ≤ position && length.all fun n => position < start.toInt + n.toInt

theorem covers_none {start : Int64} {position : Nat} :
    covers start none position = true ↔ start.toInt ≤ position := by
  simp [covers]

theorem covers_some {start n : Int64} {position : Nat} :
    covers start (some n) position = true ↔
      start.toInt ≤ position ∧ position < start.toInt + n.toInt := by
  simp [covers]

/-- The characters at the positions that a window takes in, in their order. -/
def charsAt (s : List Char) (start : Int64) (length : Option Int64) : List Char :=
  ((List.range' 1 s.length).filter (covers start length)).filterMap (fun i => s[i - 1]?)

/-- What is left of a string without what stands before a window and behind it. -/
def cutOut (s : List Char) (start : Int64) (length : Option Int64) : List Char :=
  let rest := s.drop (max start.toInt 1 - 1).toNat
  length.elim rest fun n => rest.take (max 0 (start.toInt + n.toInt - max start.toInt 1)).toNat

theorem maxPosition_eq : maxPosition = Int64.maxValue.toInt := by decide

/-- No position of a string that is short enough tells the cut end of a window from its end. -/
theorem inWindow_eq_covers {start : Int64} {length : Option Int64} {position : Nat}
    (hfirst : 1 ≤ position) (hlast : position < maxPosition) :
    inWindow start length position = covers start length position := by
  rw [Bool.eq_iff_iff]
  cases length with
  | none =>
    rw [covers_none, inWindow, Bool.and_true, decide_eq_true_iff]
    omega
  | some n =>
    rw [covers_some, inWindow, Bool.and_eq_true, decide_eq_true_iff, decide_eq_true_iff, windowEnd]
    omega

section

variable {s : List Char} (start : Int64) (length : Option Int64)

theorem window_eq_charsAt (hs : s.length < maxPosition) :
    ((s.zipIdx 1).filter (inWindow start length ·.2)).map (·.1) = charsAt s start length := by
  rw [map_filter_zipIdx (inWindow start length), charsAt]
  congr 1
  refine List.filter_congr fun i hi => ?_
  obtain ⟨hfirst, hlast⟩ := List.mem_range'_1.1 hi
  exact inWindow_eq_covers hfirst (by omega)

theorem charsAt_eq_cutOut (s : List Char) : charsAt s start length = cutOut s start length := by
  have hinterval : ∀ b : Nat,
      (∀ i, 1 ≤ i → i < 1 + s.length →
        (covers start length i = true ↔ (max start.toInt 1).toNat ≤ i ∧ i < b)) →
      charsAt s start length =
        (s.drop ((max start.toInt 1).toNat - 1)).take (b - max (max start.toInt 1).toNat 1) := by
    intro b hb
    rw [← map_filter_zipIdx_interval,
      map_filter_zipIdx fun i => (max start.toInt 1).toNat ≤ i ∧ i < b, charsAt]
    congr 1
    refine List.filter_congr fun i hi => ?_
    obtain ⟨hfirst, hlast⟩ := List.mem_range'_1.1 hi
    rw [Bool.eq_iff_iff, hb i hfirst hlast, decide_eq_true_iff]
  cases length with
  | none =>
    rw [hinterval (1 + s.length) fun i hfirst hlast => ?_, cutOut, Option.elim_none,
      List.take_of_length_le]
    · congr 1
      omega
    · rw [List.length_drop]
      omega
    · rw [covers_none]
      omega
  | some n =>
    rw [hinterval (start.toInt + n.toInt).toNat fun i hfirst hlast => ?_, cutOut, Option.elim_some]
    · congr 1
      · omega
      · congr 1
        omega
    · rw [covers_some]
      omega

end

theorem substring_of_negative {n : Int64} (hn : n < 0) (s : String) (start : Int64) :
    substring s start (some n) = .error (.negativeLength n) := by
  rw [substring, if_pos hn]

theorem substring_of_short {s : String} (hs : s.length < maxPosition) (start : Int64)
    {length : Option Int64} (hlength : ∀ n ∈ length, ¬ n < 0) :
    substring s start length = .ok (String.ofList (charsAt s.toList start length)) := by
  rw [← String.length_toList] at hs
  rw [← window_eq_charsAt start length hs]
  cases length with
  | none => rfl
  | some n => rw [substring, if_neg (hlength n rfl)]

end Function

/-! ## The method -/

/-- The arguments of the method, which has an overload without a length. -/
def substringArgs (s : String) (start : Int64) (length : Option Int64) : List Value :=
  .string s :: .int start :: (length.map Value.int).toList

theorem invoke_substring (s : String) (start : Int64) (length : Option Int64) :
    MethodTable.standard.invoke Standard.owner "substring" (substringArgs s start length) =
      ofFunction .string (Function.substring s start length) := by
  cases length with
  | none =>
    rw [MethodTable.invoke, MethodTable.standard, MethodTable.resolve_ofList]
    rfl
  | some n =>
    rw [MethodTable.invoke, MethodTable.standard, MethodTable.resolve_ofList]
    rfl

/-- A substring is refused just where a negative length is given. Else it is made of the
characters at the positions of its window, counted without bound, or, which is the same, of what
is left of the string without its beginning and its end. -/
theorem substring_exact (s : String) (start : Int64) (length : Option Int64)
    (hs : s.length < Int64.maxValue.toInt) :
    MethodTable.standard.invoke Standard.owner "substring" (substringArgs s start length) =
        ofFunction .string (Function.substring s start length) ∧
      (∀ e, Function.substring s start length = .error e ↔
        ∃ n ∈ length, n < 0 ∧ e = .negativeLength n) ∧
      ((∀ n ∈ length, ¬ n < 0) → Function.substring s start length =
        .ok (String.ofList (Function.charsAt s.toList start length))) ∧
      Function.charsAt s.toList start length = Function.cutOut s.toList start length := by
  rw [← Function.maxPosition_eq] at hs
  refine ⟨invoke_substring s start length, fun e => ⟨fun h => ?_, ?_⟩,
    Function.substring_of_short hs start, Function.charsAt_eq_cutOut start length s.toList⟩
  · by_contra hnone
    have hlength : ∀ n ∈ length, ¬ n < 0 := by
      intro n hn hneg
      rw [hn, Function.substring_of_negative hneg] at h
      cases h
      exact hnone ⟨n, hn, hneg, rfl⟩
    rw [Function.substring_of_short hs start hlength] at h
    cases h
  · rintro ⟨n, hn, hneg, rfl⟩
    rw [hn]
    exact Function.substring_of_negative hneg s start

/-- One window ends past the greatest integer, the other begins far before the string. -/
theorem substring_exact_of_hello :
    (("hello".length : Int) < Int64.maxValue.toInt ∧ ∀ n ∈ some Int64.maxValue, ¬ n < 0) ∧
    Function.substring "hello" 3 (some Int64.maxValue) = .ok "llo" ∧
      Function.substring "hello" (-Int64.maxValue + 2) (some Int64.maxValue) = .ok "h" := by
  have hs : ("hello".length : Int) < Int64.maxValue.toInt := by decide
  have hlength : ∀ n ∈ some Int64.maxValue, ¬ n < 0 := by
    intro n hn
    cases hn
    decide
  refine ⟨⟨hs, hlength⟩, ?_, ?_⟩
  · rw [(substring_exact "hello" 3 (some Int64.maxValue) hs).2.2.1 hlength]
    rfl
  · rw [(substring_exact "hello" (-Int64.maxValue + 2) (some Int64.maxValue) hs).2.2.1 hlength]
    rfl

end RowExpr.Host
