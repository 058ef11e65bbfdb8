/-!
# How many operands

An arity has a lower and an upper bound; either may be open. Outside, an open bound is
written -1.
-/

namespace RowExpr

/-- A bound: a count that fits in 31 bits. -/
abbrev Bound := Fin 2147483648

/-- The number that stands for a bound outside. -/
def boundNumber : Option Bound → Int
  | none => -1
  | some b => b.val

/-- The bound that a number stands for. -/
def bound? (n : Int) : Option (Option Bound) :=
  if n = -1 then some none
  else if h : 0 ≤ n ∧ n < 2147483648 then some (some ⟨n.toNat, by omega⟩)
  else none

theorem bound?_boundNumber (b : Option Bound) : bound? (boundNumber b) = some b := by
  cases b with
  | none => rfl
  | some b =>
    have h : (b.val : Int) ≠ -1 ∧ 0 ≤ (b.val : Int) ∧ (b.val : Int) < 2147483648 := by omega
    simp [bound?, boundNumber, h]

structure Arity where
  lower : Option Bound
  upper : Option Bound
  deriving DecidableEq, Repr, Inhabited

/-- Why two bounds make no arity. -/
inductive ArityError
  /-- The pair asked for. -/
  | invalid (min max : Int)
  | negativeCount
  | disordered
  | negativeLower
  | negativeUpper
  deriving DecidableEq, Repr

def ArityError.message : ArityError → String
  | invalid min max => "Invalid arity range: min " ++ toString min ++ ", max " ++ toString max
  | negativeCount => "operand count must not be negative"
  | disordered => "arity bounds must satisfy 0 <= min <= max"
  | negativeLower => "lower arity bound must not be negative"
  | negativeUpper => "upper arity bound must not be negative"

namespace Arity

def unbounded : Arity := ⟨none, none⟩

def exactly (count : Bound) : Arity := ⟨some count, some count⟩

def between (min max : Bound) : Arity := ⟨some min, some max⟩

def zero : Arity := exactly 0

def one : Arity := exactly 1

def two : Arity := exactly 2

def three : Arity := exactly 3

def twoOrThree : Arity := between 2 3

def lowerNumber (a : Arity) : Int := boundNumber a.lower

def upperNumber (a : Arity) : Int := boundNumber a.upper

def Ordered (a : Arity) : Prop :=
  ∀ m ∈ a.lower, ∀ n ∈ a.upper, m ≤ n

instance (a : Arity) : Decidable a.Ordered :=
  match a with
  | ⟨some m, some n⟩ =>
    decidable_of_iff (m ≤ n) (by simp [Ordered])
  | ⟨none, _⟩ => isTrue (by simp [Ordered])
  | ⟨some _, none⟩ => isTrue (by simp [Ordered])

/-- The arity of two bounds, each -1 where it is open. -/
def ofBounds (min max : Int) : Except ArityError Arity :=
  match bound? min, bound? max with
  | some lower, some upper =>
    let arity : Arity := ⟨lower, upper⟩
    if arity.Ordered then .ok arity else .error (.invalid min max)
  | _, _ => .error (.invalid min max)

theorem ofBounds_numbers {a : Arity} (h : a.Ordered) :
    ofBounds a.lowerNumber a.upperNumber = .ok a := by
  simp [ofBounds, lowerNumber, upperNumber, bound?_boundNumber, h]

/-! ## From counts that are known -/

def ofCount (count : Int) : Except ArityError Arity :=
  if 0 ≤ count then ofBounds count count else .error .negativeCount

def ofRange (min max : Int) : Except ArityError Arity :=
  if 0 ≤ min ∧ min ≤ max then ofBounds min max else .error .disordered

def atLeast (min : Int) : Except ArityError Arity :=
  if 0 ≤ min then ofBounds min (-1) else .error .negativeLower

def atMost (max : Int) : Except ArityError Arity :=
  if 0 ≤ max then ofBounds (-1) max else .error .negativeUpper

/-! ## Counting -/

/-- Whether `n` operands are neither too few nor too many. -/
def admits (a : Arity) (n : Nat) : Bool :=
  a.lower.all (·.val ≤ n) && a.upper.all (n ≤ ·.val)

theorem admits_unbounded (n : Nat) : unbounded.admits n = true := rfl

theorem admits_exactly (count : Bound) (n : Nat) :
    (exactly count).admits n = true ↔ n = count.val := by
  simp [admits, exactly]
  omega

theorem admits_between (min max : Bound) (n : Nat) :
    (between min max).admits n = true ↔ min.val ≤ n ∧ n ≤ max.val := by
  simp [admits, between]

section

variable {α : Type} {l : List α}

theorem eq_nil_of_admits_zero (h : zero.admits l.length = true) : l = [] :=
  List.length_eq_zero_iff.1 ((admits_exactly 0 _).1 h)

theorem eq_singleton_of_admits_one (h : one.admits l.length = true) : ∃ a, l = [a] :=
  List.length_eq_one_iff.1 ((admits_exactly 1 _).1 h)

theorem eq_pair_of_admits_two (h : two.admits l.length = true) : ∃ a b, l = [a, b] := by
  match l, (admits_exactly 2 _).1 h with
  | [a, b], _ => exact ⟨a, b, rfl⟩

theorem eq_triple_of_admits_three (h : three.admits l.length = true) :
    ∃ a b c, l = [a, b, c] := by
  match l, (admits_exactly 3 _).1 h with
  | [a, b, c], _ => exact ⟨a, b, c, rfl⟩

end

theorem ordered_of_ofBounds {min max : Int} {a : Arity} (h : ofBounds min max = .ok a) :
    a.Ordered := by
  unfold ofBounds at h
  split at h
  · simp only at h
    split at h
    · cases h; assumption
    · cases h
  · cases h

end Arity

end RowExpr
