import RowExpr.Proofs.Host.Binding
import RowExpr.Proofs.Host.Outcome

/-!
# The standard methods

On arguments of the types that their operators take, the standard methods come to a value of
the operator's type, or fail as a method may.
-/

namespace RowExpr.Host

/-! ## Parameters -/

/-- Every value of the type passes into the parameter as it is. -/
def Takes (param : HostType) (t : TypeName) : Prop :=
  ∀ v, Fits t v → convertTo v param = .ok v

theorem takes_object (t : TypeName) : Takes Standard.objectType t := by
  intro v _
  exact convertTo_inBox (.inr rfl)

theorem takes_string {t : SqlType} (ht : OperandRule.isText t = true) :
    Takes Standard.stringType t.name := by
  intro v hv
  apply convertTo_inBox
  by_cases hnull : v = .null
  · exact .inl hnull
  · obtain ⟨s, rfl, -⟩ := hv.text ht hnull
    exact .inr rfl

theorem takes_int {t : TypeName} (ht : t.isIntegral = true) : Takes Standard.intType t := by
  intro v hv
  apply convertTo_inBox
  by_cases hnull : v = .null
  · exact .inl hnull
  · obtain ⟨i, rfl⟩ := hv.integral ht hnull
    exact .inr rfl

theorem takes_symbol : Takes (.inBox .symbol) .symbol := by
  intro v hv
  apply convertTo_inBox
  by_cases hnull : v = .null
  · exact .inl hnull
  · obtain ⟨f, rfl⟩ := hv.symbol hnull
    exact .inr rfl

/-! ## Bodies -/

/-- A strict method only has to do with arguments that are not null. -/
theorem outcome_strict {body : List Value → Except EvalError Value} {vs : List Value}
    {t : TypeName} (h : (∀ v ∈ vs, v ≠ .null) → Outcome (Fits t) (body vs)) :
    Outcome (Fits t) (strict body vs) := by
  unfold strict
  split
  · exact .null
  · next hnull =>
    apply h
    rintro v hv rfl
    exact hnull (List.any_eq_true.2 ⟨_, hv, rfl⟩)

theorem outcome_ofFunction {α : Type} {P : Value → Prop} {f : α → Value} (hf : ∀ a, P (f a))
    (x : Except MethodFailure α) : Outcome P (ofFunction f x) := by
  cases x with
  | ok a => exact hf a
  | error e => exact .method e

namespace Standard

/-! ## Text -/

section

variable {t : SqlType} {v : Value} (ht : OperandRule.isText t = true) (hv : Fits t.name v)

include ht hv

theorem outcome_text {body : List Value → Except EvalError Value} {u : TypeName}
    (hbody : ∀ s, Kind.ofTypeName t.name = .string → Outcome (Fits u) (body [.string s])) :
    Outcome (Fits u) (strict body [v]) := by
  apply outcome_strict
  intro hnull
  obtain ⟨s, rfl, hs⟩ := hv.text ht (hnull v (by simp))
  exact hbody s hs

theorem outcome_upper : Outcome (Fits t.name) (strict upperBody [v]) :=
  outcome_text ht hv fun _ hs => .string hs

theorem outcome_lower : Outcome (Fits t.name) (strict lowerBody [v]) :=
  outcome_text ht hv fun _ hs => .string hs

theorem outcome_charLength : Outcome (Fits .integer) (strict charLengthBody [v]) :=
  outcome_text ht hv fun _ _ => .int rfl

theorem outcome_substring {start : TypeName} (hstart : start.isIntegral = true) {i : Value}
    (hi : Fits start i) : Outcome (Fits t.name) (strict substringBody [v, i]) := by
  apply outcome_strict
  intro hnull
  obtain ⟨s, rfl, hs⟩ := hv.text ht (hnull v (by simp))
  obtain ⟨i, rfl⟩ := hi.integral hstart (hnull i (by simp))
  show Outcome _ (ofFunction .string (Function.substring s i none))
  exact outcome_ofFunction (fun _ => .string hs) _

theorem outcome_substringFor {start length : TypeName} (hstart : start.isIntegral = true)
    (hlength : length.isIntegral = true) {i n : Value} (hi : Fits start i) (hn : Fits length n) :
    Outcome (Fits t.name) (strict substringBody [v, i, n]) := by
  apply outcome_strict
  intro hnull
  obtain ⟨s, rfl, hs⟩ := hv.text ht (hnull v (by simp))
  obtain ⟨i, rfl⟩ := hi.integral hstart (hnull i (by simp))
  obtain ⟨n, rfl⟩ := hn.integral hlength (hnull n (by simp))
  show Outcome _ (ofFunction .string (Function.substring s i (some n)))
  exact outcome_ofFunction (fun _ => .string hs) _

theorem outcome_trim {f : Value} (hf : Fits .symbol f) {u : SqlType} {c : Value}
    (hu : OperandRule.isText u = true) (hc : Fits u.name c) :
    Outcome (Fits .varchar) (strict trimBody [f, c, v]) := by
  apply outcome_strict
  intro hnull
  obtain ⟨f, rfl⟩ := hf.symbol (hnull f (by simp))
  obtain ⟨c, rfl, -⟩ := hc.text hu (hnull c (by simp))
  obtain ⟨s, rfl, -⟩ := hv.text ht (hnull v (by simp))
  simp only [trimBody, flagArg, stringArg, bind, Except.bind]
  split
  · exact .string rfl
  · exact .method _

end

/-! ## Numbers -/

theorem outcome_abs {t : SqlType} (ht : OperandRule.isNumberOrInterval t = true) {v : Value}
    (hv : Fits t.name v) : Outcome (Fits t.name) (strict absBody [v]) := by
  apply outcome_strict
  intro hnull
  rcases hv.number ht with rfl | ⟨i, rfl, hi⟩ | ⟨x, rfl, hx⟩
  · exact absurd rfl (hnull _ List.mem_cons_self)
  · exact outcome_ofFunction (fun _ => .int hi) _
  · exact .float hx

theorem outcome_nullIndicator (v : Value) : Outcome (Fits .integer) (nullIndicatorBody [v]) :=
  .int rfl

end Standard

end RowExpr.Host
