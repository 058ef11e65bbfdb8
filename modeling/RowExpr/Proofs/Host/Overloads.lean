import Mathlib.Data.List.Induction
import RowExpr.Proofs.Host.MethodCalls

/-!
# Runs of method registrations

Methods are registered in any order, names and parameter counts mixed. Main statement: a name has
one overload for each parameter count that it was registered with, the latest one, and its
overloads stand in the order in which they came (`answersAs_registerAll`).
-/

namespace RowExpr.Host

/-- A method that was registered under a name at a time, counted from zero, and whose place no
later one took. -/
structure Method.StandsSince (m : Method) (ms : List Method) (owner name : String) (time : Nat) :
    Prop where
  registered : ms[time]? = some m
  isNamed : m.IsNamed owner name
  unreplaced : ∀ later m', time < later → ms[later]? = some m' → m'.IsNamed owner name →
    m'.params.length ≠ m.params.length

namespace MethodTable

def registerAll (t : MethodTable) (ms : List Method) : MethodTable := ms.foldl register t

/-- The methods of a name in the order of the times since which they stand. -/
structure Dated (t : MethodTable) (ms : List Method) (owner name : String)
    (dated : List (Nat × Method)) : Prop where
  named : t.named owner name = dated.map (·.2)
  ascending : dated.Pairwise (·.1 < ·.1)
  mem : ∀ time m, (time, m) ∈ dated ↔ m.StandsSince ms owner name time

/-- The table answers as the registrations say, made in this order. -/
structure AnswersAs (t : MethodTable) (ms : List Method) : Prop where
  contains : ∀ owner name, t.contains owner name = true ↔ ∃ m ∈ ms, m.IsNamed owner name
  resolve_some : ∀ owner name count m,
    t.resolve owner name count = some m ↔ m.IsLatest ms owner name count
  resolve_none : ∀ owner name count, t.resolve owner name count = none ↔
    ∀ m ∈ ms, m.IsNamed owner name → m.params.length ≠ count
  /-- One overload for each parameter count. -/
  counts_nodup : ∀ owner name, ((t.named owner name).map (·.params.length)).Nodup
  mem_counts : ∀ owner name count, count ∈ (t.named owner name).map (·.params.length) ↔
    ∃ m ∈ ms, m.IsNamed owner name ∧ m.params.length = count
  order : ∀ owner name, ∃ dated, t.Dated ms owner name dated
  invoke : ∀ owner name args,
    (∃ m : Method, m.IsLatest ms owner name args.length ∧ t.invoke owner name args = m.body args) ∨
      (∀ m ∈ ms, m.IsNamed owner name → m.params.length ≠ args.length) ∧
        t.invoke owner name args = .error (.methodNotFound owner name)

/-- Two tables answer alike whatever is asked about a name. -/
structure AlikeOn (t u : MethodTable) (owner name : String) : Prop where
  contains : t.contains owner name = u.contains owner name
  named : t.named owner name = u.named owner name
  resolve : ∀ count, t.resolve owner name count = u.resolve owner name count
  invoke : ∀ args, t.invoke owner name args = u.invoke owner name args

/-! ## The order of overloads -/

section

variable {ms : List Method} {m x y : Method} {owner name : String} {time later : Nat}

theorem getElem?_concat_eq_some_iff :
    (ms ++ [m])[time]? = some x ↔ ms[time]? = some x ∨ time = ms.length ∧ x = m := by
  rcases Nat.lt_trichotomy time ms.length with h | h | h
  · rw [List.getElem?_append_left h]
    simp [Nat.ne_of_lt h]
  · subst h
    simp [eq_comm]
  · rw [List.getElem?_eq_none (by simp; omega), List.getElem?_eq_none (by omega)]
    simp [Nat.ne_of_gt h]

theorem lt_length_of_standsSince (h : x.StandsSince ms owner name time) : time < ms.length :=
  (List.getElem?_eq_some_iff.1 h.registered).1

theorem count_ne_of_standsSince (hx : x.StandsSince ms owner name time)
    (hy : y.StandsSince ms owner name later) (h : time < later) :
    x.params.length ≠ y.params.length :=
  (hx.unreplaced later y h hy.registered hy.isNamed).symm

/-- A registration takes its own time, and takes the place of what had its name and count. -/
theorem standsSince_concat_iff :
    x.StandsSince (ms ++ [m]) owner name time ↔
      (x.StandsSince ms owner name time ∧
        (m.IsNamed owner name → x.params.length ≠ m.params.length)) ∨
      time = ms.length ∧ x = m ∧ m.IsNamed owner name := by
  constructor
  · rintro ⟨hregistered, hnamed, hlater⟩
    rcases getElem?_concat_eq_some_iff.1 hregistered with hold | ⟨htime, rfl⟩
    · refine .inl ⟨⟨hold, hnamed, fun later y hlt hy => ?_⟩, fun hm => ?_⟩
      · exact hlater later y hlt (getElem?_concat_eq_some_iff.2 (.inl hy))
      · have hlt : time < ms.length := (List.getElem?_eq_some_iff.1 hold).1
        exact (hlater _ m hlt (getElem?_concat_eq_some_iff.2 (.inr ⟨rfl, rfl⟩)) hm).symm
    · exact .inr ⟨htime, rfl, hnamed⟩
  · rintro (⟨h, hm⟩ | ⟨rfl, rfl, hnamed⟩)
    · refine ⟨getElem?_concat_eq_some_iff.2 (.inl h.registered), h.isNamed, ?_⟩
      intro later y hlt hy hnamed
      rcases getElem?_concat_eq_some_iff.1 hy with hold | ⟨-, rfl⟩
      · exact h.unreplaced later y hlt hold hnamed
      · exact (hm hnamed).symm
    · refine ⟨getElem?_concat_eq_some_iff.2 (.inr ⟨rfl, rfl⟩), hnamed, ?_⟩
      intro later y hlt hy
      rw [List.getElem?_eq_none (by simp; omega)] at hy
      cases hy

end

section

variable {t : MethodTable} {ms : List Method} {m : Method} {owner name : String}
  {dated : List (Nat × Method)}

theorem named_empty (owner name : String) : empty.named owner name = [] := by
  simp [named, empty]

theorem named_register_of_isNamed (h : m.IsNamed owner name) (t : MethodTable) :
    (t.register m).named owner name =
      (t.named owner name).filter (·.params.length ≠ m.params.length) ++ [m] :=
  (named_register t m owner name).trans (if_pos h)

theorem named_register_of_other (h : ¬ m.IsNamed owner name) (t : MethodTable) :
    (t.register m).named owner name = t.named owner name :=
  (named_register t m owner name).trans (if_neg h)

theorem Dated.register (h : t.Dated ms owner name dated) (m : Method) :
    ∃ dated', (t.register m).Dated (ms ++ [m]) owner name dated' := by
  by_cases hm : m.IsNamed owner name
  · refine ⟨dated.filter (·.2.params.length ≠ m.params.length) ++ [(ms.length, m)], ?_, ?_, ?_⟩
    · rw [named_register_of_isNamed hm, h.named, List.filter_map, List.map_append]
      rfl
    · rw [List.pairwise_append]
      refine ⟨h.ascending.filter _, List.pairwise_singleton _ _, ?_⟩
      rintro ⟨time, x⟩ hx _ hlast
      rw [List.mem_singleton.1 hlast]
      exact lt_length_of_standsSince ((h.mem time x).1 (List.mem_of_mem_filter hx))
    · intro time x
      simp only [List.mem_append, List.mem_filter, h.mem, List.mem_singleton, Prod.mk.injEq,
        decide_eq_true_eq, standsSince_concat_iff, hm, true_implies, and_true]
  · refine ⟨dated, ?_, h.ascending, fun time x => ?_⟩
    · rw [named_register_of_other hm, h.named]
    · simp only [h.mem, standsSince_concat_iff, hm, false_implies, and_true, and_false, or_false]

theorem exists_dated_ofList (ms : List Method) (owner name : String) :
    ∃ dated, (ofList ms).Dated ms owner name dated := by
  induction ms using List.reverseRecOn with
  | nil =>
    refine ⟨[], named_empty owner name, .nil, fun time m => ?_⟩
    exact iff_of_false (List.not_mem_nil) fun h => by simpa using h.registered
  | append_singleton ms m ih =>
    obtain ⟨dated, hdated⟩ := ih
    rw [ofList, List.foldl_append]
    exact hdated.register m

theorem Dated.counts_nodup (h : t.Dated ms owner name dated) :
    ((t.named owner name).map (·.params.length)).Nodup := by
  rw [h.named, List.map_map, List.nodup_iff_pairwise_ne, List.pairwise_map]
  refine h.ascending.imp_of_mem fun {a b} ha hb hlt => ?_
  exact count_ne_of_standsSince ((h.mem _ _).1 ha) ((h.mem _ _).1 hb) hlt

end

/-! ## Runs -/

theorem answersAs_ofList (ms : List Method) : (ofList ms).AnswersAs ms where
  contains owner name := contains_ofList_iff
  resolve_some owner name count m := resolve_ofList_eq_some_iff
  resolve_none owner name count := resolve_ofList_eq_none_iff
  counts_nodup owner name := by
    obtain ⟨dated, hdated⟩ := exists_dated_ofList ms owner name
    exact hdated.counts_nodup
  mem_counts owner name count := by
    rw [← not_iff_not]
    calc count ∉ ((ofList ms).named owner name).map (·.params.length)
      _ ↔ (ofList ms).resolve owner name count = none := by simp [resolve]
      _ ↔ ∀ m ∈ ms, m.IsNamed owner name → m.params.length ≠ count := resolve_ofList_eq_none_iff
      _ ↔ ¬ ∃ m ∈ ms, m.IsNamed owner name ∧ m.params.length = count := by simp
  order := exists_dated_ofList ms
  invoke owner name args := by
    rw [MethodTable.invoke]
    cases h : (ofList ms).resolve owner name args.length with
    | some m => exact .inl ⟨m, resolve_ofList_eq_some_iff.1 h, rfl⟩
    | none => exact .inr ⟨resolve_ofList_eq_none_iff.1 h, rfl⟩

theorem alikeOn_register {m : Method} {owner name : String} (h : ¬ m.IsNamed owner name)
    (t : MethodTable) : (t.register m).AlikeOn t owner name := by
  have hnamed := named_register_of_other h t
  have hresolve : ∀ count, (t.register m).resolve owner name count = t.resolve owner name count :=
    fun count => by rw [resolve, resolve, hnamed]
  refine ⟨?_, hnamed, hresolve, fun args => by rw [invoke, invoke, hresolve]⟩
  have hboth : (m.owner == owner && m.name == name) = false := by
    simpa [Method.IsNamed] using h
  rw [contains_register, hboth, Bool.false_or]

/-- Runs of registrations on the empty and the standard table, one more of which changes nothing
about other names. -/
theorem answersAs_registerAll (ms : List Method) :
    (empty.registerAll ms).AnswersAs ms ∧
      (standard.registerAll ms).AnswersAs (Standard.methods ++ ms) ∧
      ∀ t m owner name, ¬ m.IsNamed owner name → (register t m).AlikeOn t owner name := by
  refine ⟨answersAs_ofList ms, ?_, fun t m owner name h => alikeOn_register h t⟩
  have hrun : standard.registerAll ms = ofList (Standard.methods ++ ms) := List.foldl_append.symm
  rw [hrun]
  exact answersAs_ofList _

namespace Remainder

/-- Takes the place of the standard substring without a length. -/
def remainder : Method :=
  { owner := Standard.owner, name := "substring", params := [Standard.stringType, Standard.intType],
    returns := Standard.stringType, body := fun args => .ok (args.headD .null) }

theorem isNamed_remainder : remainder.IsNamed Standard.owner "substring" := ⟨rfl, rfl⟩

theorem isLatest_remainder :
    remainder.IsLatest (Standard.methods ++ [remainder]) Standard.owner "substring" 2 :=
  ⟨Standard.methods, [], rfl, isNamed_remainder, rfl, by simp⟩

theorem named_standard : standard.named Standard.owner "substring" =
    [Standard.strictMethod "substring" [Standard.stringType, Standard.intType]
        Standard.stringType Standard.substringBody,
      Standard.strictMethod "substring" [Standard.stringType, Standard.intType, Standard.intType]
        Standard.stringType Standard.substringBody] := by
  simp [standard, ofList, Standard.methods, named_register, named_empty, Standard.strictMethod]

/-- The overload that was replaced stood before the one with a length, the new one stands
behind it. Other names are not touched. -/
theorem answersAs_of_remainder :
    ¬ remainder.IsNamed Standard.owner "upper" ∧
      (standard.named Standard.owner "substring").map (·.params.length) = [2, 3] ∧
      ((standard.registerAll [remainder]).named Standard.owner "substring").map
        (·.params.length) = [3, 2] ∧
      (standard.registerAll [remainder]).resolve Standard.owner "substring" 2 = some remainder ∧
      (standard.registerAll [remainder]).invoke Standard.owner "substring"
        [.string "Oslo", .int 2] = .ok (.string "Oslo") ∧
      ∀ args, (standard.registerAll [remainder]).invoke Standard.owner "upper" args =
        standard.invoke Standard.owner "upper" args := by
  have hupper : ¬ remainder.IsNamed Standard.owner "upper" := fun h => absurd h.2 (by decide)
  obtain ⟨-, hanswers, hother⟩ := answersAs_registerAll [remainder]
  have hresolve := (hanswers.resolve_some _ _ _ _).2 isLatest_remainder
  refine ⟨hupper, by rw [named_standard]; rfl, ?_, hresolve, ?_,
    (hother standard remainder _ _ hupper).invoke⟩
  · rw [registerAll, List.foldl_cons, List.foldl_nil, named_register_of_isNamed isNamed_remainder,
      named_standard]
    rfl
  · have hcount : [Value.string "Oslo", .int 2].length = 2 := rfl
    rw [invoke, hcount, hresolve]
    rfl

end Remainder

end MethodTable

end RowExpr.Host
