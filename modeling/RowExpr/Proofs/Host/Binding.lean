import RowExpr.Host.Lower

/-!
# Looking up implementors and methods

In tables that are filled from a list, the last entry that matches is found.
-/

namespace RowExpr.Host

/-! ## Implementors -/

namespace Implementors

theorem getElem?_foldl (bindings : List (String × Implementor)) (is : Implementors)
    (id : String) :
    (bindings.foldl (fun is b => is.register b.1 b.2) is).bindings[id]? =
      (bindings.reverse.lookup id).or is.bindings[id]? := by
  induction bindings generalizing is with
  | nil => rfl
  | cons b rest ih =>
    obtain ⟨key, i⟩ := b
    rw [List.foldl_cons, ih, List.reverse_cons, List.lookup_append, Option.or_assoc]
    congr 1
    by_cases h : key = id
    · simp [register, h]
    · simp [register, List.lookup_cons, Std.HashMap.getElem?_insert, h,
        beq_eq_false_iff_ne.2 (Ne.symm h)]

theorem getElem?_ofList (bindings : List (String × Implementor)) (id : String) :
    (ofList bindings).bindings[id]? = bindings.reverse.lookup id := by
  rw [ofList, getElem?_foldl]
  simp [empty]

theorem find_ofList (bindings : List (String × Implementor)) (id : String) :
    (ofList bindings).find id = (bindings.reverse.lookup id).getD .fallback := by
  rw [find, Std.HashMap.getD_eq_getD_getElem?, getElem?_ofList]

end Implementors

/-! ## Methods -/

namespace MethodTable

def answers (owner name : String) (count : Nat) (m : Method) : Bool :=
  m.owner == owner && m.name == name && m.params.length == count

theorem answers_iff {owner name : String} {count : Nat} {m : Method} :
    answers owner name count m = true ↔
      (m.owner = owner ∧ m.name = name) ∧ m.params.length = count := by
  simp [answers]

theorem contains_register (t : MethodTable) (m : Method) (owner name : String) :
    (t.register m).contains owner name =
      ((m.owner == owner && m.name == name) || t.contains owner name) := by
  simp only [contains, register, Std.HashMap.contains_alter, Option.isSome_some]
  by_cases h : m.owner = owner ∧ m.name = name
  · obtain ⟨rfl, rfl⟩ := h
    simp
  · have hkey : ((m.owner, m.name) == (owner, name)) = false := by
      simpa using h
    have hboth : (m.owner == owner && m.name == name) = false := by
      simpa using h
    simp [hkey, hboth]

theorem resolve_register (t : MethodTable) (m : Method) (owner name : String) (count : Nat) :
    (t.register m).resolve owner name count =
      if answers owner name count m then some m else t.resolve owner name count := by
  rw [resolve, resolve, named_register]
  by_cases hname : m.owner = owner ∧ m.name = name
  · rw [if_pos hname, List.find?_append, List.find?_filter]
    simp only [Bool.decide_and, Bool.decide_eq_true]
    by_cases hcount : m.params.length = count
    · have hnone : (t.named owner name).find?
          (fun a => decide (a.params.length ≠ m.params.length) && a.params.length == count) =
            none := by
        rw [List.find?_eq_none]
        intro a _
        simp only [hcount, Bool.and_eq_true, decide_eq_true_eq, beq_iff_eq, not_and]
        omega
      rw [hnone, if_pos (answers_iff.2 ⟨hname, hcount⟩)]
      simp [hcount]
    · have hsame : (fun a : Method =>
          decide (a.params.length ≠ m.params.length) && a.params.length == count) =
            (·.params.length == count) := by
        funext a
        by_cases ha : a.params.length = count
        · simp [ha, Ne.symm hcount]
        · simp [ha]
      rw [hsame, if_neg fun h => hcount (answers_iff.1 h).2]
      simp [hcount]
  · rw [if_neg hname, if_neg fun h => hname (answers_iff.1 h).1]

theorem contains_foldl (ms : List Method) (t : MethodTable) (owner name : String) :
    (ms.foldl register t).contains owner name =
      (ms.any (fun m => m.owner == owner && m.name == name) || t.contains owner name) := by
  induction ms generalizing t with
  | nil => rfl
  | cons m rest ih =>
    rw [List.foldl_cons, ih, contains_register, List.any_cons]
    simp [Bool.or_assoc, Bool.or_comm, Bool.or_left_comm]

theorem resolve_foldl (ms : List Method) (t : MethodTable) (owner name : String) (count : Nat) :
    (ms.foldl register t).resolve owner name count =
      (ms.reverse.find? (answers owner name count)).or (t.resolve owner name count) := by
  induction ms generalizing t with
  | nil => rfl
  | cons m rest ih =>
    rw [List.foldl_cons, ih, resolve_register, List.reverse_cons, List.find?_append]
    cases rest.reverse.find? (answers owner name count) with
    | some i => rfl
    | none => by_cases h : answers owner name count m = true <;> simp [h]

theorem contains_ofList (ms : List Method) (owner name : String) :
    (ofList ms).contains owner name =
      ms.any fun m => m.owner == owner && m.name == name := by
  rw [ofList, contains_foldl]
  simp [contains, empty]

theorem resolve_ofList (ms : List Method) (owner name : String) (count : Nat) :
    (ofList ms).resolve owner name count = ms.reverse.find? (answers owner name count) := by
  rw [ofList, resolve_foldl]
  simp [resolve, named, empty]

end MethodTable

end RowExpr.Host
