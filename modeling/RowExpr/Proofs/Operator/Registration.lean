import Mathlib.Data.List.Nodup
import RowExpr.Operator.Table
import RowExpr.Proofs.Node.Built

/-!
# Runs of registrations

A table is offered any operators in any order, and asked by identity, by name, and by name and
operand count. Main statement: it answers as the plain list of the operators it accepted does;
it refuses those whose identity is taken, and nothing remains of them (`answersAs_accepted`).
-/

namespace RowExpr

theorem Catalog.consistent : ∀ op ∈ Catalog.all, op.Consistent := by
  have hname : ∀ op ∈ Catalog.all, op.name ≠ "" := by decide
  have hordered : ∀ op ∈ Catalog.all, op.arity.Ordered := by decide
  intro op hop
  obtain ⟨harithmetic, htrim, hniladic⟩ :=
    op.inconsistency?_eq_none_iff.1 (Catalog.inconsistency?_eq_none op hop)
  exact ⟨hname op hop, hordered op hop, harithmetic, htrim, hniladic⟩

/-- The name, in any letter case. -/
def Operator.bears (op : Operator) (name : String) : Bool := Text.upper op.name == Text.upper name

namespace OperatorTable

def offerAll (t : OperatorTable) (ops : List Operator) : OperatorTable :=
  ops.foldl (fun t op => (t.offer op).2) t

/-- Those of the operators offered that the table takes. -/
def accepted (t : OperatorTable) : List Operator → List Operator
  | [] => []
  | op :: rest =>
    match t.offer op with
    | (.ok op, t) => op :: accepted t rest
    | (.error _, t) => accepted t rest

/-- The table answers as the plain list does. -/
structure AnswersAs (t : OperatorTable) (ops : List Operator) : Prop where
  size : t.size = ops.length
  get? : ∀ id op, t.get? id = some op ↔ op ∈ ops ∧ op.id = id
  require : ∀ id, t.require id =
    (ops.find? (·.id == id)).elim (.error (.notFound id)) .ok
  findName : ∀ name, t.findName name =
    (ops.find? (·.bears name)).elim (.error (.notFound name)) .ok
  findOverload : ∀ name count, t.findOverload name count =
    if ops.any (·.bears name) then
      (ops.find? fun op => op.bears name ∧ op.arity.admits count).elim
        (.error (.noMatchingArity name count)) .ok
    else .error (.notFound name)

/-! ## Both indexes -/

/-- What a table holds under identities and under names. -/
structure Indexes (t : OperatorTable) (ops : List Operator) : Prop where
  size : t.size = ops.length
  get? : ∀ id op, t.get? id = some op ↔ op ∈ ops ∧ op.id = id
  named? : ∀ name, t.named? name =
    if ops.any (·.bears name) then some ((ops.filter (·.bears name)).map (·.id)) else none

theorem indexes_empty : Indexes empty [] where
  size := rfl
  get? id op := by simp [OperatorTable.get?, empty]
  named? name := by simp [OperatorTable.named?, empty]

namespace Indexes

variable {t : OperatorTable} {ops : List Operator} {op : Operator}

theorem get?_eq_none_iff (h : t.Indexes ops) {id : String} :
    t.get? id = none ↔ id ∉ ops.map (·.id) := by
  rw [Option.eq_none_iff_forall_ne_some]
  simp [h.get?]

theorem insert (h : t.Indexes ops) (hnew : op.id ∉ ops.map (·.id)) :
    (t.insert op).Indexes (ops ++ [op]) where
  size := by
    rw [size_insert, h.get?_eq_none_iff.2 hnew]
    simp [h.size]
  get? id o := by
    rw [get?_insert, List.mem_append, List.mem_singleton]
    by_cases hid : op.id = id
    · subst hid
      rw [beq_self_eq_true, if_pos rfl, Option.some.injEq]
      constructor
      · rintro rfl
        exact ⟨.inr rfl, rfl⟩
      · rintro ⟨ho | rfl, hid⟩
        · exact absurd (hid ▸ List.mem_map_of_mem ho) hnew
        · rfl
    · rw [if_neg (by simpa using hid), h.get?]
      constructor
      · exact fun ⟨ho, hoid⟩ => ⟨.inl ho, hoid⟩
      · rintro ⟨ho | rfl, hoid⟩
        · exact ⟨ho, hoid⟩
        · exact absurd hoid hid
  named? name := by
    rw [named?_insert, h.named?, List.any_append, List.filter_append, ← Operator.bears]
    cases hname : op.bears name with
    | false => simp [hname]
    | true =>
      cases hany : ops.any (·.bears name) with
      | true => simp [hname]
      | false =>
        -- The first operator of its name begins the list.
        have hnone : ops.filter (·.bears name) = [] := by
          rw [List.filter_eq_nil_iff]
          simpa using hany
        simp [hname, hnone]

theorem get?_of_mem (h : t.Indexes ops) (hop : op ∈ ops) : t.get? op.id = some op :=
  (h.get? _ _).2 ⟨hop, rfl⟩

theorem require (h : t.Indexes ops) (id : String) : t.require id =
    (ops.find? (·.id == id)).elim (.error (.notFound id)) .ok := by
  rw [OperatorTable.require]
  cases hfind : ops.find? (·.id == id) with
  | none =>
    have hnone : t.get? id = none := by
      rw [h.get?_eq_none_iff]
      simpa using hfind
    rw [hnone, Option.elim_none]
  | some op =>
    have hid : op.id = id := by simpa using List.find?_some hfind
    have hsome := (h.get? id op).2 ⟨List.mem_of_find?_eq_some hfind, hid⟩
    rw [hsome, Option.elim_some]

theorem head?_named? (h : t.Indexes ops) (name : String) :
    (t.named? name).bind List.head? = (ops.find? (·.bears name)).map (·.id) := by
  rw [h.named?]
  cases hany : ops.any (·.bears name) with
  | true => simp [List.head?_filter]
  | false =>
    have hnone : ops.find? (·.bears name) = none := by
      rw [List.find?_eq_none]
      simpa using hany
    simp [hnone]

theorem findName (h : t.Indexes ops) (name : String) : t.findName name =
    (ops.find? (·.bears name)).elim (.error (.notFound name)) .ok := by
  rw [OperatorTable.findName, h.head?_named?]
  cases hfind : ops.find? (·.bears name) with
  | none => rfl
  | some op => simp [h.get?_of_mem (List.mem_of_find?_eq_some hfind)]

/-- The identities under a name lead back to its operators. -/
theorem filterMap_get? (h : t.Indexes ops) (p : Operator → Bool) :
    ((ops.filter p).map (·.id)).filterMap t.get? = ops.filter p := by
  rw [List.filterMap_map]
  have hget : ∀ op ∈ ops.filter p, (t.get? ∘ (·.id)) op = some op := fun op hop =>
    h.get?_of_mem (List.mem_of_mem_filter hop)
  rw [List.filterMap_congr hget, List.filterMap_some]

theorem findOverload (h : t.Indexes ops) (name : String) (count : Nat) :
    t.findOverload name count =
      if ops.any (·.bears name) then
        (ops.find? fun op => op.bears name ∧ op.arity.admits count).elim
          (.error (.noMatchingArity name count)) .ok
      else .error (.notFound name) := by
  rw [OperatorTable.findOverload, h.named?]
  cases hany : ops.any (·.bears name) with
  | false => simp
  | true =>
    simp only [if_true, h.filterMap_get?, List.find?_filter]
    cases ops.find? fun op => op.bears name ∧ op.arity.admits count <;> rfl

theorem answersAs (h : t.Indexes ops) : t.AnswersAs ops where
  size := h.size
  get? := h.get?
  require := h.require
  findName := h.findName
  findOverload := h.findOverload

end Indexes

/-! ## Runs -/

section

variable {t : OperatorTable} {ops : List Operator}

theorem offer_cases (t : OperatorTable) (op : Operator) :
    (∃ e, t.offer op = (.error e, t)) ∨
      t.get? op.id = none ∧ t.offer op = (.ok op, t.insert op) := by
  unfold offer
  split
  · exact .inl ⟨_, rfl⟩
  · next hcheck =>
    obtain ⟨rfl, -⟩ := Operator.check_eq_ok_iff.1 hcheck
    rw [contains_eq_isSome]
    split
    · exact .inl ⟨_, rfl⟩
    · next hnew => exact .inr ⟨by simpa using hnew, rfl⟩

theorem offerAll_cons (t : OperatorTable) (op : Operator) (ops : List Operator) :
    t.offerAll (op :: ops) = (t.offer op).2.offerAll ops := rfl

theorem offerAll_append (t : OperatorTable) (ops more : List Operator) :
    t.offerAll (ops ++ more) = (t.offerAll ops).offerAll more :=
  List.foldl_append

theorem offerAll_of_error {op : Operator} {e : LookupError}
    (h : ((t.offerAll ops).offer op).1 = .error e) (more : List Operator) :
    t.offerAll (ops ++ op :: more) = t.offerAll (ops ++ more) := by
  rw [offerAll_append, offerAll_append, offerAll_cons]
  obtain ⟨_, heq⟩ | ⟨-, heq⟩ := (t.offerAll ops).offer_cases op
  · rw [heq]
  · rw [heq] at h
    cases h

theorem Indexes.offer_eq (h : t.Indexes ops) {op : Operator} (hop : op.Consistent) :
    t.offer op =
      if op.id ∈ ops.map (·.id) then (.error (.duplicate op.id), t) else (.ok op, t.insert op) := by
  rw [offer, Operator.check_eq_ok_iff.2 ⟨rfl, hop⟩]
  simp only [contains_eq_isSome, Option.isSome_iff_ne_none, ne_eq, h.get?_eq_none_iff,
    Decidable.not_not]

theorem Indexes.offerAll (h : t.Indexes ops) (more : List Operator) :
    (t.offerAll more).Indexes (ops ++ t.accepted more) := by
  induction more generalizing t ops with
  | nil => rwa [accepted, List.append_nil]
  | cons op rest ih =>
    obtain ⟨e, heq⟩ | ⟨hnew, heq⟩ := t.offer_cases op
    · rw [offerAll_cons, accepted, heq]
      exact ih h
    · have hstep := ih (h.insert (h.get?_eq_none_iff.1 hnew))
      rw [List.append_assoc] at hstep
      rwa [offerAll_cons, accepted, heq]

theorem Indexes.offerAll_of_nodup (h : t.Indexes ops) {more : List Operator}
    (hmore : ∀ op ∈ more, op.Consistent) (hnodup : ((ops ++ more).map (·.id)).Nodup) :
    t.offerAll more = more.foldl OperatorTable.insert t ∧ t.accepted more = more := by
  induction more generalizing t ops with
  | nil => exact ⟨rfl, rfl⟩
  | cons op rest ih =>
    have hnew : op.id ∉ ops.map (·.id) := by
      rw [List.map_append, List.map_cons, List.nodup_middle, List.nodup_cons] at hnodup
      exact fun hold => hnodup.1 (List.mem_append_left _ hold)
    have heq := h.offer_eq (hmore op List.mem_cons_self)
    rw [if_neg hnew] at heq
    obtain ⟨hall, haccepted⟩ := ih (h.insert hnew)
      (fun o ho => hmore o (List.mem_cons_of_mem op ho)) (by rwa [List.append_assoc])
    rw [offerAll_cons, accepted, heq]
    exact ⟨hall, congrArg (op :: ·) haccepted⟩

end

/-! ## The first tables -/

/-- The standard table is what comes of registering the catalog, all of which is accepted. -/
theorem offerAll_catalog :
    empty.offerAll Catalog.all = standard ∧ empty.accepted Catalog.all = Catalog.all :=
  indexes_empty.offerAll_of_nodup Catalog.consistent Catalog.id_nodup

/-- A table that a run begins with, and what it holds. -/
inductive Initial : OperatorTable → List Operator → Prop
  | empty : Initial empty []
  | standard : Initial standard Catalog.all

theorem Initial.indexes {t : OperatorTable} {ops : List Operator} (h : Initial t ops) :
    t.Indexes ops := by
  cases h with
  | empty => exact indexes_empty
  | standard =>
    have hall := indexes_empty.offerAll Catalog.all
    rwa [offerAll_catalog.1, offerAll_catalog.2] at hall

theorem answersAs_accepted {t : OperatorTable} {first : List Operator} (h : Initial t first)
    (ops : List Operator) :
    (t.offerAll ops).AnswersAs (first ++ t.accepted ops) ∧
      (∀ op, op.Built → ((t.offerAll ops).offer op).1 =
        if op.id ∈ (first ++ t.accepted ops).map (·.id) then .error (.duplicate op.id)
        else .ok op) ∧
      ∀ op e more, ((t.offerAll ops).offer op).1 = .error e →
        t.offerAll (ops ++ op :: more) = t.offerAll (ops ++ more) := by
  have hrun := h.indexes.offerAll ops
  refine ⟨hrun.answersAs, ?_, fun op e more he => offerAll_of_error he more⟩
  intro op hop
  rw [hrun.offer_eq (Operator.built_iff_consistent.1 hop)]
  split <;> rfl

namespace Joins

def join (id name : String) (arity : Arity) : Operator :=
  { id, name, kind := .otherFunction, arity }

/-- Takes the identity of a standard operator. -/
def taken : Operator := join "UPPER" "Join" .two

def joins : List Operator := [join "JOIN_2" "Join" .two, join "JOIN_3" "JOIN" .three]

theorem join_consistent {id name : String} {arity : Arity} (hname : name ≠ "")
    (harity : arity.Ordered) : (join id name arity).Consistent := by
  constructor <;> simp [join, hname, harity, Kind.isArithmetic]

theorem accepted_joins : standard.accepted joins = joins := by
  have hjoins : ∀ op ∈ joins, op.Consistent := by
    simp only [joins, List.forall_mem_cons]
    exact ⟨join_consistent (by decide) (by decide), join_consistent (by decide) (by decide),
      List.forall_mem_nil _⟩
  exact (Initial.standard.indexes.offerAll_of_nodup hjoins (by decide)).2

theorem answersAs_of_joins :
    Initial standard Catalog.all ∧ (standard.offerAll joins).AnswersAs (Catalog.all ++ joins) ∧
      taken.Built ∧ ((standard.offerAll joins).offer taken).1 = .error (.duplicate "UPPER") ∧
      standard.offerAll (joins ++ [taken]) = standard.offerAll (joins ++ []) := by
  obtain ⟨hanswers, hoffer, hkept⟩ := answersAs_accepted .standard joins
  rw [accepted_joins] at hanswers hoffer
  have hbuilt : taken.Built :=
    Operator.built_iff_consistent.2 (join_consistent (by decide) (by decide))
  have htaken := hoffer taken hbuilt
  rw [if_pos (by decide)] at htaken
  exact ⟨.standard, hanswers, hbuilt, htaken, hkept taken _ [] htaken⟩

end Joins

end OperatorTable

end RowExpr
