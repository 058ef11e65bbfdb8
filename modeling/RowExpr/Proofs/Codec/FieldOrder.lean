import RowExpr.Codec.Node
import RowExpr.Proofs.Except

/-!
# The order of fields

The fields of an object may stand in any order. What is read of a record is the same in each.
-/

namespace RowExpr

/-! ## Values up to the order of fields -/

namespace Json

mutual

inductive Rearranged : Json → Json → Prop
  | null : Rearranged .null .null
  | bool (b : Bool) : Rearranged (.bool b) (.bool b)
  | int (i : Int) : Rearranged (.int i) (.int i)
  | float (x : Float) : Rearranged (.float x) (.float x)
  | str (s : String) : Rearranged (.str s) (.str s)
  | arr {items items' : List Json} :
    List.Forall₂ Rearranged items items' → Rearranged (.arr items) (.arr items')
  | obj {fields mid fields' : List (String × Json)} :
    FieldsRearranged fields mid → fields'.Perm mid → Rearranged (.obj fields) (.obj fields')

/-- Field by field, in one order. -/
inductive FieldsRearranged : List (String × Json) → List (String × Json) → Prop
  | nil : FieldsRearranged [] []
  | cons {name : String} {j k : Json} {fields fields' : List (String × Json)} :
    Rearranged j k → FieldsRearranged fields fields' →
    FieldsRearranged ((name, j) :: fields) ((name, k) :: fields')

end

mutual

theorem Rearranged.refl : ∀ j : Json, Rearranged j j
  | .null => .null
  | .bool b => .bool b
  | .int i => .int i
  | .float x => .float x
  | .str s => .str s
  | .arr items => .arr (reflItems items)
  | .obj fields => .obj (reflFields fields) (.refl _)

theorem Rearranged.reflItems : ∀ items : List Json, List.Forall₂ Rearranged items items
  | [] => .nil
  | j :: rest => .cons (refl j) (reflItems rest)

theorem Rearranged.reflFields : ∀ fields : List (String × Json), FieldsRearranged fields fields
  | [] => .nil
  | (_, j) :: rest => .cons (refl j) (reflFields rest)

end

section

variable {j : Json}

@[simp] theorem rearranged_null_iff : Rearranged .null j ↔ j = .null :=
  ⟨fun h => by cases h; rfl, fun h => h ▸ .null⟩

@[simp] theorem rearranged_bool_iff {b : Bool} : Rearranged (.bool b) j ↔ j = .bool b :=
  ⟨fun h => by cases h; rfl, fun h => h ▸ .bool b⟩

@[simp] theorem rearranged_int_iff {i : Int} : Rearranged (.int i) j ↔ j = .int i :=
  ⟨fun h => by cases h; rfl, fun h => h ▸ .int i⟩

@[simp] theorem rearranged_float_iff {x : Float} : Rearranged (.float x) j ↔ j = .float x :=
  ⟨fun h => by cases h; rfl, fun h => h ▸ .float x⟩

@[simp] theorem rearranged_str_iff {s : String} : Rearranged (.str s) j ↔ j = .str s :=
  ⟨fun h => by cases h; rfl, fun h => h ▸ .str s⟩

theorem rearranged_arr_iff {items : List Json} :
    Rearranged (.arr items) j ↔ ∃ items', List.Forall₂ Rearranged items items' ∧ j = .arr items' := by
  constructor
  · rintro ⟨⟩
    exact ⟨_, ‹_›, rfl⟩
  · rintro ⟨items', h, rfl⟩
    exact .arr h

theorem rearranged_obj_iff {fields : List (String × Json)} :
    Rearranged (.obj fields) j ↔
      ∃ mid, FieldsRearranged fields mid ∧ ∃ fields', fields'.Perm mid ∧ j = .obj fields' := by
  constructor
  · rintro ⟨⟩
    exact ⟨_, ‹_›, _, ‹_›, rfl⟩
  · rintro ⟨mid, h, fields', hperm, rfl⟩
    exact .obj h hperm

end

theorem FieldsRearranged.map_fst : ∀ {fields mid : List (String × Json)},
    FieldsRearranged fields mid → mid.map (·.1) = fields.map (·.1)
  | _, _, .nil => rfl
  | _, _, .cons _ h => congrArg (_ :: ·) h.map_fst

end Json

namespace Codec

/-! ## Records -/

theorem lookup_eq_some_iff_mem {α : Type} {l : List (String × α)} (hl : (l.map (·.1)).Nodup)
    {name : String} {a : α} : l.lookup name = some a ↔ (name, a) ∈ l := by
  induction l with
  | nil => simp
  | cons p rest ih =>
    obtain ⟨key, b⟩ := p
    rw [List.map_cons, List.nodup_cons] at hl
    rw [List.lookup_cons, List.mem_cons, Prod.mk.injEq]
    by_cases h : name = key
    · subst h
      have hnot : (name, a) ∉ rest := fun h => hl.1 (List.mem_map.2 ⟨_, h, rfl⟩)
      simp [hnot, eq_comm]
    · simp [beq_false_of_ne h, h, ih hl.2]

/-- Some of the fields with these names, in any order. -/
structure Arranged (names : List String) (own fields : Fields) : Prop where
  perm : fields.Perm own
  sublist : (own.map (·.1)).Sublist names
  nodup : names.Nodup

namespace Arranged

variable {names : List String} {own fields : Fields}

theorem own_nodup (h : Arranged names own fields) : (own.map (·.1)).Nodup :=
  h.nodup.sublist h.sublist

theorem fields_nodup (h : Arranged names own fields) : (fields.map (·.1)).Nodup :=
  (h.perm.map _).nodup_iff.2 h.own_nodup

theorem record (h : Arranged names own fields) : record names (.obj fields) = .ok fields := by
  have hkept : fields.filter (fun f => names.contains f.1) = fields := by
    rw [List.filter_eq_self]
    intro f hf
    rw [List.contains_iff_mem]
    exact h.sublist.subset (List.mem_map_of_mem (h.perm.subset hf))
  rw [Codec.record, hkept, if_pos h.fields_nodup]

theorem lookup (h : Arranged names own fields) (name : String) :
    fields.lookup name = own.lookup name := by
  ext j
  rw [lookup_eq_some_iff_mem h.fields_nodup, lookup_eq_some_iff_mem h.own_nodup, h.perm.mem_iff]

theorem required (h : Arranged names own fields) (name : String) :
    required fields name = required own name := by
  rw [Codec.required, Codec.required, h.lookup]

theorem optional (h : Arranged names own fields) {α : Type} (name : String) (default : α)
    (decode : Json → Decoded α) :
    optional fields name default decode = optional own name default decode := by
  rw [Codec.optional, Codec.optional, h.lookup]

end Arranged

theorem required_cons (name key : String) (j : Json) (rest : Fields) :
    required ((key, j) :: rest) name = if name = key then .ok j else required rest name := by
  rw [required, List.lookup_cons]
  by_cases h : name = key
  · simp [h, ofOption]
  · simp [beq_false_of_ne h, h, required]

theorem optional_nil {α : Type} (name : String) (default : α) (decode : Json → Decoded α) :
    optional [] name default decode = .ok default := rfl

theorem optional_cons {α : Type} (name key : String) (j : Json) (rest : Fields) (default : α)
    (decode : Json → Decoded α) :
    optional ((key, j) :: rest) name default decode =
      if name = key then decode j else optional rest name default decode := by
  rw [optional, List.lookup_cons]
  by_cases h : name = key
  · simp [h]
  · simp [beq_false_of_ne h, h, optional]

/-- The name of a tagged record is taken out of it. -/
theorem tagged_of_perm {tag name : String} {rest fields : Fields}
    (hperm : fields.Perm ((tag, .str name) :: rest)) (hrest : tag ∉ rest.map (·.1))
    (names : List String) (leniency : Leniency) :
    ∃ fields', fields'.Perm rest ∧
      tagged tag names leniency (.obj fields) = .ok (name, .obj fields') := by
  have hkept : ∀ f ∈ rest, f.1 ≠ tag := fun f hf h => hrest (h ▸ List.mem_map_of_mem hf)
  have hnone : rest.filter (·.1 == tag) = [] := by
    rw [List.filter_eq_nil_iff]
    simpa using hkept
  have hall : rest.filter (·.1 != tag) = rest := by
    rw [List.filter_eq_self]
    simpa using hkept
  have htag : fields.filter (·.1 == tag) = [(tag, .str name)] := by
    have := hperm.filter (·.1 == tag)
    rw [List.filter_cons_of_pos (by simp), hnone] at this
    exact List.perm_singleton.1 this
  refine ⟨fields.filter (·.1 != tag), ?_, ?_⟩
  · have := hperm.filter (·.1 != tag)
    rwa [List.filter_cons_of_neg (by simp), hall] at this
  · rw [tagged, htag]
    rfl

/-! ## Choices -/

theorem lookup_nameOf {α : Type} [DecidableEq α] {names : List (String × α)}
    (hnames : (names.map (·.1)).Nodup) {a : α} (ha : a ∈ names.map (·.2)) :
    names.lookup (nameOf names a) = some a := by
  obtain ⟨p, hp, rfl⟩ := List.mem_map.1 ha
  obtain ⟨q, hq⟩ : ∃ q, names.find? (fun n => decide (n.2 = p.2)) = some q := by
    rw [← Option.isSome_iff_exists, List.find?_isSome]
    exact ⟨p, hp, by simp⟩
  have hvalue : q.2 = p.2 := by simpa using List.find?_some hq
  rw [nameOf, hq, Option.map_some, Option.getD_some, lookup_eq_some_iff_mem hnames, ← hvalue]
  exact List.mem_of_find?_eq_some hq

theorem oneOf_nameOf {α : Type} [DecidableEq α] {names : List (String × α)}
    (hnames : (names.map (·.1)).Nodup) {a : α} (ha : a ∈ names.map (·.2)) (leniency : Leniency) :
    oneOf names leniency (.str (nameOf names a)) = .ok a := by
  simp [oneOf, choice, areNone, lookup_nameOf hnames ha, ofOption]

end Codec

end RowExpr
