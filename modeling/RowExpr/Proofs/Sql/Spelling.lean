import Mathlib.Data.List.Forall2
import RowExpr.Dialect.Profile
import RowExpr.Proofs.Sql.Outline

/-!
# What a text shows of an operator

A text shows how its operators are spelled and how they bind: neither which operators they are,
nor their type rules, their arities or the types of their calls. So operators that are spelled
alike can be exchanged anywhere in an expression (`text_eq_of_twin`), as long as the dialect
replaces none of them, and a dialect cannot tell the two divisions apart.
-/

namespace RowExpr

/-- Spelled alike: written the same way, and no more special to one than to the other. -/
structure Operator.SpelledAs (a b : Operator) : Prop extends a.Like b where
  kind : a.kind = b.kind

theorem Operator.SpelledAs.refl (op : Operator) : op.SpelledAs op := ⟨⟨rfl, rfl, rfl, rfl⟩, rfl⟩

/-- One operator can take the place of the other without a dialect's noticing. -/
def Dialect.Interchangeable (d : Dialect) (a b : Operator) : Prop :=
  a = b ∨ a.SpelledAs b ∧ d.overrideOf? a.id = none ∧ d.overrideOf? b.id = none

theorem Dialect.Interchangeable.resolve {d : Dialect} {a b : Operator}
    (h : d.Interchangeable a b) (count : Nat) :
    (d.resolve a count).SpelledAs (d.resolve b count) := by
  rcases h with rfl | ⟨hspelled, ha, hb⟩
  · exact .refl _
  · rwa [resolve_of_overrideOf?_eq_none ha, resolve_of_overrideOf?_eq_none hb]

/-- An expression of the same shape with the same leaves. Where one has a call, `R` relates the
operators; the types of the calls do not matter. -/
inductive Node.Twin (R : Operator → Operator → Prop) : Node → Node → Prop
  | literal (v : Value) (type : SqlType) : Twin R (.literal v type) (.literal v type)
  | input (index : UInt64) (name : Option String) (type : SqlType) :
    Twin R (.input index name type) (.input index name type)
  | call {a b : Operator} {as bs : List Node} (type type' : SqlType) :
    R a b → as.length = bs.length → (∀ p ∈ as.zip bs, Twin R p.1 p.2) →
    Twin R (.call a as type) (.call b bs type')

theorem Node.Twin.imp {R S : Operator → Operator → Prop} (hRS : ∀ a b, R a b → S a b)
    {m n : Node} (h : m.Twin R n) : m.Twin S n := by
  induction h with
  | literal v type => exact .literal v type
  | input index name type => exact .input index name type
  | call type type' hR hlength _ ih => exact .call type type' (hRS _ _ hR) hlength ih

theorem Node.Twin.value? {R : Operator → Operator → Prop} {m n : Node} (h : m.Twin R n) :
    m.value? = n.value? := by
  cases h <;> rfl

namespace Sql

variable {d : Dialect} {a b : Operator}

/-! ## Spellings -/

theorem between_like (h : a.Like b) (parts : List Fragment) : between a parts = between b parts := by
  funext left right
  induction parts generalizing left with
  | nil => rfl
  | cons part rest ih =>
    cases rest with
    | nil => rfl
    | cons next rest =>
      show part left a.leftPrec ++ .word a.name :: between a (next :: rest) a.rightPrec right =
        part left b.leftPrec ++ .word b.name :: between b (next :: rest) b.rightPrec right
      rw [h.leftPrec, h.name, h.rightPrec, ih]

theorem before_like (h : a.Like b) (parts : List Fragment) : before a parts = before b parts := by
  rw [before, before, h.name, h.leftPrec, h.rightPrec]

theorem behind_like (h : a.Like b) (parts : List Fragment) : behind a parts = behind b parts := by
  funext left right
  rw [behind, behind, h.name, h.leftPrec]

theorem byForm_like (h : a.Like b) (parts : List Fragment) : byForm d a parts = byForm d b parts := by
  unfold byForm
  rw [h.form, h.name, h.leftPrec, h.rightPrec, between_like h, before_like h, behind_like h]

/-- Of the operands themselves only the values of literals count, in a trim. -/
theorem spell_spelledAs (h : a.SpelledAs b) {as bs : List Node} {parts : List Fragment}
    (hvalues : as.map Node.value? = bs.map Node.value?) (hcount : parts.length = as.length) :
    spell d a as parts = spell d b bs parts := by
  by_cases hthree : a.kind = .trim ∧ parts.length = 3
  · obtain ⟨hkind, hlength⟩ := hthree
    have hbs : bs.length = 3 := by
      simpa [← hlength, hcount] using (congrArg List.length hvalues).symm
    obtain ⟨flagPart, charsPart, sourcePart, rfl⟩ := List.length_eq_three.1 hlength
    obtain ⟨flag, chars, source, rfl⟩ := List.length_eq_three.1 (hcount.symm.trans hlength)
    obtain ⟨flag', chars', source', rfl⟩ := List.length_eq_three.1 hbs
    simp only [List.map_cons, List.cons.injEq] at hvalues
    obtain ⟨hflag, hchars, -, -⟩ := hvalues
    simp only [spell, hkind, ← h.kind, h.name, trim, flagOf, charsOf?, hflag, hchars]
  · have hno : a.kind = .trim → parts.length ≠ 3 := fun hkind h3 => hthree ⟨hkind, h3⟩
    rw [spell_of_no_trim hno, spell_of_no_trim (h.kind ▸ hno), h.kind, h.form, h.name,
      byForm_like h.toLike]

/-! ## Expressions -/

theorem map_eq_map_of_zip {α β : Type} {f : α → β} {as bs : List α} (hlength : as.length = bs.length)
    (h : ∀ p ∈ as.zip bs, f p.1 = f p.2) : as.map f = bs.map f := by
  rw [← List.forall₂_eq_eq_eq, List.forall₂_map_left_iff, List.forall₂_map_right_iff,
    List.forall₂_iff_zip]
  exact ⟨hlength, fun hp => h _ hp⟩

theorem render_eq_of_twin {m n : Node} (h : m.Twin d.Interchangeable n) :
    render d m = render d n := by
  induction h with
  | literal v type => rfl
  | input index name type => rfl
  | @call a b as bs type type' hR hlength hoperands ih =>
    have hvalues : as.map Node.value? = bs.map Node.value? :=
      map_eq_map_of_zip hlength fun p hp => (hoperands p hp).value?
    have hparts : as.map (render d) = bs.map (render d) := map_eq_map_of_zip hlength ih
    rw [render, render, renderAll_eq_map, renderAll_eq_map, ← hparts, ← hlength]
    exact spell_spelledAs (hR.resolve _) hvalues (List.length_map _)

/-- The same operator, or the other one of the two divisions. -/
inductive Division.Exchanged : Operator → Operator → Prop
  | kept (op : Operator) : Exchanged op op
  | toDatetime : Exchanged Catalog.divide Catalog.datetimeDivide
  | ofDatetime : Exchanged Catalog.datetimeDivide Catalog.divide

theorem Division.Exchanged.interchangeable (hdivide : d.overrideOf? Catalog.divide.id = none)
    (hdatetime : d.overrideOf? Catalog.datetimeDivide.id = none) (h : Exchanged a b) :
    d.Interchangeable a b := by
  cases h with
  | kept => exact .inl rfl
  | toDatetime => exact .inr ⟨⟨⟨rfl, rfl, rfl, rfl⟩, rfl⟩, hdivide, hdatetime⟩
  | ofDatetime => exact .inr ⟨⟨⟨rfl, rfl, rfl, rfl⟩, rfl⟩, hdatetime, hdivide⟩

/-- Expressions with operators that are spelled alike have one text, between all neighbours. So
has an expression in which divisions are exchanged, at any places. -/
theorem text_eq_of_twin (d : Dialect) (left right : Nat) :
    (∀ m n : Node, m.Twin d.Interchangeable n → text d m left right = text d n left right) ∧
      (d.overrideOf? Catalog.divide.id = none → d.overrideOf? Catalog.datetimeDivide.id = none →
        ∀ m n : Node, m.Twin Division.Exchanged n → text d m left right = text d n left right) := by
  have htwin : ∀ m n : Node, m.Twin d.Interchangeable n →
      text d m left right = text d n left right := by
    intro m n h
    rw [text, text, render_eq_of_twin h]
  refine ⟨htwin, fun hdivide hdatetime m n h => htwin m n ?_⟩
  exact h.imp fun _ _ hab => hab.interchangeable hdivide hdatetime

namespace Laps

/-- A product that is inferred and checked in its own way. -/
def scale : Operator :=
  { Catalog.times with
    id := "SCALE", operands := .numeric, returns := .fixed .double, arity := .twoOrThree }

/-- How far one gets in half of the time, on a circle. -/
def way (product division : Operator) (type : SqlType) : Node :=
  .call product
    [.call Catalog.pi [] (.notNull .double),
     .call division [.column 0 "elapsed time" (.orNull .intervalDayTime), .int 2] type]
    (.orNull .double)

theorem twin_way {R : Operator → Operator → Prop} {product product' division division' : Operator}
    (hproduct : R product product') (hpi : R Catalog.pi Catalog.pi)
    (hdivision : R division division') (type type' : SqlType) :
    (way product division type).Twin R (way product' division' type') := by
  have hhalf : ∀ p ∈ [Node.column 0 "elapsed time" (.orNull .intervalDayTime), .int 2].zip
      [.column 0 "elapsed time" (.orNull .intervalDayTime), .int 2], p.1.Twin R p.2 := by
    simp only [List.zip_cons_cons, List.zip_nil_left, List.forall_mem_cons]
    exact ⟨.input _ _ _, .literal _ _, List.forall_mem_nil _⟩
  refine .call _ _ hproduct rfl ?_
  simp only [List.zip_cons_cons, List.zip_nil_left, List.forall_mem_cons]
  exact ⟨.call _ _ hpi rfl (List.forall_mem_nil _), .call _ _ hdivision rfl hhalf,
    List.forall_mem_nil _⟩

/-- This dialect writes `PI` as another operator, on both sides. -/
theorem text_of_way :
    let d := Dialect.hive none
    let m := way Catalog.times Catalog.divide (.orNull .any)
    let n := way scale Catalog.datetimeDivide (.orNull .bigInt)
    let o := way Catalog.times Catalog.datetimeDivide (.orNull .bigInt)
    (m.Twin d.Interchangeable n ∧ text d m 0 121 = text d n 0 121) ∧
      (d.overrideOf? Catalog.divide.id = none ∧ d.overrideOf? Catalog.datetimeDivide.id = none ∧
        m.Twin Division.Exchanged o ∧ text d m 0 121 = text d o 0 121) := by
  intro d m n o
  obtain ⟨hall, hdivisions⟩ := text_eq_of_twin d 0 121
  have hdivide : d.overrideOf? Catalog.divide.id = none := by decide
  have hdatetime : d.overrideOf? Catalog.datetimeDivide.id = none := by decide
  have hexchanged : m.Twin Division.Exchanged o :=
    twin_way (.kept _) (.kept _) .toDatetime _ _
  have hscale : d.Interchangeable Catalog.times scale :=
    .inr ⟨⟨⟨rfl, rfl, rfl, rfl⟩, rfl⟩, by decide, by decide⟩
  have hdivision : d.Interchangeable Catalog.divide Catalog.datetimeDivide :=
    Division.Exchanged.toDatetime.interchangeable hdivide hdatetime
  have htwin : m.Twin d.Interchangeable n := twin_way hscale (.inl rfl) hdivision _ _
  exact ⟨⟨htwin, hall m n htwin⟩, hdivide, hdatetime, hexchanged,
    hdivisions hdivide hdatetime m o hexchanged⟩

example :
    text (Dialect.hive none) (way scale Catalog.datetimeDivide (.orNull .bigInt)) 0 121 =
      "(PI() * (`elapsed time` / 2))" := by
  decide

end Laps

end Sql

end RowExpr
