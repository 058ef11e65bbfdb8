import Mathlib.Data.List.Nodup
import RowExpr.Proofs.Node.Everywhere
import RowExpr.Sql.Render

/-!
# Where strings stand

A place in an expression is a way down to it. The string literals that are written stand at known
places, in a known order, each once (`nodup_strings`). In expressions that differ only in what
their strings hold, the characters of trims apart, whatever differs is written, unless it is in the
flag of a trim that writes none (`mem_strings_of_ne`).
-/

namespace RowExpr

open Sql

/-! ## Places -/

namespace Node

/-- The number of an operand, at each step down. -/
abbrev Place := List Nat

/-- What the string literal at a place holds. -/
def stringAt : Node → Place → Option String
  | literal (.string s) _, [] => some s
  | call _ ns _, i :: place => ns[i]?.bind fun n => n.stringAt place
  | _, _ => none

/-- The same expression with other strings in it. The characters of a trim, where they are a
literal, are the same. -/
inductive Varies : Node → Node → Prop
  | literal (v : Value) (type : SqlType) : Varies (literal v type) (literal v type)
  | input (index : UInt64) (name : Option String) (type : SqlType) :
    Varies (input index name type) (input index name type)
  | string (s t : String) (type : SqlType) :
    Varies (literal (.string s) type) (literal (.string t) type)
  | call {op : Operator} {as bs : List Node} (type : SqlType) :
    as.length = bs.length → (∀ p ∈ as.zip bs, Varies p.1 p.2) →
    (op.kind = .trim → as[1]?.bind value? = bs[1]?.bind value?) →
    Varies (call op as type) (call op bs type)

/-- Whether a place is in an operand that names the side of a trim. -/
def InTrimFlag : Node → Place → Prop
  | call op ns _, i :: place =>
    op.kind = .trim ∧ i = 0 ∨ ∃ n, ns[i]? = some n ∧ n.InTrimFlag place
  | _, _ => False

theorem Varies.refl (n : Node) : n.Varies n := by
  induction n using inductOn with
  | literal v type => exact .literal v type
  | input index name type => exact .input index name type
  | call op ns type ih =>
    refine .call type rfl (fun p hp => ?_) fun _ => rfl
    rw [List.zip_eq_zipWith, List.zipWith_self, List.mem_map] at hp
    obtain ⟨n, hn, rfl⟩ := hp
    exact ih n hn

theorem Varies.of_string {s : String} {type : SqlType} {n : Node}
    (h : (Node.literal (.string s) type).Varies n) : ∃ t, n = .literal (.string t) type := by
  cases h with
  | literal => exact ⟨s, rfl⟩
  | string _ t => exact ⟨t, rfl⟩

theorem Varies.of_literal {v : Value} (hv : ∀ s, v ≠ .string s) {type : SqlType} {n : Node}
    (h : (Node.literal v type).Varies n) : n = .literal v type := by
  cases h with
  | literal => rfl
  | string s => exact absurd rfl (hv s)

theorem Varies.of_input {index : UInt64} {name : Option String} {type : SqlType} {n : Node}
    (h : (Node.input index name type).Varies n) : n = .input index name type := by
  cases h
  rfl

theorem Varies.flagOf_eq {m n : Node} (h : m.Varies n) : flagOf m = flagOf n := by
  cases h <;> rfl

/-- What a call can vary into. -/
structure VariesAll (op : Operator) (as bs : List Node) : Prop where
  length : as.length = bs.length
  operands : ∀ (i : Nat) (a b : Node), as[i]? = some a → bs[i]? = some b → a.Varies b
  chars : op.kind = .trim → as[1]?.bind value? = bs[1]?.bind value?

theorem Varies.of_call {op : Operator} {as : List Node} {type : SqlType} {n : Node}
    (h : (Node.call op as type).Varies n) :
    ∃ bs, n = .call op bs type ∧ VariesAll op as bs := by
  cases h with
  | @call _ _ bs _ hlength hoperands hchars =>
    refine ⟨bs, rfl, hlength, fun i a b ha hb => ?_, hchars⟩
    exact hoperands (a, b) (List.mem_of_getElem? (List.getElem?_zip_eq_some.2 ⟨ha, hb⟩))

/-- What a trim looks at is the same. -/
theorem VariesAll.trim {op : Operator} {flag chars source : Node} {bs : List Node}
    (h : VariesAll op [flag, chars, source] bs) (hkind : op.kind = .trim) :
    ∃ flag' chars' source', bs = [flag', chars', source'] ∧ flagOf flag' = flagOf flag ∧
      charsOf? chars' = charsOf? chars := by
  obtain ⟨flag', chars', source', rfl⟩ := List.length_eq_three.1 h.length.symm
  have hflag : flag.Varies flag' := h.operands 0 flag flag' rfl rfl
  have hvalue : chars.value? = chars'.value? := h.chars hkind
  exact ⟨flag', chars', source', rfl, hflag.flagOf_eq.symm, by rw [charsOf?, charsOf?, hvalue]⟩

end Node

/-! ## Written operands -/

namespace Sql

/-- Which operands of a trim are written, in the order of the text. -/
def trimmedOperands (d : Dialect) (chars : Option (List Char)) : List Nat :=
  match d.trimStyle, chars with
  | .standard, _ | .functionCall, none => [0, 1, 2]
  | .functionCall, some _ => [2]
  | .sourceThenChars, some cs => if Text.isBlankText cs then [2] else [2, 1]
  | .sourceThenChars, none => [2, 1]

/-- Which operands of a call are written, in the order of the text. -/
def writtenOperands (d : Dialect) (op : Operator) (ns : List Node) : List Nat :=
  match op.kind, ns with
  | .trim, [_, chars, _] => trimmedOperands d (charsOf? chars)
  | _, _ => List.range ns.length

/-- The members of some of the lists, by their numbers. -/
def pick {α : Type} (order : List Nat) (ls : List (List α)) : List α :=
  order.flatMap fun i => ls[i]?.getD []

theorem pick_range {α : Type} (ls : List (List α)) : pick (.range ls.length) ls = ls.flatten := by
  have hmap : (List.range ls.length).map (fun i => ls[i]?.getD []) = ls := by
    refine List.ext_getElem (by simp) fun i _ hi => ?_
    simp [List.getElem?_eq_getElem hi]
  rw [pick, List.flatMap_def, hmap]

variable (d : Dialect) {op : Operator} {ns : List Node}

theorem writtenOperands_of_no_trim (h : op.kind = .trim → ns.length ≠ 3) :
    writtenOperands d op ns = .range ns.length := by
  unfold writtenOperands
  split
  · next hkind => exact absurd rfl (h hkind)
  · rfl

theorem nodup_trimmedOperands (chars : Option (List Char)) : (trimmedOperands d chars).Nodup := by
  unfold trimmedOperands
  split
  · decide
  · decide
  · decide
  · split <;> decide
  · decide

theorem nodup_writtenOperands : (writtenOperands d op ns).Nodup := by
  unfold writtenOperands
  split
  · exact nodup_trimmedOperands d _
  · exact List.nodup_range

/-- Only the flag of a trim and the characters that a pattern is made of are not written. -/
theorem mem_writtenOperands {i : Nat} (hi : i < ns.length)
    (hflag : op.kind = .trim → i = 0 → d.trimStyle = .standard)
    (hchars : op.kind = .trim → i = 1 → ns[1]?.bind charsOf? = none) :
    i ∈ writtenOperands d op ns := by
  unfold writtenOperands
  split
  · next flag chars source hkind =>
    have hi : i = 0 ∨ i = 1 ∨ i = 2 := by
      simp only [List.length_cons, List.length_nil] at hi
      omega
    unfold trimmedOperands
    rcases hi with rfl | rfl | rfl
    · rw [hflag hkind rfl]
      exact List.mem_cons_self
    · have hnone : charsOf? chars = none := hchars hkind rfl
      rw [hnone]
      cases d.trimStyle <;> decide
    · split
      · decide
      · decide
      · decide
      · split <;> decide
      · decide
  · exact List.mem_range.2 hi

end Sql

/-! ## Written strings -/

namespace Node

/-- Places in operands, as places in the call. -/
def nested (placesAll : List (List Place)) : List (List Place) :=
  placesAll.mapIdx fun i places => places.map (i :: ·)

mutual

/-- The places of the string literals that are written, in the order of the text. -/
def strings (d : Dialect) : Node → List Place
  | literal (.string _) _ => [[]]
  | call op ns _ => pick (writtenOperands d op ns) (nested (stringsAll d ns))
  | _ => []

def stringsAll (d : Dialect) : List Node → List (List Place)
  | [] => []
  | n :: rest => strings d n :: stringsAll d rest

end

variable (d : Dialect)

theorem stringsAll_eq_map (ns : List Node) : stringsAll d ns = ns.map (strings d) := by
  induction ns with
  | nil => rfl
  | cons n rest ih => simp [stringsAll, ih]

theorem getElem?_nested (ns : List Node) (i : Nat) :
    (nested (stringsAll d ns))[i]? = ns[i]?.map fun n => (n.strings d).map (i :: ·) := by
  simp [nested, stringsAll_eq_map, Function.comp_def]

theorem length_nested (ns : List Node) : (nested (stringsAll d ns)).length = ns.length := by
  simp [nested, stringsAll_eq_map]

theorem mem_nested_iff {ns : List Node} {i : Nat} {place : Place} :
    place ∈ (nested (stringsAll d ns))[i]?.getD [] ↔
      ∃ n rest, ns[i]? = some n ∧ rest ∈ n.strings d ∧ i :: rest = place := by
  rw [getElem?_nested]
  cases ns[i]? <;> simp

theorem nodup_strings (n : Node) : (n.strings d).Nodup := by
  induction n using inductOn with
  | literal v type => cases v <;> simp [strings]
  | input index name type => simp [strings]
  | call op ns type ih =>
    rw [strings, pick, List.nodup_flatMap]
    refine ⟨fun i _ => ?_, (nodup_writtenOperands d).imp fun hne => ?_⟩
    · rw [getElem?_nested]
      cases hn : ns[i]? with
      | none => exact List.nodup_nil
      | some n => exact (ih n (List.mem_of_getElem? hn)).map (List.cons_injective)
    · refine List.disjoint_left.2 fun place hi hj => ?_
      obtain ⟨_, _, -, -, rfl⟩ := (mem_nested_iff d).1 hi
      obtain ⟨_, _, -, -, heq⟩ := (mem_nested_iff d).1 hj
      cases heq
      exact hne rfl

theorem charsOf?_eq_none_of_ne {a b : Node} (hvalue : a.value? = b.value?) {place : Place}
    (hne : a.stringAt place ≠ b.stringAt place) : charsOf? a = none := by
  unfold charsOf?
  split
  · next s ha =>
    obtain ⟨type, rfl⟩ : ∃ type, a = .literal (.string s) type := by
      cases a <;> cases ha
      exact ⟨_, rfl⟩
    obtain ⟨type', rfl⟩ : ∃ type, b = .literal (.string s) type := by
      cases b <;> cases hvalue
      exact ⟨_, rfl⟩
    cases place <;> exact absurd rfl hne
  · rfl

section

variable {op : Operator} {as bs : List Node} (h : VariesAll op as bs) {i : Nat} {place : Place}
include h

theorem VariesAll.exists_of_ne {type : SqlType}
    (hne : (call op as type).stringAt (i :: place) ≠ (call op bs type).stringAt (i :: place)) :
    ∃ a b, as[i]? = some a ∧ bs[i]? = some b ∧ a.stringAt place ≠ b.stringAt place := by
  by_cases hi : i < as.length
  · obtain ⟨a, ha⟩ : ∃ a, as[i]? = some a := ⟨_, List.getElem?_eq_getElem hi⟩
    obtain ⟨b, hb⟩ : ∃ b, bs[i]? = some b := ⟨_, List.getElem?_eq_getElem (h.length ▸ hi)⟩
    exact ⟨a, b, ha, hb, by simpa [stringAt, ha, hb] using hne⟩
  · have ha : as[i]? = none := List.getElem?_eq_none (Nat.not_lt.1 hi)
    have hb : bs[i]? = none := List.getElem?_eq_none (h.length ▸ Nat.not_lt.1 hi)
    exact absurd (by rw [stringAt, stringAt, ha, hb]) hne

/-- Where the characters of a trim differ, they are no literal. -/
theorem VariesAll.mem_writtenOperands {a b : Node} (ha : as[i]? = some a) (hb : bs[i]? = some b)
    (hne : a.stringAt place ≠ b.stringAt place)
    (hflag : op.kind = .trim → i = 0 → d.trimStyle = .standard) :
    i ∈ writtenOperands d op as := by
  refine Sql.mem_writtenOperands d (List.getElem?_eq_some_iff.1 ha).1 hflag fun hkind hone => ?_
  subst hone
  have hvalue := h.chars hkind
  rw [ha, hb] at hvalue
  rw [ha]
  exact charsOf?_eq_none_of_ne hvalue hne

end

theorem mem_strings_call {op : Operator} {ns : List Node} {i : Nat}
    (hi : i ∈ writtenOperands d op ns) {n : Node} (hn : ns[i]? = some n) {place : Place}
    (h : place ∈ n.strings d) (type : SqlType) : i :: place ∈ (call op ns type).strings d := by
  rw [strings, pick, List.mem_flatMap]
  exact ⟨i, hi, (mem_nested_iff d).2 ⟨n, place, hn, h, rfl⟩⟩

theorem mem_strings_of_ne {m n : Node} (h : m.Varies n) {place : Place}
    (hne : m.stringAt place ≠ n.stringAt place) :
    place ∈ m.strings d ∨ d.trimStyle ≠ .standard ∧ m.InTrimFlag place := by
  induction place generalizing m n with
  | nil =>
    cases h with
    | string => exact .inl (by simp [strings])
    | literal | input | call => exact absurd rfl hne
  | cons i place ih =>
    cases m with
    | literal v type =>
      cases h <;> exact absurd rfl hne
    | input index name type =>
      cases h
      exact absurd rfl hne
    | call op as type =>
      obtain ⟨bs, rfl, hvaries⟩ := h.of_call
      obtain ⟨a, b, ha, hb, hdiffer⟩ := hvaries.exists_of_ne hne
      rcases ih (hvaries.operands i a b ha hb) hdiffer with hmem | ⟨hstyle, hflag⟩
      · by_cases hskip : op.kind = .trim ∧ i = 0 ∧ d.trimStyle ≠ .standard
        · exact .inr ⟨hskip.2.2, .inl ⟨hskip.1, hskip.2.1⟩⟩
        · have hwritten : i ∈ writtenOperands d op as :=
            hvaries.mem_writtenOperands d ha hb hdiffer fun hkind hzero =>
              Decidable.not_not.1 fun hstyle => hskip ⟨hkind, hzero, hstyle⟩
          exact .inl (mem_strings_call d hwritten ha hmem type)
      · exact .inr ⟨hstyle, .inr ⟨a, ha, hflag⟩⟩

end Node

end RowExpr
