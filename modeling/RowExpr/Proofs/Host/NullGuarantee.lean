import RowExpr.Proofs.Host.Conformity

/-!
# Results that are known not to be null

Lowered under the promise that its result is not null, an expression comes to the value that it
comes to with its nulls, where the promise holds. It passes the promise on to its operands. So
no call inside may make a value of a first operand that is null, as `AND`, `OR` and
`NULL_INDICATOR` can: that operand would be forced. A null on the right of `AND` and `OR` either
is not looked at or makes the result null.
-/

namespace RowExpr

/-- The call comes to null where the first operand that shares its mode does. -/
def Node.KeepsNull (row : List Value) (n : Node) : Prop :=
  ∀ first ∈ n.passed.head?, Host.ComesTo .standard row first .null (.ok .null) →
    ∀ v, Host.ComesTo .standard row n .null (.ok v) → v = .null

namespace Host

/-- What the expression comes to is what it comes to under the promise. -/
def Kept (row : List Value) (n : Node) : Prop :=
  ∀ v, v ≠ .null → result .standard row n .null = .ok v →
    result .standard row n .notPossible = .ok v

theorem first_ne_null {row : List Value} {n first : Node} (hadmitted : n.Everywhere Node.Admitted)
    (hkeeps : n.KeepsNull row) (hfirst : first ∈ n.passed.head?) {v : Value} (hnull : v ≠ .null)
    (hv : result .standard row n .null = .ok v) : result .standard row first .null ≠ .ok .null := by
  intro hfirstNull
  have hmem := Node.operand_of_passed (List.mem_of_mem_head? hfirst)
  refine hnull (hkeeps first hfirst ?_ v ?_)
  · exact hfirstNull ▸ comesTo_standard (hadmitted.inside first hmem) .null
  · exact hv ▸ comesTo_standard hadmitted .null

theorem passed_of_nullTest {op : Operator} (hop : op ∈ Catalog.nullTests) {ns : List Node}
    {type : SqlType} (hcount : op.arity.admits ns.length = true) {m : Node}
    (hm : m ∈ (Node.call op ns type).passed) : m ∈ (Node.call op ns type).passed.head? := by
  rw [Catalog.arity_of_nullTest op hop] at hcount
  obtain ⟨n, rfl⟩ := Arity.eq_singleton_of_admits_one hcount
  by_cases htest : op = Catalog.isNull ∨ op = Catalog.isNotNull
  · rw [Node.passed, if_pos htest] at hm
    cases hm
  · rw [Node.passed, if_neg htest] at hm ⊢
    cases List.mem_singleton.1 hm
    rfl

section

variable {row : List Value} {op : Operator} {ns : List Node} {type : SqlType}
  (hchecked : (Node.call op ns type).Everywhere Node.Checked)
  (hleaves : (Node.call op ns type).Everywhere (Node.LeafHolds row))
  (hkeeps : (Node.call op ns type).KeepsNull row)
  (hns : ∀ m ∈ (Node.call op ns type).passed, Kept row m)

include hchecked hleaves hkeeps hns

theorem kept_logical (hlogical : op = Catalog.and ∨ op = Catalog.or) :
    Kept row (.call op ns type) := by
  intro v hnull hv
  have hadmitted := hchecked.imp fun _ => Node.Checked.admitted
  obtain ⟨hname, k, l, r, rfl, hresult⟩ := result_logical row hlogical hchecked.here
  have hpassed : (Node.call op [l, r] type).passed = [l, r] := by
    rcases hlogical with rfl | rfl <;> rfl
  have hfirst : l ∈ (Node.call op [l, r] type).passed.head? := by
    rw [hpassed]
    rfl
  have hleft := first_ne_null hadmitted hkeeps hfirst hnull hv
  rw [hpassed, List.forall_mem_cons, List.forall_mem_singleton] at hns
  obtain ⟨a, u, ha, hau, hsettle⟩ := (hresult .null v).1 hv
  cases hsettle
  have hanull : a ≠ .null := fun h => hleft (h ▸ ha)
  have hconnects : Connects k a (result .standard row r .notPossible) v := by
    generalize hr : result .standard row r .null = right at hau
    cases hau with
    | leftDecides => exact .leftDecides
    | right htruth =>
      rw [hns.2 v hnull hr]
      exact .right htruth
    | rightDecides => exact absurd rfl hanull
    | unknown => exact absurd rfl hnull
  refine (hresult _ _).2 ⟨a, v, hns.1 a hanull ha, hconnects, ?_⟩
  exact settle_notPossible_of_conforms (hname ▸ fun _ => rfl) hau.truth.conforms hnull

theorem kept_strict (hlogical : ¬ (op = Catalog.and ∨ op = Catalog.or)) :
    Kept row (.call op ns type) := by
  intro v hnull hv
  obtain ⟨hop, hcount, -, -⟩ := Node.checked_call hchecked.here
  have hadmitted := hchecked.imp fun _ => Node.Checked.admitted
  have hsame : ∀ m ∈ (Node.call op ns type).passed,
      result .standard row m .notPossible = result .standard row m .null := by
    intro m hm
    have hmem := Node.operand_of_passed hm
    obtain ⟨w, hw, hstrict⟩ := operands_of_result hop hv hlogical m hmem
    have hwnull : w ≠ .null := by
      rintro rfl
      by_cases htest : op ∈ Catalog.nullTests
      · exact first_ne_null hadmitted hkeeps (passed_of_nullTest htest hcount hm) hnull hv hw
      · exact hnull (hstrict htest rfl)
    rw [hns m hm w hwnull hw, hw]
  rw [result_of_same hop hv hsame]
  exact settle_notPossible_of_conforms (held_call hchecked.here rfl)
    (conforms_of_result hchecked hleaves hv) hnull

end

theorem kept_of_checked {row : List Value} {n : Node} (hchecked : n.Everywhere Node.Checked)
    (hleaves : n.Everywhere (Node.LeafHolds row)) (hkeeps : n.InMode (Node.KeepsNull row)) :
    Kept row n := by
  induction hchecked with
  | @intro n hn hinside ih =>
    have hconforms : ∀ v, result .standard row n .null = .ok v → Conforms n.type.name v :=
      fun v => conforms_of_result (.intro hn hinside) hleaves
    cases n with
    | literal value type =>
      intro v hnull hv
      have hconforms := hconforms v hv
      cases hv
      exact settle_notPossible_of_conforms (fun _ => rfl) hconforms hnull
    | input index name type =>
      intro v hnull hv
      have hconforms := hconforms v hv
      obtain ⟨w, hw, hsettle⟩ := bind_eq_ok_iff.1 hv
      cases hsettle
      rw [result, hw]
      exact settle_notPossible_of_conforms (fun _ => rfl) hconforms hnull
    | call op ns type =>
      have hns : ∀ m ∈ (Node.call op ns type).passed, Kept row m := fun m hm =>
        ih m (Node.operand_of_passed hm) (hleaves.inside m (Node.operand_of_passed hm))
          (hkeeps.inside m hm)
      by_cases hlogical : op = Catalog.and ∨ op = Catalog.or
      · exact kept_logical (.intro hn hinside) hleaves hkeeps.here hns hlogical
      · exact kept_strict (.intro hn hinside) hleaves hkeeps.here hns hlogical

/-- An expression that comes to a value with its nulls comes to the same value where null is
known not to be possible, as long as no call inside it makes a value of a first operand that is
null. -/
theorem comesTo_notPossible {row : List Value} {n : Node} (hchecked : n.Everywhere Node.Checked)
    (hleaves : n.Everywhere (Node.LeafHolds row)) (hkeeps : n.InMode (Node.KeepsNull row))
    {v : Value} (hv : ComesTo .standard row n .null (.ok v)) (hnull : v ≠ .null) :
    ComesTo .standard row n .notPossible (.ok v) := by
  have hadmitted := hchecked.imp fun _ => Node.Checked.admitted
  have hresult : result .standard row n .null = .ok v :=
    (comesTo_standard hadmitted .null).unique hv
  exact kept_of_checked hchecked hleaves hkeeps v hnull hresult ▸
    comesTo_standard hadmitted .notPossible

namespace Membership

def active : Node := .call Catalog.isNull [.column 0 "resigned" (.orNull .date)] (.notNull .boolean)

def adult : Node :=
  .call Catalog.greaterThan [.column 1 "age" (.orNull .integer), .int 17] (.orNull .boolean)

def member : Node := .call Catalog.and [active, adult] (.orNull .boolean)

def person : List Value := [.null, .int 40]

theorem checked : member.Everywhere Node.Checked := by
  have hactive : active.Everywhere Node.Checked := by
    simp only [active, Node.column, Node.everywhere_call, Node.everywhere_input,
      List.forall_mem_singleton]
    exact ⟨⟨by decide, rfl, rfl⟩, trivial⟩
  have hadult : adult.Everywhere Node.Checked := by
    simp only [adult, Node.column, Node.int, Node.everywhere_call, Node.everywhere_input,
      Node.everywhere_literal, List.forall_mem_cons]
    exact ⟨⟨by decide, rfl, rfl⟩, trivial, trivial, List.forall_mem_nil _⟩
  simp only [member, Node.everywhere_call, List.forall_mem_cons]
  exact ⟨⟨by decide, rfl, rfl⟩, hactive, hadult, List.forall_mem_nil _⟩

theorem leafHolds : member.Everywhere (Node.LeafHolds person) := by
  simp only [member, active, adult, Node.column, Node.int, Node.everywhere_call,
    Node.everywhere_input, Node.everywhere_literal, List.forall_mem_cons]
  refine ⟨trivial, ⟨trivial, ?_, List.forall_mem_nil _⟩, ⟨trivial, ?_, ?_, List.forall_mem_nil _⟩,
    List.forall_mem_nil _⟩
  · intro v hv
    cases hv
    exact .inl rfl
  · intro v hv
    cases hv
    exact .inr ⟨by decide, rfl⟩
  · exact .inr ⟨by decide, rfl⟩

theorem result_active : result .standard person active .null = .ok (.bool true) := by
  rw [active, result_standard_call, find_standard]
  rfl

theorem result_member : result .standard person member .null = .ok (.bool true) := by
  simp only [member, active, adult, result_standard_call, resultAll, find_standard]
  rfl

theorem keepsNull : member.InMode (Node.KeepsNull person) := by
  have hadmitted := checked.imp fun _ => Node.Checked.admitted
  have hactive := hadmitted.inside active (by simp [member, Node.operands])
  have hactiveValue : ComesTo .standard person active .null (.ok (.bool true)) :=
    result_active ▸ comesTo_standard hactive .null
  have hageValue : ComesTo .standard person (.column 1 "age" (.orNull .integer)) .null
      (.ok (.int 40)) := ⟨_, rfl, rfl⟩
  have hleaf : ∀ n : Node, n.passed = [] → n.InMode (Node.KeepsNull person) := fun n hn =>
    .intro (by simp [Node.KeepsNull, hn]) (by simp [hn])
  have hadult : adult.InMode (Node.KeepsNull person) := by
    refine .intro (fun first hfirst hnull => ?_) fun m hm => ?_
    · cases hfirst
      cases hageValue.unique hnull
    · rcases List.mem_pair.1 hm with rfl | rfl <;> exact hleaf _ rfl
  refine .intro (fun first hfirst hnull => ?_) fun m hm => ?_
  · cases hfirst
    cases hactiveValue.unique hnull
  · rcases List.mem_pair.1 hm with rfl | rfl
    · exact hleaf _ rfl
    · exact hadult

theorem member_notPossible :
    (member.Everywhere Node.Checked ∧ member.Everywhere (Node.LeafHolds person) ∧
      member.InMode (Node.KeepsNull person) ∧
      ComesTo .standard person member .null (.ok (.bool true)) ∧ Value.bool true ≠ .null) ∧
    ComesTo .standard person member .notPossible (.ok (.bool true)) := by
  have hv : ComesTo .standard person member .null (.ok (.bool true)) :=
    result_member ▸ comesTo_standard (checked.imp fun _ => Node.Checked.admitted) .null
  have hvalue : Value.bool true ≠ .null := by decide
  exact ⟨⟨checked, leafHolds, keepsNull, hv, hvalue⟩,
    comesTo_notPossible checked leafHolds keepsNull hv hvalue⟩

def voted : Node :=
  .call Catalog.and [.column 0 "left" (.orNull .boolean), .column 1 "right" (.orNull .boolean)]
    (.orNull .boolean)

/-- False on the right makes a value of the conjunction, but null on the left is forced before. -/
theorem forced_of_null_left :
    voted.Everywhere Node.Checked ∧ voted.Everywhere (Node.LeafConforms [.null, .bool false]) ∧
      ComesTo .standard [.null, .bool false] voted .null (.ok (.bool false)) ∧
      ComesTo .standard [.null, .bool false] voted .notPossible
        (.error (.nullConversion (.primitive .bool))) := by
  have hchecked : voted.Everywhere Node.Checked := by
    simp only [voted, Node.column, Node.everywhere_call, Node.everywhere_input,
      List.forall_mem_cons]
    exact ⟨⟨by decide, rfl, rfl⟩, trivial, trivial, List.forall_mem_nil _⟩
  have hleaves : voted.Everywhere (Node.LeafConforms [.null, .bool false]) := by
    simp only [voted, Node.column, Node.everywhere_call, Node.everywhere_input,
      List.forall_mem_cons]
    exact ⟨trivial, ⟨by decide, .null, rfl, .inl rfl⟩,
      ⟨by decide, .bool false, rfl, .inr ⟨by decide, rfl⟩⟩, List.forall_mem_nil _⟩
  have hvalue : ∀ mode, ComesTo .standard [.null, .bool false] voted mode
      (result .standard [.null, .bool false] voted mode) :=
    comesTo_standard (hchecked.imp fun _ => Node.Checked.admitted)
  simp only [voted, result_standard_call, resultAll, find_standard] at hvalue
  exact ⟨hchecked, hleaves, hvalue .null, hvalue .notPossible⟩

end Membership

end Host

end RowExpr
