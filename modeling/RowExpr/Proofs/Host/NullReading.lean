import RowExpr.Proofs.Host.Strictness

/-!
# Nulls that read as a truth value

Lowered so that null reads as false or as true, an expression comes to what it comes to with
its nulls, read that way. `AND` and `OR` see to this whatever their operands are. Other calls
do if no truth value among their operands is null: they are given operands that are read
already, and `NOT` makes true of a null that reads as false.
-/

namespace RowExpr

/-- No truth value that the call is given is null, unless the call is an `AND` or an `OR`. -/
def Node.GivenTruth (row : List Value) : Node → Prop
  | call op ns type =>
    op ≠ Catalog.and → op ≠ Catalog.or → ∀ m ∈ (call op ns type).passed,
      m.type.name = .boolean → ¬ Host.ComesTo .standard row m .null (.ok .null)
  | _ => True

namespace Host

/-- The mode in which null reads as a truth value. -/
def NullMode.reading : Bool → NullMode
  | .false => .false
  | .true => .true

/-- A value of a type, null read as a truth value. -/
def readNull (d : Bool) (name : TypeName) (v : Value) : Value :=
  if name = .boolean ∧ v = .null then .bool d else v

theorem settle_reading (d : Bool) (name : TypeName) (held : HostType) (v : Value) :
    (NullMode.reading d).settle name held v = .ok (readNull d name v) := by
  cases d <;> rfl

/-! ## Logic -/

/-- The same value, or the truth value that null reads as. -/
def ReadsAs (d : Bool) (v w : Value) : Prop := w = v ∨ v = .null ∧ w = .bool d

section

variable {d : Bool} {v w : Value}

theorem readsAs_readNull (d : Bool) (name : TypeName) (v : Value) :
    ReadsAs d v (readNull d name v) := by
  unfold readNull
  split
  · next h => exact .inr ⟨h.2, rfl⟩
  · exact .inl rfl

theorem ReadsAs.readNull_eq (h : ReadsAs d v w) :
    readNull d .boolean w = readNull d .boolean v := by
  rcases h with rfl | ⟨rfl, rfl⟩ <;> rfl

theorem ReadsAs.eq_of_bool {t : Bool} (h : ReadsAs d (.bool t) w) : w = .bool t := by
  rcases h with rfl | ⟨hnull, -⟩
  · rfl
  · cases hnull

theorem ReadsAs.truth (h : ReadsAs d v w) (hv : IsTruth v) : IsTruth w := by
  rcases h with rfl | ⟨-, rfl⟩
  · exact hv
  · exact .inr ⟨d, rfl⟩

end

/-- An `AND` or an `OR` of operands that are read comes to its value, read or not. -/
theorem ReadsAs.connects {d k : Bool} {a a' : Value} (ha : ReadsAs d a a')
    {r r' : Except EvalError Value} (hr : ∀ b, r = .ok b → ∃ b', r' = .ok b' ∧ ReadsAs d b b')
    {v : Value} (h : Connects k a r v) : ∃ w, Connects k a' r' w ∧ ReadsAs d v w := by
  have hd : d = k ∨ d = !k := by cases d <;> cases k <;> simp
  cases h with
  | leftDecides =>
    cases ha.eq_of_bool
    exact ⟨_, .leftDecides, .inl rfl⟩
  | right htruth =>
    obtain ⟨b', rfl, hb⟩ := hr _ rfl
    cases ha.eq_of_bool
    exact ⟨b', .right (hb.truth htruth), hb⟩
  | rightDecides =>
    obtain ⟨b', rfl, hb⟩ := hr _ rfl
    cases hb.eq_of_bool
    refine ⟨.bool k, ?_, .inl rfl⟩
    rcases ha with rfl | ⟨-, rfl⟩
    · exact .rightDecides
    · rcases hd with rfl | rfl
      · exact .leftDecides
      · exact .right (.inr ⟨k, rfl⟩)
  | @unknown b hb =>
    obtain ⟨b', rfl, hb'⟩ := hr _ rfl
    rcases ha with rfl | ⟨-, rfl⟩
    · rcases hb' with rfl | ⟨-, rfl⟩
      · exact ⟨_, .unknown hb, .inl rfl⟩
      · rcases hd with rfl | rfl
        · exact ⟨_, .rightDecides, .inr ⟨rfl, rfl⟩⟩
        · exact ⟨_, .unknown (.inr rfl), .inl rfl⟩
    · rcases hd with rfl | rfl
      · exact ⟨_, .leftDecides, .inr ⟨rfl, rfl⟩⟩
      · -- Both sides are null or read as what does not decide; the right one is the value.
        rcases hb with rfl | rfl
        · exact ⟨b', .right (hb'.truth (.inl rfl)), hb'⟩
        · cases hb'.eq_of_bool
          exact ⟨_, .right (.inr ⟨_, rfl⟩), .inr ⟨rfl, rfl⟩⟩

/-! ## Expressions -/

section

variable {row : List Value} {d : Bool}

/-- What the expression comes to is what it comes to with its nulls, read. -/
def ReadIn (row : List Value) (d : Bool) (n : Node) : Prop :=
  ∀ v, result .standard row n .null = .ok v →
    result .standard row n (.reading d) = .ok (readNull d n.type.name v)

variable {op : Operator} {ns : List Node} {type : SqlType}

theorem readIn_logical (hlogical : op = Catalog.and ∨ op = Catalog.or)
    (hchecked : (Node.call op ns type).Checked)
    (hns : ∀ m ∈ (Node.call op ns type).passed, ReadIn row d m) :
    ReadIn row d (.call op ns type) := by
  intro v hv
  obtain ⟨hname, k, l, r, rfl, hresult⟩ := result_logical row hlogical hchecked
  have hpassed : (Node.call op [l, r] type).passed = [l, r] := by
    rcases hlogical with rfl | rfl <;> rfl
  rw [hpassed, List.forall_mem_cons, List.forall_mem_singleton] at hns
  obtain ⟨a, u, ha, hau, hsettle⟩ := (hresult .null v).1 hv
  cases hsettle
  have hr : ∀ b, result .standard row r .null = .ok b →
      ∃ b', result .standard row r (.reading d) = .ok b' ∧ ReadsAs d b b' := fun b hb =>
    ⟨_, hns.2 b hb, readsAs_readNull d _ b⟩
  obtain ⟨w, hw, hread⟩ := (readsAs_readNull d l.type.name a).connects hr hau
  refine (hresult _ _).2 ⟨_, w, hns.1 a ha, hw, ?_⟩
  rw [settle_reading, hread.readNull_eq, Node.type, hname]

/-- A call that is given no null truth value is given the same operands when they are read. -/
theorem readIn_strict (hlogical : ¬ (op = Catalog.and ∨ op = Catalog.or))
    (hchecked : (Node.call op ns type).Everywhere Node.Checked)
    (htruth : (Node.call op ns type).GivenTruth row)
    (hns : ∀ m ∈ (Node.call op ns type).passed, ReadIn row d m) :
    ReadIn row d (.call op ns type) := by
  intro v hv
  obtain ⟨hop, -, -, -⟩ := Node.checked_call hchecked.here
  have hsame : ∀ m ∈ (Node.call op ns type).passed,
      result .standard row m (.reading d) = result .standard row m .null := by
    intro m hm
    have hmem := Node.operand_of_passed hm
    obtain ⟨w, hw, -⟩ := operands_of_result hop hv hlogical m hmem
    have hkept : ¬ (m.type.name = .boolean ∧ w = .null) := by
      rintro ⟨hname, rfl⟩
      refine htruth (fun h => hlogical (.inl h)) (fun h => hlogical (.inr h)) m hm hname ?_
      have hadmitted := (hchecked.inside m hmem).imp fun _ => Node.Checked.admitted
      exact hw ▸ comesTo_standard hadmitted .null
    rw [hns m hm w hw, hw, readNull, if_neg hkept]
  rw [result_of_same hop hv hsame, settle_reading]
  rfl

theorem readIn_of_checked {n : Node} (hchecked : n.Everywhere Node.Checked)
    (htruth : n.InMode (Node.GivenTruth row)) : ReadIn row d n := by
  induction hchecked with
  | @intro n hn hinside ih =>
    cases n with
    | literal value type =>
      intro v hv
      cases hv
      exact settle_reading d type.name _ value
    | input index name type =>
      intro v hv
      obtain ⟨w, hw, hsettle⟩ := bind_eq_ok_iff.1 hv
      cases hsettle
      rw [result, hw]
      exact settle_reading d type.name _ v
    | call op ns type =>
      have hns : ∀ m ∈ (Node.call op ns type).passed, ReadIn row d m := fun m hm =>
        ih m (Node.operand_of_passed hm) (htruth.inside m hm)
      by_cases hlogical : op = Catalog.and ∨ op = Catalog.or
      · exact readIn_logical hlogical hn hns
      · exact readIn_strict hlogical (.intro hn hinside) htruth.here hns

/-- A condition comes to what it comes to with its nulls, a null read as the truth value that
the mode asks for, as long as no call inside it but `AND` and `OR` is given a null truth
value. -/
theorem comesTo_reading {n : Node} (hchecked : n.Everywhere Node.Checked)
    (hbool : n.type.name = .boolean) (htruth : n.InMode (Node.GivenTruth row)) {v : Value}
    (hv : ComesTo .standard row n .null (.ok v)) :
    ComesTo .standard row n .false (.ok (if v = .null then .bool false else v)) ∧
      ComesTo .standard row n .true (.ok (if v = .null then .bool true else v)) := by
  have hadmitted := hchecked.imp fun _ => Node.Checked.admitted
  have hread : ∀ d, ComesTo .standard row n (.reading d)
      (.ok (if v = .null then .bool d else v)) := by
    intro d
    have hresult : ComesTo .standard row n (.reading d) _ := comesTo_standard hadmitted (.reading d)
    rw [readIn_of_checked hchecked htruth v ((comesTo_standard hadmitted .null).unique hv), hbool]
      at hresult
    simpa [readNull] using hresult
  exact ⟨hread false, hread true⟩

end

namespace Overdue

def late : Node :=
  .call Catalog.greaterThan [.column 0 "days" (.orNull .integer), .int 30] (.orNull .boolean)

def paid : Node := .column 1 "paid" (.orNull .boolean)

def unpaid : Node := .call Catalog.not [paid] (.orNull .boolean)

def overdue : Node := .call Catalog.and [late, unpaid] (.orNull .boolean)

theorem checked_unpaid : unpaid.Everywhere Node.Checked := by
  simp only [unpaid, paid, Node.column, Node.everywhere_call, Node.everywhere_input,
    List.forall_mem_singleton]
  exact ⟨⟨by decide, rfl, rfl⟩, trivial⟩

theorem checked : overdue.Everywhere Node.Checked := by
  have hlate : late.Everywhere Node.Checked := by
    simp only [late, Node.column, Node.int, Node.everywhere_call, Node.everywhere_input,
      Node.everywhere_literal, List.forall_mem_cons]
    exact ⟨⟨by decide, rfl, rfl⟩, trivial, trivial, List.forall_mem_nil _⟩
  simp only [overdue, Node.everywhere_call, List.forall_mem_cons]
  exact ⟨⟨by decide, rfl, rfl⟩, hlate, checked_unpaid, List.forall_mem_nil _⟩

/-- What is paid is known, so `NOT` is given no null. -/
theorem givenTruth : overdue.InMode (Node.GivenTruth [.null, .bool false]) := by
  have hpaid : ComesTo .standard [.null, .bool false] paid .null (.ok (.bool false)) :=
    ⟨_, rfl, rfl⟩
  have hlate : late.InMode (Node.GivenTruth [.null, .bool false]) := by
    refine .intro (fun _ _ m hm hname => ?_) fun m hm => ?_
    all_goals rcases List.mem_pair.1 hm with rfl | rfl
    · cases hname
    · cases hname
    · exact .intro trivial (List.forall_mem_nil _)
    · exact .intro trivial (List.forall_mem_nil _)
  have hunpaid : unpaid.InMode (Node.GivenTruth [.null, .bool false]) := by
    refine .intro (fun _ _ m hm _ hnull => ?_) fun m hm => ?_
    all_goals cases List.mem_singleton.1 hm
    · cases hpaid.unique hnull
    · exact .intro trivial (List.forall_mem_nil _)
  refine .intro (fun h => absurd rfl h) fun m hm => ?_
  rcases List.mem_pair.1 hm with rfl | rfl
  · exact hlate
  · exact hunpaid

theorem reading_overdue :
    (overdue.Everywhere Node.Checked ∧ overdue.type.name = .boolean ∧
      overdue.InMode (Node.GivenTruth [.null, .bool false]) ∧
      ComesTo .standard [.null, .bool false] overdue .null (.ok .null)) ∧
    ComesTo .standard [.null, .bool false] overdue .false
        (.ok (if Value.null = .null then .bool false else .null)) ∧
      ComesTo .standard [.null, .bool false] overdue .true
        (.ok (if Value.null = .null then .bool true else .null)) := by
  have hresult : result .standard [.null, .bool false] overdue .null = .ok .null := by
    simp only [overdue, late, unpaid, result_standard_call, resultAll, find_standard]
    rfl
  have hv : ComesTo .standard [.null, .bool false] overdue .null (.ok .null) :=
    hresult ▸ comesTo_standard (checked.imp fun _ => Node.Checked.admitted) .null
  exact ⟨⟨checked, rfl, givenTruth, hv⟩, comesTo_reading checked rfl givenTruth hv⟩

/-- A null that `NOT` is given is read before it is negated: the modes are swapped. -/
theorem swapped_of_unknown_paid :
    unpaid.Everywhere Node.Checked ∧ unpaid.type.name = .boolean ∧
      unpaid.Everywhere (Node.LeafConforms [.null, .null]) ∧
      ComesTo .standard [.null, .null] unpaid .null (.ok .null) ∧
      ComesTo .standard [.null, .null] unpaid .false (.ok (.bool true)) ∧
      ComesTo .standard [.null, .null] unpaid .true (.ok (.bool false)) := by
  have hvalue : ∀ mode, ComesTo .standard [.null, .null] unpaid mode
      (result .standard [.null, .null] unpaid mode) :=
    comesTo_standard (checked_unpaid.imp fun _ => Node.Checked.admitted)
  have hleaves : unpaid.Everywhere (Node.LeafConforms [.null, .null]) := by
    simp only [unpaid, paid, Node.column, Node.everywhere_call, Node.everywhere_input,
      List.forall_mem_singleton]
    exact ⟨trivial, by decide, .null, rfl, .inl rfl⟩
  simp only [unpaid, result_standard_call, resultAll, find_standard] at hvalue
  exact ⟨checked_unpaid, rfl, hleaves, hvalue .null, hvalue .false, hvalue .true⟩

end Overdue

end Host

end RowExpr
