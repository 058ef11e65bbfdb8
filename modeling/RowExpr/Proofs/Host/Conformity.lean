import RowExpr.Proofs.Host.Soundness
import RowExpr.Proofs.Host.Strictness

/-!
# Values of expressions

A typed expression whose leaves hold values of their types comes to a value of its own type, if
it comes to one, whatever types its leaves have. So a conversion of the value to the primitive
kind that it is held in leaves it as it is.
-/

namespace RowExpr

theorem Fits.conforms {t : TypeName} {v : Value} (h : Fits t v) : Conforms t v := by
  by_cases ht : t = .null
  · subst ht
    exact .inl h.eq_null
  · exact h.holds.imp id fun hholds => ⟨ht, hholds⟩

theorem Host.IsTruth.conforms {v : Value} (h : IsTruth v) : Conforms .boolean v := by
  rcases h with rfl | ⟨t, rfl⟩
  · exact .inl rfl
  · exact .inr ⟨by decide, rfl⟩

/-- Values of type `ANY` are only tested or compared. -/
theorem OperandRule.ne_any_of_accepts {rule : OperandRule} (hany : rule ≠ .any)
    (hcomparable : rule ≠ .comparable) {ts : List SqlType} (h : rule.accepts ts = true) :
    ∀ t ∈ ts, t.name ≠ .any := by
  have hnumber : ∀ t : SqlType, isNumberOrInterval t = true → t.name ≠ .any := by
    rintro ⟨_, _⟩ h rfl
    cases h
  have htext : ∀ t : SqlType, isText t = true → t.name ≠ .any := by
    rintro ⟨_, _⟩ h rfl
    cases h
  have hintegral : ∀ t : SqlType, t.name.isIntegral = true → t.name ≠ .any := by
    rintro ⟨_, _⟩ h rfl
    cases h
  cases rule with
  | any => exact absurd rfl hany
  | comparable => exact absurd rfl hcomparable
  | niladic =>
    rw [List.isEmpty_iff.1 h]
    exact List.forall_mem_nil _
  | numeric | numericOrInterval | division =>
    exact fun t ht => hnumber t (all_isNumberOrInterval rfl h t ht)
  | boolean =>
    intro t ht hname
    have hrule := List.all_eq_true.1 h t ht
    simp [hname] at hrule
  | character => exact fun t ht => htext t (List.all_eq_true.1 h t ht)
  | trim =>
    rcases ts with _ | ⟨flag, _ | ⟨chars, _ | ⟨source, _ | ⟨_, _⟩⟩⟩⟩
    case cons.cons.cons.nil =>
      simp only [accepts, Bool.and_eq_true, beq_iff_eq] at h
      simp only [List.forall_mem_cons]
      exact ⟨by simp [h.1.1], htext _ h.1.2, htext _ h.2, List.forall_mem_nil _⟩
    all_goals cases h
  | substring =>
    rcases ts with _ | ⟨source, _ | ⟨start, _ | ⟨length, _ | ⟨_, _⟩⟩⟩⟩
    case cons.cons.nil =>
      simp only [accepts, Bool.and_eq_true] at h
      simp only [List.forall_mem_cons]
      exact ⟨htext _ h.1, hintegral _ h.2, List.forall_mem_nil _⟩
    case cons.cons.cons.nil =>
      simp only [accepts, Bool.and_eq_true] at h
      simp only [List.forall_mem_cons]
      exact ⟨htext _ h.1.1, hintegral _ h.1.2, hintegral _ h.2, List.forall_mem_nil _⟩
    all_goals cases h

/-- A leaf with a value of its type in the literal, or in the row if it is there. -/
def Node.LeafHolds (row : List Value) : Node → Prop
  | literal v type => Conforms type.name v
  | input index _ type => ∀ v, row[index.toNat]? = some v → Conforms type.name v
  | _ => True

/-- The operators that compare, with what each of them says of an order. -/
def Catalog.comparisons : List (Operator × (Ordering → Bool)) :=
  [(equals, (· == .eq)), (notEquals, (· != .eq)), (lessThan, (· == .lt)),
   (lessThanOrEqual, (· != .gt)), (greaterThan, (· == .gt)), (greaterThanOrEqual, (· != .lt))]

theorem Catalog.mem_comparisons_of_comparable :
    ∀ op ∈ all, op.operands = .comparable → op ∈ comparisons.map (·.1) := by
  decide

namespace Host

/-! ## Tests and comparisons -/

theorem truth_of_applyBinary {host : BinaryOp} (hhost : host.test?.isSome = true)
    {a b v : Value} (h : applyBinary host a b = .ok v) : IsTruth v := by
  obtain ⟨test, htest⟩ := Option.isSome_iff_exists.1 hhost
  unfold applyBinary at h
  split at h
  · cases h
    exact .inl rfl
  · simp only [htest] at h
    split at h <;> cases h
    exact .inr ⟨_, rfl⟩

theorem find_of_mem_comparisons {c : Operator × (Ordering → Bool)}
    (hc : c ∈ Catalog.comparisons) :
    c.1 ∈ Catalog.all ∧ c.1.arity = .two ∧ c.1.returns = .boolean ∧
      ∃ host, Implementors.standard.find c.1.id = .binary host ∧ host.test? = some c.2 := by
  rw [find_standard]
  simp only [Catalog.comparisons, List.mem_cons, List.not_mem_nil, or_false] at hc
  rcases hc with rfl | rfl | rfl | rfl | rfl | rfl <;>
    exact ⟨by decide, rfl, rfl, _, rfl, rfl⟩

theorem find_comparison {op : Operator} (hop : op ∈ Catalog.all)
    (h : op.operands = .comparable) :
    ∃ host, Implementors.standard.find op.id = .binary host ∧ host.test?.isSome = true ∧
      op.returns = .boolean := by
  obtain ⟨c, hc, rfl⟩ := List.mem_map.1 (Catalog.mem_comparisons_of_comparable op hop h)
  obtain ⟨-, -, hreturns, host, hfind, htest⟩ := find_of_mem_comparisons hc
  exact ⟨host, hfind, by rw [htest]; rfl, hreturns⟩

theorem nullTest_of_any : ∀ op ∈ Catalog.all, op.operands = .any → op ∈ Catalog.nullTests := by
  decide

theorem combine_of_comparison {host : BinaryOp} (hhost : host.test?.isSome = true)
    (l r : Except EvalError Value) :
    host.combine l r = l >>= fun a => r >>= fun b => applyBinary host a b := by
  cases host <;> first | rfl | contradiction

/-! ## Calls -/

section

variable {row : List Value} {op : Operator} {ns : List Node} {type : SqlType} {v : Value}
  (hchecked : (Node.call op ns type).Checked)
  (hv : result .standard row (.call op ns type) .null = .ok v)

include hchecked hv

theorem conforms_logical (hlogical : op = Catalog.and ∨ op = Catalog.or) :
    Conforms type.name v := by
  obtain ⟨hname, k, l, r, rfl, hresult⟩ := result_logical row hlogical hchecked
  obtain ⟨a, u, -, hau, hsettle⟩ := (hresult .null v).1 hv
  cases hsettle
  rw [hname]
  exact hau.truth.conforms

theorem conforms_comparison (hrule : op.operands = .comparable) : Conforms type.name v := by
  obtain ⟨hop, -, -, rfl⟩ := Node.checked_call hchecked
  obtain ⟨host, hfind, htest, hreturns⟩ := find_comparison hop hrule
  rw [result_call_null, hfind] at hv
  simp only [Implementor.apply] at hv
  obtain ⟨l, r, -, hlr⟩ := onTwo_eq_ok hv
  rw [combine_of_comparison htest] at hlr
  obtain ⟨a, -, hr⟩ := bind_eq_ok_iff.1 hlr
  obtain ⟨b, -, happly⟩ := bind_eq_ok_iff.1 hr
  rw [hreturns]
  exact (truth_of_applyBinary htest happly).conforms

theorem conforms_nullTest (htest : op ∈ Catalog.nullTests) : Conforms type.name v := by
  obtain ⟨-, -, -, rfl⟩ := Node.checked_call hchecked
  rw [result_call_null, find_standard] at hv
  simp only [Catalog.nullTests, List.mem_cons, List.not_mem_nil, or_false] at htest
  rcases htest with rfl | rfl | rfl
  · obtain ⟨o, -, ho⟩ := onOne_eq_ok (f := (· >>= applyUnary .isNull)) hv
    obtain ⟨w, -, happly⟩ := bind_eq_ok_iff.1 ho
    cases happly
    exact IsTruth.conforms (.inr ⟨_, rfl⟩)
  · obtain ⟨o, -, ho⟩ := onOne_eq_ok (f := (· >>= applyUnary .isNotNull)) hv
    obtain ⟨w, -, happly⟩ := bind_eq_ok_iff.1 ho
    cases happly
    exact IsTruth.conforms (.inr ⟨_, rfl⟩)
  · have hindicator : (Implementor.method Standard.owner "nullIndicator").apply .standard
        Catalog.nullIndicator (.notNull .integer) (resultAll .standard row ns .null) = .ok v := hv
    obtain ⟨m, hm, hname, -, vs, -, hbody⟩ := method_of_apply hindicator
    rw [body_of_nullIndicator hm hname] at hbody
    have hint : ∀ i, Conforms .integer (.int i) := fun _ => .inr ⟨by decide, rfl⟩
    cases vs <;> cases hbody <;> exact hint _

theorem conforms_typed (hany : op.operands ≠ .any) (hcomparable : op.operands ≠ .comparable)
    (hlogical : ¬ (op = Catalog.and ∨ op = Catalog.or))
    (hadmitted : (Node.call op ns type).Everywhere Node.Admitted)
    (hns : ∀ m ∈ ns, ∀ w, result .standard row m .null = .ok w → Conforms m.type.name w) :
    Conforms type.name v := by
  obtain ⟨hop, -, haccepts, -⟩ := Node.checked_call hchecked
  have hflags : (Node.call op ns type).ComparesNoFlags := fun h => absurd h hcomparable
  have hsound : ∀ m ∈ ns, SoundAs row m.type.name (lower .standard m .null) := by
    intro m hm
    obtain ⟨w, hw, -⟩ := operands_of_result hop hv hlogical m hm
    obtain ⟨e, he, hvalue⟩ : ComesTo .standard row m .null _ :=
      comesTo_standard (hadmitted.inside m hm) .null
    have hfits : Fits m.type.name w :=
      .of_conforms
        (OperandRule.ne_any_of_accepts hany hcomparable haccepts _ (List.mem_map_of_mem hm))
        (hns m hm w hw)
    refine ⟨e, he, ?_⟩
    rw [show e.eval .standard row = .ok w from hvalue.trans hw]
    exact hfits
  obtain ⟨e, he, houtcome⟩ := soundAs_call hchecked (supplied_call hchecked hflags hsound)
  have hvalue : e.eval .standard row = .ok v :=
    hv ▸ ComesTo.unique ⟨e, he, rfl⟩ (comesTo_standard hadmitted .null)
  rw [hvalue] at houtcome
  exact Fits.conforms houtcome

end

/-- A typed expression comes to a value of its type. -/
theorem conforms_of_result {row : List Value} {n : Node} (hchecked : n.Everywhere Node.Checked)
    (hleaves : n.Everywhere (Node.LeafHolds row)) {v : Value}
    (hv : result .standard row n .null = .ok v) : Conforms n.type.name v := by
  induction hchecked generalizing v with
  | @intro n hn hinside ih =>
    cases n with
    | literal value type =>
      cases hv
      exact hleaves.here
    | input index name type =>
      obtain ⟨w, hw, hsettle⟩ := bind_eq_ok_iff.1 hv
      cases hsettle
      exact hleaves.here v (field_eq_ok hw)
    | call op ns type =>
      obtain ⟨hop, -, -, -⟩ := Node.checked_call hn
      by_cases hlogical : op = Catalog.and ∨ op = Catalog.or
      · exact conforms_logical hn hv hlogical
      by_cases hcomparable : op.operands = .comparable
      · exact conforms_comparison hn hv hcomparable
      by_cases hany : op.operands = .any
      · exact conforms_nullTest hn hv (nullTest_of_any op hop hany)
      · have hchecked : (Node.call op ns type).Everywhere Node.Checked := .intro hn hinside
        exact conforms_typed hn hv hany hcomparable hlogical
          (hchecked.imp fun _ => Node.Checked.admitted)
          fun m hm w hw => ih m hm (hleaves.inside m hm) hw

/-! ## Primitive kinds -/

/-- What is known not to be null is taken out of such a box. -/
def HostType.isBoxedPrimitive (t : HostType) : Bool := t.boxed && t.kind.isPrimitive

theorem settle_notPossible_of_conforms {name : TypeName} {held : HostType}
    (hheld : held.isBoxedPrimitive = true → held.kind = Kind.ofTypeName name)
    {v : Value} (hv : Conforms name v) (hnull : v ≠ .null) :
    NullMode.notPossible.settle name held v = .ok v := by
  rw [settle_notPossible]
  split
  · next hbox =>
    obtain ⟨-, hholds⟩ := hv.resolve_left hnull
    exact convertTo_of_holds hnull (by rwa [HostType.primitive, hheld hbox])
  · rfl

/-- No mode changes a value that is not null. -/
theorem settle_of_conforms {name : TypeName} {held : HostType}
    (hheld : held.isBoxedPrimitive = true → held.kind = Kind.ofTypeName name)
    {v : Value} (hv : Conforms name v) (hnull : v ≠ .null) (mode : NullMode) :
    mode.settle name held v = .ok v := by
  cases mode with
  | null => rfl
  | false => rw [settle_false, if_neg fun h => hnull h.2]
  | true => rw [settle_true, if_neg fun h => hnull h.2]
  | notPossible => exact settle_notPossible_of_conforms hheld hv hnull

theorem charLength_of_boxedPrimitive :
    ∀ m ∈ Standard.methods, m.returns.isBoxedPrimitive = true →
      m.name = "charLength" ∧ m.returns.kind = .int := by
  decide

theorem held_method {owner name : String} {count : Nat} {type : SqlType}
    (h : ((Implementor.method owner name).held .standard count type).isBoxedPrimitive = true) :
    name = "charLength" ∧
      ((Implementor.method owner name).held .standard count type).kind = .int := by
  simp only [Implementor.held] at h ⊢
  cases hm : MethodTable.standard.resolve owner name count with
  | none =>
    rw [hm] at h
    cases h
  | some m =>
    rw [hm] at h
    obtain ⟨hname, hkind⟩ := charLength_of_boxedPrimitive m (mem_of_resolve hm) h
    exact ⟨(name_of_resolve hm).symm.trans hname, hkind⟩

/-- A call that is held as a primitive in a box is held in the kind of its type. -/
theorem held_call {op : Operator} {ns : List Node} {type : SqlType}
    (hchecked : (Node.call op ns type).Checked) {held : HostType}
    (hheld : (Implementors.standard.find op.id).held .standard ns.length type = held)
    (h : held.isBoxedPrimitive = true) : held.kind = Kind.ofTypeName type.name := by
  obtain ⟨hop, -, -, rfl⟩ := Node.checked_call hchecked
  rw [find_standard] at hheld
  subst hheld
  simp only [Catalog.all, List.mem_cons, List.not_mem_nil, or_false] at hop
  rcases hop with rfl | rfl | rfl | rfl | rfl | rfl | rfl | rfl | rfl | rfl | rfl | rfl | rfl |
    rfl | rfl | rfl | rfl | rfl | rfl | rfl | rfl | rfl | rfl | rfl | rfl | rfl
  iterate 3 rfl
  iterate 2 cases h
  iterate 13 rfl
  iterate 4 exact absurd (held_method h).1 (by decide)
  · exact (held_method h).2
  iterate 3 exact absurd (held_method h).1 (by decide)

end Host

end RowExpr
