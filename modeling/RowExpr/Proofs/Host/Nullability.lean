import RowExpr.Proofs.Host.NullFlow

/-!
# Inferred nullability

An expression of a type without null does not come to null, and no expression converts null to
a type that cannot hold it. Substrings are an exception: their type follows from the text alone,
so it says nothing of a start or a length that is null.
-/

namespace RowExpr

/-! ## Types of results -/

def ReturnRule.isNotNull : ReturnRule → Bool
  | fixedNotNull _ | booleanNotNull => true
  | _ => false

theorem ReturnRule.of_infer_notNull {rule : ReturnRule} {ts : List SqlType}
    (h : (rule.infer ts).nullable = false) :
    rule.isNotNull = true ∨ (∀ t ∈ ts, t.nullable = false) ∨
      rule = .firstOperand ∧ ∃ first rest, ts = first :: rest ∧ first.nullable = false := by
  have hany : ts.any (·.nullable) = false → ∀ t ∈ ts, t.nullable = false := by simp
  cases rule with
  | fixed | leastRestrictive | boolean => exact .inr (.inl (hany h))
  | fixedNotNull | booleanNotNull => exact .inl rfl
  | firstOperand =>
    cases ts with
    | nil => cases h
    | cons first rest => exact .inr (.inr ⟨rfl, first, rest, rfl, h⟩)

theorem Catalog.nullTest_or_niladic :
    ∀ op ∈ all, op.returns.isNotNull = true → op ∈ nullTests ∨ op.arity = .zero := by
  decide

theorem Catalog.single_or_substring :
    ∀ op ∈ all, op.returns = .firstOperand → op.arity = .one ∨ op = substring := by
  decide

namespace Node

/-- A literal that is null, or a column that is null in the row, is of a type with null. -/
def NullsDeclared (row : List Value) : Node → Prop
  | literal v type => v = .null → type.nullable = true
  | input index _ type => row[index.toNat]? = some .null → type.nullable = true
  | _ => True

/-- A substring of a text whose type is without null has a start and a length whose types are
without null, or which at least are not null on the row. -/
def BoundsGiven (row : List Value) : Node → Prop
  | call op (source :: bounds) _ =>
    op = Catalog.substring → source.type.nullable = false →
      ∀ b ∈ bounds, b.type.nullable = false ∨ ¬ Host.ComesTo .standard row b .null (.ok .null)
  | _ => True

/-- A call of a type without null has no operand with null, or it is a null test or a
substring. -/
theorem operands_of_notNull {op : Operator} {ns : List Node} {type : SqlType}
    (hchecked : (call op ns type).Checked) (h : type.nullable = false) :
    op ∈ Catalog.nullTests ∨ (∀ n ∈ ns, n.type.nullable = false) ∨
      op = Catalog.substring ∧
        ∃ source bounds, ns = source :: bounds ∧ source.type.nullable = false := by
  obtain ⟨hop, hcount, -, rfl⟩ := checked_call hchecked
  rcases ReturnRule.of_infer_notNull h with hrule | hall | ⟨hrule, first, rest, htypes, hfirst⟩
  · rcases Catalog.nullTest_or_niladic op hop hrule with htest | harity
    · exact .inl htest
    · rw [harity] at hcount
      rw [Arity.eq_nil_of_admits_zero hcount]
      exact .inr (.inl (by simp))
  · exact .inr (.inl fun n hn => hall _ (List.mem_map_of_mem hn))
  · obtain ⟨source, bounds, rfl, rfl, -⟩ := List.map_eq_cons_iff.1 htypes
    rcases Catalog.single_or_substring op hop hrule with harity | rfl
    · rw [harity] at hcount
      obtain ⟨n, hn⟩ := Arity.eq_singleton_of_admits_one hcount
      cases hn
      exact .inr (.inl (by simpa using hfirst))
    · exact .inr (.inr ⟨rfl, source, bounds, rfl, hfirst⟩)

end Node

namespace Host

/-! ## Arguments -/

theorem canHoldNull_of_params : ∀ m ∈ Standard.methods, ∀ p ∈ m.params, p.canHoldNull = true := by
  decide

section

variable {N : Prop}

theorem unforced_passTo {o : Evaluated} {param : HostType} (hparam : param.canHoldNull = true)
    (ho : Unforced (fun v => N → v ≠ .null) o.result) :
    Unforced (fun v => N → v ≠ .null) (o.passTo param) := by
  refine ho.bind fun v hv => (unforced_held o.type).bind fun w hw => ?_
  split
  · exact fun hN => hw (hv hN)
  · exact (unforced_convertTo fun _ => hparam).imp fun u hu hN => hu (hw (hv hN))

theorem unforced_passAll {os : List Evaluated} {params : List HostType}
    (hparams : ∀ p ∈ params, p.canHoldNull = true)
    (hos : ∀ o ∈ os, Unforced (fun v => N → v ≠ .null) o.result) :
    Unforced (fun vs => N → Value.null ∉ vs) (passAll os params) := by
  induction os generalizing params with
  | nil => exact fun _ => List.not_mem_nil
  | cons o os ih =>
    cases params with
    | nil => exact fun _ => List.not_mem_nil
    | cons param params =>
      rw [List.forall_mem_cons] at hparams hos
      refine (unforced_passTo hparams.1 hos.1).bind fun v hv =>
        (ih hparams.2 hos.2).bind fun vs hvs hN hmem => ?_
      rcases List.mem_cons.1 hmem with hnull | hmem
      · exact hv hN hnull.symm
      · exact hvs hN hmem

/-! ## Calls -/

section

variable (op : Operator) {P : Value → Prop} {os : List Evaluated}

theorem unforced_onOne {f : Except EvalError Value → Except EvalError Value}
    (hf : ∀ o ∈ os, Unforced P (f o.result)) : Unforced P (onOne op f os) := by
  unfold onOne
  split
  · exact hf _ (by simp)
  · simp [Unforced, EvalError.missing]

theorem unforced_onTwo
    {f : Except EvalError Value → Except EvalError Value → Except EvalError Value}
    (hf : ∀ l ∈ os, ∀ r ∈ os, Unforced P (f l.result r.result)) : Unforced P (onTwo op f os) := by
  unfold onTwo
  split
  · exact hf _ (by simp) _ (by simp)
  · simp [Unforced, EvalError.missing]

end

/-- A call comes to null only if its type has null or some operand comes to null, and it forces
no null. -/
theorem unforced_apply (i : Implementor) (op : Operator) {type : SqlType} {os : List Evaluated}
    (htype : type.nullable = false → N)
    (hos : ∀ o ∈ os, Unforced (fun v => N → v ≠ .null) o.result) :
    Unforced (fun v => N → v ≠ .null) (i.apply .standard op type os) := by
  have hunary (host : UnaryOp) :
      Unforced (fun v => N → v ≠ .null) (onOne op (· >>= applyUnary host) os) :=
    unforced_onOne op fun o ho => (hos o ho).bind fun v hv =>
      (unforced_applyUnary host v).imp fun w hw hN => hw (hv hN)
  cases i with
  | binary host =>
    exact unforced_onTwo op fun l hl r hr => unforced_combine host (hos l hl) (hos r hr)
  | unary host => exact hunary host
  | isNull => exact hunary .isNull
  | isNotNull => exact hunary .isNotNull
  | datetimeDivide =>
    simp only [Implementor.apply]
    refine unforced_onTwo op fun l hl r hr => ?_
    refine (unforced_combine .divide (hos l hl) (hos r hr)).bind fun q hq => ?_
    -- The quotient is converted to a type that holds null just when the call's type does.
    refine (unforced_convertTo fun hnull => ?_).imp fun v hv hN => hv (hq hN)
    have hnullable : type.nullable ≠ false := fun hfalse => hq (htype hfalse) hnull
    simp [HostType.canHoldNull, hnullable]
  | method owner name =>
    simp only [Implementor.apply]
    cases hm : MethodTable.standard.resolve owner name os.length with
    | none => simp [Unforced]
    | some m =>
      have hmem := mem_of_resolve hm
      have hargs := unforced_passAll (canHoldNull_of_params m hmem) hos
      have hbody : ∀ vs, passAll os m.params = .ok vs → (N → Value.null ∉ vs) →
          Unforced (fun v => N → v ≠ .null) (m.body vs) := fun vs hpass hvs =>
        (unforced_body hmem (length_passAll (length_of_resolve hm) hpass)).imp
          fun v hv hN => hv (hvs hN)
      exact Unforced.bind_of_eq hargs hbody
  | fallback => simp [Implementor.apply, Unforced, EvalError.missing]

end

/-- A null test says in a value whether its operand is null. -/
theorem unforced_nullTest {op : Operator} (hop : op ∈ Catalog.nullTests) (type : SqlType)
    {os : List Evaluated} (hcount : os.length = 1)
    (hos : ∀ o ∈ os, Unforced (fun _ => True) o.result) :
    Unforced (· ≠ .null) ((Implementors.standard.find op.id).apply .standard op type os) := by
  obtain ⟨o, rfl⟩ := List.length_eq_one_iff.1 hcount
  simp only [Catalog.nullTests, List.mem_cons, List.not_mem_nil, or_false] at hop
  rw [find_standard]
  rcases hop with rfl | rfl | rfl
  · refine Unforced.bind (hos o List.mem_cons_self) fun v _ => ?_
    simp [applyUnary, Unforced]
  · refine Unforced.bind (hos o List.mem_cons_self) fun v _ => ?_
    simp [applyUnary, Unforced]
  · show Unforced _ ((Implementor.method Standard.owner "nullIndicator").apply .standard _ type [o])
    simp only [Implementor.apply]
    cases hm : MethodTable.standard.resolve Standard.owner "nullIndicator" [o].length with
    | none => simp [Unforced]
    | some m =>
      simp only [body_of_nullIndicator (mem_of_resolve hm) (name_of_resolve hm)]
      refine (unforced_passAll (N := False) (canHoldNull_of_params m (mem_of_resolve hm))
        fun o ho => (hos o ho).imp fun _ _ => False.elim).bind fun vs _ => ?_
      cases vs <;> simp [Standard.nullIndicatorBody, Unforced]

/-! ## Expressions -/

section

variable {row : List Value} {op : Operator} {ns : List Node} {type : SqlType}

theorem unforced_call_of_operands {N : Prop} (htype : type.nullable = false → N)
    (hns : ∀ m ∈ ns, Unforced (fun v => N → v ≠ .null) (result .standard row m .null)) :
    Unforced (fun v => N → v ≠ .null) (result .standard row (.call op ns type) .null) := by
  rw [result_call_null]
  refine unforced_apply _ op htype fun o ho => ?_
  rw [resultAll_eq_map] at ho
  obtain ⟨m, hm, rfl⟩ := List.mem_map.1 ho
  exact hns m hm

theorem unforced_call_of_notNull
    (hns : ∀ m ∈ ns, Unforced (· ≠ .null) (result .standard row m .null)) :
    Unforced (· ≠ .null) (result .standard row (.call op ns type) .null) :=
  (unforced_call_of_operands (fun _ => trivial) fun m hm =>
    (hns m hm).imp fun _ hv (_ : True) => hv).imp fun _ hv => hv trivial

theorem unforced_call_nullTest (hop : op ∈ Catalog.nullTests)
    (hcount : op.arity.admits ns.length = true)
    (hns : ∀ m ∈ ns, Unforced (fun _ => True) (result .standard row m .null)) :
    Unforced (· ≠ .null) (result .standard row (.call op ns type) .null) := by
  rw [Catalog.arity_of_nullTest op hop] at hcount
  rw [result_call_null]
  refine unforced_nullTest hop type ?_ fun o ho => ?_
  · rw [resultAll_eq_map, List.length_map]
    exact (Arity.admits_exactly 1 _).1 hcount
  · rw [resultAll_eq_map] at ho
    obtain ⟨m, hm, rfl⟩ := List.mem_map.1 ho
    exact hns m hm

/-- Given its bounds, a substring of a text that is not null has no operand that is null. -/
theorem unforced_substring_operands {source : Node} {bounds : List Node}
    (hadmitted : ∀ m ∈ bounds, m.Everywhere Node.Admitted)
    (hbounds : (Node.call Catalog.substring (source :: bounds) type).BoundsGiven row)
    (hsource : source.type.nullable = false)
    (hns : ∀ m ∈ source :: bounds,
      Unforced (fun v => m.type.nullable = false → v ≠ .null) (result .standard row m .null)) :
    ∀ m ∈ source :: bounds, Unforced (· ≠ .null) (result .standard row m .null) := by
  rw [List.forall_mem_cons] at hns ⊢
  refine ⟨hns.1.imp fun v hv => hv hsource, fun m hm => ?_⟩
  rcases hbounds rfl hsource m hm with hnotNull | hvalue
  · exact (hns.2 m hm).imp fun v hv => hv hnotNull
  · refine (hns.2 m hm).imp_of_eq fun v hresult _ hnull => hvalue ?_
    rw [← hnull, ← hresult]
    exact comesTo_standard (hadmitted m hm) .null

theorem unforced_call (hchecked : (Node.call op ns type).Everywhere Node.Checked)
    (hbounds : (Node.call op ns type).BoundsGiven row)
    (hns : ∀ m ∈ ns,
      Unforced (fun v => m.type.nullable = false → v ≠ .null) (result .standard row m .null)) :
    Unforced (fun v => type.nullable = false → v ≠ .null)
      (result .standard row (.call op ns type) .null) := by
  by_cases hnull : type.nullable = false
  · have hvalue : Unforced (· ≠ .null) (result .standard row (.call op ns type) .null) := by
      rcases Node.operands_of_notNull hchecked.here hnull with
        htest | hall | ⟨rfl, source, bounds, rfl, hsource⟩
      · obtain ⟨-, hcount, -, -⟩ := Node.checked_call hchecked.here
        exact unforced_call_nullTest htest hcount fun m hm => (hns m hm).imp fun _ _ => trivial
      · exact unforced_call_of_notNull fun m hm => (hns m hm).imp fun v hv => hv (hall m hm)
      · refine unforced_call_of_notNull (unforced_substring_operands ?_ hbounds hsource hns)
        exact fun m hm => (hchecked.inside m (List.mem_cons_of_mem _ hm)).imp
          fun _ => Node.Checked.admitted
    exact hvalue.imp fun v hv _ => hv
  · have hforced : Unforced (fun v => False → v ≠ .null)
        (result .standard row (.call op ns type) .null) :=
      unforced_call_of_operands hnull fun m hm => (hns m hm).imp fun _ _ => False.elim
    exact hforced.imp fun v _ h => absurd h hnull

theorem unforced_field (index : UInt64) :
    Unforced (fun v => row[index.toNat]? = some v) (field row index) := by
  unfold field
  split
  · assumption
  · simp [Unforced]

theorem unforced_result {n : Node} (hchecked : n.Everywhere Node.Checked)
    (hnulls : n.Everywhere (Node.NullsDeclared row))
    (hbounds : n.Everywhere (Node.BoundsGiven row)) :
    Unforced (fun v => n.type.nullable = false → v ≠ .null) (result .standard row n .null) := by
  induction hchecked with
  | @intro n hn hinside ih =>
    cases n with
    | literal v type =>
      have hdeclared : v = .null → type.nullable = true := hnulls.here
      exact fun hnull hv => by simp [hdeclared hv, Node.type] at hnull
    | input index name type =>
      have hdeclared : row[index.toNat]? = some .null → type.nullable = true := hnulls.here
      refine (unforced_field index).bind fun v hrow hnull hv => ?_
      exact absurd (hdeclared (hv ▸ hrow)) (by simp [show type.nullable = false from hnull])
    | call op ns type =>
      exact unforced_call (.intro hn hinside) hbounds.here fun m hm =>
        ih m hm (hnulls.inside m hm) (hbounds.inside m hm)

/-- Where nulls are declared and substrings have their bounds, a typed expression of a type
without null does not come to null, and no typed expression forces a null. -/
theorem eval_of_nulls_declared {n : Node} (hchecked : n.Everywhere Node.Checked)
    (hnulls : n.Everywhere (Node.NullsDeclared row))
    (hbounds : n.Everywhere (Node.BoundsGiven row)) :
    ∃ e, lower .standard n .null = .ok e ∧
      (n.type.nullable = false → e.eval .standard row ≠ .ok .null) ∧
      ∀ t, e.eval .standard row ≠ .error (.nullConversion t) := by
  obtain ⟨e, he, hvalue⟩ : ComesTo .standard row n .null _ :=
    comesTo_standard (hchecked.imp fun _ => Node.Checked.admitted) .null
  have hresult : Unforced (fun v => n.type.nullable = false → v ≠ .null) (e.eval .standard row) :=
    hvalue ▸ unforced_result hchecked hnulls hbounds
  refine ⟨e, he, fun hnull hv => ?_, fun t ht => ?_⟩
  · rw [hv] at hresult
    exact hresult hnull rfl
  · rw [ht] at hresult
    exact hresult t rfl

end

namespace Share

/-- The rest of a text from a start on. -/
def cut (start : Node) : Node :=
  .call Catalog.substring [.string "abc", start] (.notNull .varchar)

def size (start : Node) : Node := .call Catalog.charLength [cut start] (.notNull .integer)

/-- An interval divided by the length of that rest. -/
def share (start : Node) : Node :=
  .call Catalog.datetimeDivide [.literal (.int 7) (.notNull .intervalDayTime), size start]
    (.notNull .bigInt)

def start (nullable : Bool) : Node := .column 0 "start" ⟨.integer, nullable⟩

theorem everywhere_share {p : Node → Prop} {start : Node} (hshare : p (share start))
    (hperiod : p (.literal (.int 7) (.notNull .intervalDayTime))) (hsize : p (size start))
    (hcut : p (cut start)) (htext : p (.string "abc")) (hstart : start.Everywhere p) :
    (share start).Everywhere p := by
  have hinner : (cut start).Everywhere p := by
    simp only [cut, Node.string, Node.everywhere_call, Node.everywhere_literal,
      List.forall_mem_cons]
    exact ⟨hcut, htext, hstart, by simp⟩
  have hmiddle : (size start).Everywhere p := by
    simp only [size, Node.everywhere_call, List.forall_mem_cons]
    exact ⟨hsize, hinner, by simp⟩
  simp only [share, Node.everywhere_call, Node.everywhere_literal, List.forall_mem_cons]
  exact ⟨hshare, hperiod, hmiddle, by simp⟩

theorem checked (nullable : Bool) : (share (start nullable)).Everywhere Node.Checked :=
  everywhere_share ⟨by decide, rfl, rfl⟩ trivial ⟨by decide, rfl, rfl⟩ ⟨by decide, rfl, rfl⟩
    trivial ((Node.everywhere_input ..).2 trivial)

theorem nullsDeclared {row : List Value} {nullable : Bool}
    (h : row[0]? = some .null → nullable = true) :
    (share (start nullable)).Everywhere (Node.NullsDeclared row) :=
  everywhere_share trivial (by simp [Node.NullsDeclared]) trivial trivial
    (by simp [Node.NullsDeclared, Node.string]) ((Node.everywhere_input ..).2 h)

/-- With a start that is declared not to be null. -/
theorem eval_of_given_start :
    ((share (start false)).Everywhere Node.Checked ∧
      (share (start false)).Everywhere (Node.NullsDeclared [.int 2]) ∧
      (share (start false)).Everywhere (Node.BoundsGiven [.int 2])) ∧
    ∃ e, lower .standard (share (start false)) .null = .ok e ∧
      ((share (start false)).type.nullable = false → e.eval .standard [.int 2] ≠ .ok .null) ∧
      ∀ t, e.eval .standard [.int 2] ≠ .error (.nullConversion t) := by
  have hnulls : (share (start false)).Everywhere (Node.NullsDeclared [.int 2]) :=
    nullsDeclared (by simp)
  have hbounds : (share (start false)).Everywhere (Node.BoundsGiven [.int 2]) :=
    everywhere_share (fun h => absurd h (by decide)) trivial (fun h => absurd h (by decide))
      (fun _ _ b hb => .inl (by cases List.mem_singleton.1 hb; rfl)) trivial
      ((Node.everywhere_input ..).2 trivial)
  exact ⟨⟨checked false, hnulls, hbounds⟩, eval_of_nulls_declared (checked false) hnulls hbounds⟩

theorem result_cut : result .standard [.null] (cut (start true)) .null = .ok .null := by
  rw [cut, result_standard_call, find_standard]
  show Implementor.apply .standard _ _ (.method Standard.owner "substring")
    [⟨_, .ok (.string "abc")⟩, ⟨_, .ok .null⟩] >>= _ = _
  rw [Implementor.apply, MethodTable.standard, MethodTable.resolve_ofList]
  rfl

theorem result_size : result .standard [.null] (size (start true)) .null = .ok .null := by
  rw [size, result_standard_call, find_standard]
  show Implementor.apply .standard _ _ (.method Standard.owner "charLength")
    [⟨_, result .standard [.null] (cut (start true)) .null⟩] >>= _ = _
  rw [result_cut, Implementor.apply, MethodTable.standard, MethodTable.resolve_ofList]
  rfl

theorem result_share : result .standard [.null] (share (start true)) .null =
    .error (.nullConversion (.primitive .long)) := by
  rw [share, result_standard_call, find_standard]
  show (.ok (.int 7) >>= fun a => result .standard [.null] (size (start true)) .null >>= fun b =>
    applyBinary .divide a b) >>= _ >>= _ = _
  rw [result_size]
  rfl

/-- A null start makes a null of a type without null, which the division then forces. -/
theorem forced_of_null_start :
    (share (start true)).Everywhere Node.Checked ∧
      (share (start true)).Everywhere (Node.LeafConforms [.null]) ∧
      (share (start true)).Everywhere (Node.NullsDeclared [.null]) ∧
      (cut (start true)).type.nullable = false ∧
      ComesTo .standard [.null] (cut (start true)) .null (.ok .null) ∧
      ComesTo .standard [.null] (share (start true)) .null
        (.error (.nullConversion (.primitive .long))) := by
  have hadmitted := (checked true).imp fun _ => Node.Checked.admitted
  have hsize := hadmitted.inside (size (start true)) (by simp [share, Node.operands])
  have hcut := hsize.inside (cut (start true)) (by simp [size, Node.operands])
  have hleaves : (share (start true)).Everywhere (Node.LeafConforms [.null]) :=
    everywhere_share trivial ⟨by decide, .inr ⟨by decide, rfl⟩⟩ trivial trivial
      ⟨by decide, .inr ⟨by decide, rfl⟩⟩
      ((Node.everywhere_input ..).2 ⟨by decide, .null, rfl, .inl rfl⟩)
  exact ⟨checked true, hleaves, nullsDeclared fun _ => rfl, rfl,
    result_cut ▸ comesTo_standard hcut .null, result_share ▸ comesTo_standard hadmitted .null⟩

end Share

end Host

end RowExpr
