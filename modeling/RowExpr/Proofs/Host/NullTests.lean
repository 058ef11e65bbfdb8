import RowExpr.Sql.OrderBy
import RowExpr.Proofs.Host.NullGuarantee
import RowExpr.Proofs.Host.NullReading

/-!
# Null tests

`IS NULL` and `IS NOT NULL` lower their operand with its nulls whatever their own mode is, so
they see every null. `NULL_INDICATOR` lowers its operand in its own mode. It sees what is left
of a null there: nothing where the null reads as a truth value, and under a promise that there
is no null the operand may be forced before it is looked at.
-/

namespace RowExpr

/-- An expression tested by one of the operators that say whether it is null. -/
def Node.nullTest (op : Operator) (n : Node) : Node := .call op [n] (op.returns.infer [n.type])

theorem Node.checked_nullTest {op : Operator} (hop : op ∈ Catalog.nullTests) {n : Node}
    (hn : n.Everywhere Checked) : (n.nullTest op).Everywhere Checked := by
  refine (everywhere_call ..).2 ⟨?_, List.forall_mem_singleton.2 hn⟩
  simp only [Catalog.nullTests, List.mem_cons, List.not_mem_nil, or_false] at hop
  rcases hop with rfl | rfl | rfl <;> exact ⟨by decide, rfl, rfl⟩

theorem Node.nullIndicator_eq (n : Node) : n.nullIndicator = n.nullTest Catalog.nullIndicator := rfl

namespace Host

/-! ## Values in host types -/

theorem passTo_object {o : Evaluated} {v : Value} (ho : o.result = .ok v)
    (hv : Conforms o.type.name v) : o.passTo Standard.objectType = .ok v := by
  simp only [Evaluated.passTo, ho, ok_bind, convertTo_nullify (hv.imp_right And.right)]
  split
  · rfl
  · cases v <;> rfl

/-- No mode changes a value that is not null, held in a primitive kind. -/
theorem settle_primitive (mode : NullMode) (name : TypeName) (kind : Kind) {v : Value}
    (hv : v ≠ .null) : mode.settle name (.primitive kind) v = .ok v := by
  cases mode <;> simp [NullMode.settle, HostType.primitive, hv]

/-! ## The three tests -/

section

variable {row : List Value} {n : Node} {v : Value}

theorem result_isNull (hv : result .standard row n .null = .ok v) (mode : NullMode) :
    result .standard row (n.nullTest Catalog.isNull) mode = .ok (.bool v.isNull) := by
  rw [Node.nullTest, result_standard_call, find_standard]
  show result .standard row n .null >>= applyUnary .isNull >>= _ = _
  rw [hv]
  exact settle_primitive mode .boolean .bool (by simp)

theorem result_isNotNull (hv : result .standard row n .null = .ok v) (mode : NullMode) :
    result .standard row (n.nullTest Catalog.isNotNull) mode = .ok (.bool !v.isNull) := by
  rw [Node.nullTest, result_standard_call, find_standard]
  show result .standard row n .null >>= applyUnary .isNotNull >>= _ = _
  rw [hv]
  exact settle_primitive mode .boolean .bool (by simp)

theorem resolve_nullIndicator :
    ∃ m, MethodTable.standard.resolve Standard.owner "nullIndicator" 1 = some m ∧
      m.params = [Standard.objectType] ∧ m.returns = .primitive .int ∧
      m.body = Standard.nullIndicatorBody := by
  rw [MethodTable.standard, MethodTable.resolve_ofList]
  exact ⟨_, rfl, rfl, rfl, rfl⟩

/-- `NULL_INDICATOR` looks at what its operand comes to in its own mode. -/
theorem result_nullIndicator {mode : NullMode} (hv : result .standard row n mode = .ok v)
    (hconforms : Conforms n.type.name v) :
    result .standard row n.nullIndicator mode = .ok (.int (if v.isNull then 1 else 0)) := by
  obtain ⟨m, hm, hparams, hreturns, hbody⟩ := resolve_nullIndicator
  have happly : (Implementor.method Standard.owner "nullIndicator").apply .standard
      Catalog.nullIndicator (.notNull .integer) [⟨n.type, result .standard row n mode⟩] =
        .ok (.int (if v.isNull then 1 else 0)) := by
    have hpass : (⟨n.type, result .standard row n mode⟩ : Evaluated).passTo Standard.objectType =
        .ok v := passTo_object hv hconforms
    simp only [Implementor.apply, List.length_singleton, hm, hparams, hbody, passAll, hpass]
    rfl
  have hheld : (Implementor.method Standard.owner "nullIndicator").held .standard 1
      (.notNull .integer) = .primitive .int := by
    simp only [Implementor.held, hm, Option.elim_some, hreturns]
  rw [Node.nullIndicator_eq, Node.nullTest, result_standard_call, find_standard]
  show (Implementor.method Standard.owner "nullIndicator").apply .standard
    Catalog.nullIndicator (.notNull .integer) [⟨n.type, result .standard row n mode⟩] >>=
      mode.settle .integer ((Implementor.method Standard.owner "nullIndicator").held .standard 1
        (.notNull .integer)) = _
  rw [happly, hheld]
  exact settle_primitive mode .integer .int (by simp)

/-- Where a mode leaves a value as it is with its nulls: no null truth value is read, and no null
is forced. -/
def Untouched (row : List Value) (n : Node) (v : Value) : NullMode → Prop
  | .null => True
  | .false | .true => n.InMode (Node.GivenTruth row) ∧ (n.type.name = .boolean → v ≠ .null)
  | .notPossible => n.InMode (Node.KeepsNull row) ∧ v ≠ .null

theorem result_of_untouched (hchecked : n.Everywhere Node.Checked)
    (hleaves : n.Everywhere (Node.LeafHolds row)) (hv : result .standard row n .null = .ok v)
    {mode : NullMode} (h : Untouched row n v mode) : result .standard row n mode = .ok v := by
  have hread : ∀ d, n.InMode (Node.GivenTruth row) → (n.type.name = .boolean → v ≠ .null) →
      result .standard row n (.reading d) = .ok v := by
    intro d htruth hnull
    rw [readIn_of_checked hchecked htruth v hv, readNull, if_neg fun hread => hnull hread.1 hread.2]
  cases mode with
  | null => exact hv
  | false => exact hread Bool.false h.1 h.2
  | true => exact hread Bool.true h.1 h.2
  | notPossible => exact kept_of_checked hchecked hleaves h.1 v h.2 hv

/-- `IS NULL` and `IS NOT NULL` tell in every mode whether their operand comes to null.
`NULL_INDICATOR` tells it in every mode that leaves the value of the operand as it is. -/
theorem comesTo_nullTests (hchecked : n.Everywhere Node.Checked)
    (hv : ComesTo .standard row n .null (.ok v)) :
    (∀ mode, ComesTo .standard row (n.nullTest Catalog.isNull) mode (.ok (.bool v.isNull))) ∧
      (∀ mode, ComesTo .standard row (n.nullTest Catalog.isNotNull) mode
        (.ok (.bool !v.isNull))) ∧
      (n.Everywhere (Node.LeafHolds row) → ∀ mode, Untouched row n v mode →
        ComesTo .standard row (n.nullTest Catalog.nullIndicator) mode
          (.ok (.int (if v.isNull then 1 else 0)))) := by
  have hresult : result .standard row n .null = .ok v :=
    (comesTo_standard (hchecked.imp fun _ => Node.Checked.admitted) .null).unique hv
  have hcomesTo : ∀ op ∈ Catalog.nullTests, ∀ mode,
      ComesTo .standard row (n.nullTest op) mode (result .standard row (n.nullTest op) mode) :=
    fun op hop => comesTo_standard
      ((Node.checked_nullTest hop hchecked).imp fun _ => Node.Checked.admitted)
  refine ⟨fun mode => ?_, fun mode => ?_, fun hleaves mode huntouched => ?_⟩
  · rw [← result_isNull hresult mode]
    exact hcomesTo _ (by decide) mode
  · rw [← result_isNotNull hresult mode]
    exact hcomesTo _ (by decide) mode
  · have hmode := result_of_untouched hchecked hleaves hresult huntouched
    rw [← result_nullIndicator hmode (conforms_of_result hchecked hleaves hresult)]
    exact hcomesTo _ (by decide) mode

end

namespace Unnamed

/-- The length of a name that is not given. -/
def size : Node := .call Catalog.charLength [.column 0 "name" (.orNull .varchar)] (.orNull .integer)

theorem checked : size.Everywhere Node.Checked := by
  simp only [size, Node.column, Node.everywhere_call, Node.everywhere_input,
    List.forall_mem_singleton]
  exact ⟨⟨by decide, rfl, rfl⟩, trivial⟩

theorem leafHolds : size.Everywhere (Node.LeafHolds [.null]) := by
  simp only [size, Node.column, Node.everywhere_call, Node.everywhere_input,
    List.forall_mem_singleton]
  refine ⟨trivial, fun v hv => ?_⟩
  cases hv
  exact .inl rfl

theorem untouched : Untouched [.null] size .null .false := by
  refine ⟨.intro (fun _ _ m hm hname => ?_) fun m hm => ?_, fun hname => by cases hname⟩
  all_goals cases List.mem_singleton.1 hm
  · cases hname
  · exact .intro trivial (List.forall_mem_nil _)

theorem result_size : result .standard [.null] size .null = .ok .null := by
  rw [size, result_standard_call, find_standard]
  show Implementor.apply .standard _ _ (.method Standard.owner "charLength")
    [⟨_, .ok .null⟩] >>= _ = _
  rw [Implementor.apply, MethodTable.standard, MethodTable.resolve_ofList]
  rfl

theorem nullTests_size :
    (size.Everywhere Node.Checked ∧ ComesTo .standard [.null] size .null (.ok .null) ∧
      size.Everywhere (Node.LeafHolds [.null]) ∧ Untouched [.null] size .null .false) ∧
    ComesTo .standard [.null] (size.nullTest Catalog.isNull) .notPossible (.ok (.bool true)) ∧
      ComesTo .standard [.null] (size.nullTest Catalog.isNotNull) .true (.ok (.bool false)) ∧
      ComesTo .standard [.null] (size.nullTest Catalog.nullIndicator) .false (.ok (.int 1)) := by
  have hv : ComesTo .standard [.null] size .null (.ok .null) :=
    result_size ▸ comesTo_standard (checked.imp fun _ => Node.Checked.admitted) .null
  obtain ⟨hnull, hnotNull, hindicator⟩ := comesTo_nullTests checked hv
  exact ⟨⟨checked, hv, leafHolds, untouched⟩, hnull .notPossible, hnotNull .true,
    hindicator leafHolds .false untouched⟩

def named : Node := .column 0 "named" (.orNull .boolean)

/-- A null truth value is not null any more when it is looked at, or it is forced. -/
theorem unseen_of_null_condition :
    named.Everywhere Node.Checked ∧ named.Everywhere (Node.LeafConforms [.null]) ∧
      ComesTo .standard [.null] named .null (.ok .null) ∧
      ComesTo .standard [.null] (named.nullTest Catalog.nullIndicator) .false (.ok (.int 0)) ∧
      ComesTo .standard [.null] (named.nullTest Catalog.nullIndicator) .true (.ok (.int 0)) ∧
      ComesTo .standard [.null] (named.nullTest Catalog.nullIndicator) .notPossible
        (.error (.nullConversion (.primitive .bool))) := by
  have hchecked : named.Everywhere Node.Checked := (Node.everywhere_input ..).2 trivial
  have hleaves : named.Everywhere (Node.LeafConforms [.null]) :=
    (Node.everywhere_input ..).2 ⟨by decide, .null, rfl, .inl rfl⟩
  have hvalue : ∀ mode, ComesTo .standard [.null] (named.nullTest Catalog.nullIndicator) mode
      (result .standard [.null] (named.nullTest Catalog.nullIndicator) mode) :=
    comesTo_standard ((Node.checked_nullTest (by decide) hchecked).imp
      fun _ => Node.Checked.admitted)
  have hindicator : ∀ mode b, result .standard [.null] named mode = .ok (.bool b) →
      result .standard [.null] (named.nullTest Catalog.nullIndicator) mode = .ok (.int 0) :=
    fun mode b hb => result_nullIndicator hb (.inr ⟨by decide, rfl⟩)
  refine ⟨hchecked, hleaves, ⟨_, rfl, rfl⟩, ?_, ?_, ?_⟩
  · exact hindicator .false Bool.false rfl ▸ hvalue .false
  · exact hindicator .true Bool.true rfl ▸ hvalue .true
  · have hforced : result .standard [.null] (named.nullTest Catalog.nullIndicator) .notPossible =
        .error (.nullConversion (.primitive .bool)) := by
      rw [Node.nullTest, result_standard_call, find_standard]
      show Implementor.apply .standard _ _ (.method Standard.owner "nullIndicator")
        [⟨_, .error (.nullConversion (.primitive .bool))⟩] >>= _ = _
      rw [Implementor.apply, MethodTable.standard, MethodTable.resolve_ofList]
      rfl
    exact hforced ▸ hvalue .notPossible

end Unnamed

end Host

end RowExpr
