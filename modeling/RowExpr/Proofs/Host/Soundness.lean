import RowExpr.Proofs.Host.Calls

/-!
# Typed expressions evaluate

A typed expression can be lowered, and on a row of the right types it comes to a value of its
type, or fails as a typed expression may.
-/

namespace RowExpr.Host

variable {row : List Value}

/-! ## Expressions -/

theorem applyMode_null (e : Expr) (name : TypeName) : applyMode e name .null = e := by
  simp [applyMode]

theorem types_lowerAll (c : Context) (ns : List Node) :
    (lowerAll c ns).map (·.type) = Node.types ns := by
  simp [lowerAll_eq_map, Node.types]

theorem supplied_call {op : Operator} {ns : List Node} {type : SqlType}
    (hchecked : (Node.call op ns type).Checked)
    (hflags : (Node.call op ns type).ComparesNoFlags)
    (hns : ∀ n ∈ ns, SoundAs row n.type.name (lower .standard n .null)) :
    Supplied row op (lowerAll .standard ns) := by
  obtain ⟨-, hcount, haccepts, -⟩ := Node.checked_call hchecked
  refine ⟨by rwa [length_lowerAll], by rwa [types_lowerAll], fun hrule o ho => ?_, fun o ho => ?_⟩
  · rw [lowerAll_eq_map, List.mem_map] at ho
    obtain ⟨n, hn, rfl⟩ := ho
    exact hflags hrule n hn
  · rw [lowerAll_eq_map, List.mem_map] at ho
    obtain ⟨n, hn, rfl⟩ := ho
    exact hns n hn

theorem soundAs_call {op : Operator} {ns : List Node} {type : SqlType}
    (hchecked : (Node.call op ns type).Checked)
    (hsupplied : Supplied row op (lowerAll .standard ns)) :
    SoundAs row type.name (lower .standard (.call op ns type) .null) := by
  obtain ⟨hop, -, -, htype⟩ := Node.checked_call hchecked
  obtain ⟨e, he, hvalue⟩ := implements_standard hop row _ hsupplied
  rw [types_lowerAll, ← htype] at he hvalue
  refine ⟨e, ?_, hvalue⟩
  simp only [lower, applyMode_null]
  rw [show Context.standard.implementors = .standard from rfl,
    show Context.standard.methods = .standard from rfl, he]
  rfl

theorem soundAs_lower {n : Node} (hchecked : n.Everywhere Node.Checked)
    (hflags : n.Everywhere Node.ComparesNoFlags)
    (hleaves : n.Everywhere (Node.LeafConforms row)) :
    SoundAs row n.type.name (lower .standard n .null) := by
  induction hchecked with
  | @intro n hn _ ih =>
    cases n with
    | literal v type =>
      obtain ⟨hany, hv⟩ := hleaves.here
      simp only [lower, applyMode_null]
      exact ⟨_, rfl, Fits.of_conforms hany hv⟩
    | input index name type =>
      obtain ⟨hany, v, hrow, hv⟩ := hleaves.here
      simp only [lower, applyMode_null]
      refine ⟨_, rfl, ?_⟩
      simp only [Expr.eval, field, hrow]
      exact Fits.of_conforms hany hv
    | call op ns type =>
      exact soundAs_call hn <| supplied_call hn hflags.here fun m hm =>
        ih m hm (hflags.inside m hm) (hleaves.inside m hm)

/-- A typed expression can be lowered, and what it becomes comes to null or to a value of the
host kind of its type, or fails as typed expressions may. -/
theorem eval_of_checked {n : Node} (hchecked : n.Everywhere Node.Checked)
    (hflags : n.Everywhere Node.ComparesNoFlags)
    (hleaves : n.Everywhere (Node.LeafConforms row)) :
    ∃ e, lower .standard n .null = .ok e ∧
      Outcome (fun v => v = .null ∨ (Kind.ofTypeName n.type.name).holds v = true)
        (e.eval .standard row) := by
  obtain ⟨e, he, hvalue⟩ := soundAs_lower hchecked hflags hleaves
  exact ⟨e, he, hvalue.imp fun _ => Fits.holds⟩

namespace Sample

def age : Node := .column 0 "age" (.orNull .integer)

def name : Node := .column 1 "name" (.notNull .varchar)

def length : Node := .call Catalog.charLength [name] (.notNull .integer)

def half : Node := .call Catalog.divide [age, .int 2] (.orNull .integer)

def condition : Node := .call Catalog.greaterThan [half, length] (.orNull .boolean)

def person : List Value := [.int 9, .string "Ada"]

theorem checked : condition.Everywhere Node.Checked := by
  have hhalf : half.Everywhere Node.Checked := by
    simp only [half, age, Node.column, Node.int, Node.everywhere_call, List.forall_mem_cons]
    exact ⟨⟨by decide, rfl, rfl⟩, by simp [Node.Checked]⟩
  have hlength : length.Everywhere Node.Checked := by
    simp only [length, name, Node.column, Node.everywhere_call, List.forall_mem_cons]
    exact ⟨⟨by decide, rfl, rfl⟩, by simp [Node.Checked]⟩
  simp only [condition, Node.everywhere_call, List.forall_mem_cons]
  exact ⟨⟨by decide, rfl, rfl⟩, hhalf, hlength, by simp⟩

theorem comparesNoFlags : condition.Everywhere Node.ComparesNoFlags := by
  have hhalf : half.Everywhere Node.ComparesNoFlags := by
    simp [half, age, Node.column, Node.int, Node.ComparesNoFlags, Catalog.divide,
      Catalog.infixOperator]
  have hlength : length.Everywhere Node.ComparesNoFlags := by
    simp [length, name, Node.column, Node.ComparesNoFlags, Catalog.charLength,
      Catalog.unaryFunction]
  simp only [condition, Node.everywhere_call, List.forall_mem_cons]
  exact ⟨fun _ => by simp [half, length, Node.type, SqlType.orNull, SqlType.notNull],
    hhalf, hlength, by simp⟩

theorem leafConforms : condition.Everywhere (Node.LeafConforms person) := by
  have hhalf : half.Everywhere (Node.LeafConforms person) := by
    simp only [half, age, Node.column, Node.int, Node.everywhere_call, Node.everywhere_input,
      Node.everywhere_literal, List.forall_mem_cons]
    exact ⟨trivial, ⟨by decide, _, rfl, .inr ⟨by decide, rfl⟩⟩,
      ⟨by decide, .inr ⟨by decide, rfl⟩⟩, by simp⟩
  have hlength : length.Everywhere (Node.LeafConforms person) := by
    simp only [length, name, Node.column, Node.everywhere_call, Node.everywhere_input,
      List.forall_mem_cons]
    exact ⟨trivial, ⟨by decide, _, rfl, .inr ⟨by decide, rfl⟩⟩, by simp⟩
  simp only [condition, Node.everywhere_call, List.forall_mem_cons]
  exact ⟨trivial, hhalf, hlength, by simp⟩

theorem eval_of_condition :
    (condition.Everywhere Node.Checked ∧ condition.Everywhere Node.ComparesNoFlags ∧
      condition.Everywhere (Node.LeafConforms person)) ∧
    ∃ e, lower .standard condition .null = .ok e ∧
      Outcome (fun v => v = .null ∨ (Kind.ofTypeName condition.type.name).holds v = true)
        (e.eval .standard person) :=
  ⟨⟨checked, comparesNoFlags, leafConforms⟩,
    eval_of_checked checked comparesNoFlags leafConforms⟩

end Sample

end RowExpr.Host
