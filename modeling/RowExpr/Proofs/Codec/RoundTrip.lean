import RowExpr.Proofs.Codec.FieldOrder
import RowExpr.Proofs.Node.Built

/-!
# Reading what was encoded

An expression that is written as JSON is read back as it was, in whatever order the fields of
the objects come (`decodeNode_encodeNode`).
-/

namespace RowExpr.Codec

/-! ## Numbers -/

theorem natBelow_int {limit n : Nat} (h : n < limit) : natBelow limit (.int n) = .ok n := by
  simp [natBelow, h]

theorem uint8_int (n : UInt8) : uint8 (.int n.toNat) = .ok n := by
  rw [uint8, natBelow_int n.toNat_lt, ok_bind, UInt8.ofNat_toNat]
  rfl

theorem uint32_int (n : UInt32) : uint32 (.int n.toNat) = .ok n := by
  rw [uint32, natBelow_int n.toNat_lt, ok_bind, UInt32.ofNat_toNat]
  rfl

theorem uint64_int (n : UInt64) : uint64 (.int n.toNat) = .ok n := by
  rw [uint64, natBelow_int n.toNat_lt, ok_bind, UInt64.ofNat_toNat]
  rfl

theorem int32_boundNumber (b : Option Bound) :
    int32 (.int (boundNumber b)) = .ok (boundNumber b) := by
  have h : -2147483648 ≤ boundNumber b ∧ boundNumber b ≤ 2147483647 := by
    cases b <;> simp only [boundNumber] <;> omega
  rw [int32, if_pos h]

/-! ## Types -/

section

variable {j : Json}

theorem plainTypeNames_nodup : (plainTypeNames.map (·.1)).Nodup := by decide

theorem decodeTypeName_str (leniency : Leniency) (name : String) :
    decodeTypeName leniency (.str name) = oneOf plainTypeNames leniency (.str name) := by
  unfold decodeTypeName
  split
  · next h => cases h
  · rfl

theorem decodeTypeName_encodeTypeName {t : TypeName} (h : (encodeTypeName t).Rearranged j)
    (leniency : Leniency) : decodeTypeName leniency j = .ok t := by
  cases t with
  | decimal p s =>
    obtain ⟨mid, _ | ⟨hdecimal, ⟨⟩⟩, outer, houter, rfl⟩ := Json.rearranged_obj_iff.1 h
    obtain ⟨mid, _ | ⟨hp, _ | ⟨hs, ⟨⟩⟩⟩, fields, hperm, rfl⟩ := Json.rearranged_obj_iff.1 hdecimal
    obtain rfl := Json.rearranged_int_iff.1 hp
    obtain rfl := Json.rearranged_int_iff.1 hs
    have hfields : Arranged ["precision", "scale"] _ fields := ⟨hperm, .refl _, by decide⟩
    rw [List.perm_singleton.1 houter]
    simp only [decodeTypeName, choice, choiceRecord, hfields.record, hfields.required, ok_bind,
      required_cons, String.reduceEq, ↓reduceIte, uint8_int]
    rfl
  | _ =>
    rw [Json.rearranged_str_iff.1 h, decodeTypeName_str]
    exact oneOf_nameOf plainTypeNames_nodup (by decide) leniency

theorem decodeType_encodeType {t : SqlType} (h : (encodeType t).Rearranged j)
    (leniency : Leniency) : decodeType leniency j = .ok t := by
  obtain ⟨mid, _ | ⟨hname, _ | ⟨hnull, ⟨⟩⟩⟩, fields, hperm, rfl⟩ := Json.rearranged_obj_iff.1 h
  obtain rfl := Json.rearranged_bool_iff.1 hnull
  have hfields : Arranged ["name", "nullable"] _ fields := ⟨hperm, .refl _, by decide⟩
  simp only [decodeType, hfields.record, hfields.required, hfields.optional, ok_bind,
    required_cons, optional_cons, String.reduceEq, ↓reduceIte,
    decodeTypeName_encodeTypeName hname, bool]
  rfl

/-! ## Operators -/

theorem decodeReturnRule_str (leniency : Leniency) (name : String) :
    decodeReturnRule leniency (.str name) = oneOf plainReturnNames leniency (.str name) := by
  unfold decodeReturnRule
  split
  · next h => cases h
  · next h => cases h
  · rfl

theorem decodeReturnRule_encodeReturnRule {rule : ReturnRule}
    (h : (encodeReturnRule rule).Rearranged j) (leniency : Leniency) :
    decodeReturnRule leniency j = .ok rule := by
  cases rule with
  | fixed name | fixedNotNull name =>
    obtain ⟨mid, _ | ⟨hname, ⟨⟩⟩, fields, hperm, rfl⟩ := Json.rearranged_obj_iff.1 h
    rw [List.perm_singleton.1 hperm]
    simp only [decodeReturnRule, choice, decodeTypeName_encodeTypeName hname, ok_bind]
    rfl
  | _ =>
    rw [Json.rearranged_str_iff.1 h, decodeReturnRule_str]
    exact oneOf_nameOf (by decide) (by decide) leniency

theorem decodeArity_encodeArity {a : Arity} (ha : a.Ordered) (h : (encodeArity a).Rearranged j) :
    decodeArity j = .ok a := by
  obtain ⟨mid, _ | ⟨hmin, _ | ⟨hmax, ⟨⟩⟩⟩, fields, hperm, rfl⟩ := Json.rearranged_obj_iff.1 h
  obtain rfl := Json.rearranged_int_iff.1 hmin
  obtain rfl := Json.rearranged_int_iff.1 hmax
  have hfields : Arranged ["min", "max"] _ fields := ⟨hperm, .refl _, by decide⟩
  simp only [decodeArity, hfields.record, hfields.required, ok_bind, required_cons,
    String.reduceEq, ↓reduceIte, Arity.lowerNumber, Arity.upperNumber, int32_boundNumber]
  have hbounds := Arity.ofBounds_numbers ha
  rw [Arity.lowerNumber, Arity.upperNumber] at hbounds
  rw [buildArity, hbounds]

theorem mem_kindNames (k : Kind) : k ∈ kindNames.map (·.2) := by
  cases k <;> decide

theorem mem_formNames (f : Form) : f ∈ formNames.map (·.2) := by
  cases f <;> decide

theorem mem_operandRuleNames (r : OperandRule) : r ∈ operandRuleNames.map (·.2) := by
  cases r <;> decide

theorem decodeOperator_encodeOperator {op : Operator} (hop : op.Consistent)
    (h : (encodeOperator op).Rearranged j) (leniency : Leniency) :
    decodeOperator leniency j = .ok op := by
  obtain ⟨mid, _ | ⟨hid, _ | ⟨hname, _ | ⟨hkind, _ | ⟨hform, _ | ⟨hprecedence, _ | ⟨hassoc,
    _ | ⟨hreturns, _ | ⟨hoperands, _ | ⟨harity, ⟨⟩⟩⟩⟩⟩⟩⟩⟩⟩⟩, fields, hperm, rfl⟩ :=
      Json.rearranged_obj_iff.1 h
  obtain rfl := Json.rearranged_str_iff.1 hid
  obtain rfl := Json.rearranged_str_iff.1 hname
  obtain rfl := Json.rearranged_str_iff.1 hkind
  obtain rfl := Json.rearranged_str_iff.1 hform
  obtain rfl := Json.rearranged_int_iff.1 hprecedence
  obtain rfl := Json.rearranged_bool_iff.1 hassoc
  obtain rfl := Json.rearranged_str_iff.1 hoperands
  have hfields : Arranged operatorFields _ fields := ⟨hperm, .refl _, by decide⟩
  simp only [decodeOperator, hfields.record, hfields.required, ok_bind, required_cons,
    String.reduceEq, ↓reduceIte, string, uint32_int, bool, decodeOperandRule,
    oneOf_nameOf (by decide) (mem_kindNames _), oneOf_nameOf (by decide) (mem_formNames _),
    oneOf_nameOf (by decide) (mem_operandRuleNames _),
    decodeReturnRule_encodeReturnRule hreturns, decodeArity_encodeArity hop.ordered harity]
  exact ofBuilt_eq_ok_iff.2 (Operator.check_eq_ok_iff.2 ⟨rfl, hop⟩)

/-! ## Values -/

theorem numberValue_toInt (i : Int64) : numberValue i.toInt = .int i := by
  have h : -9223372036854775808 ≤ i.toInt ∧ i.toInt ≤ 9223372036854775807 :=
    ⟨i.le_toInt, i.toInt_le⟩
  rw [numberValue, if_pos h, Int64.ofInt_toInt]

theorem decodeFlag_encodeFlag {f : TrimFlag} {fields : Fields}
    (h : (encodeFlag f).Rearranged (.obj fields)) : decodeFlag fields = .ok f := by
  obtain ⟨mid, _ | ⟨hflag, ⟨⟩⟩, _, hperm, ⟨⟩⟩ := Json.rearranged_obj_iff.1 h
  obtain rfl := Json.rearranged_str_iff.1 hflag
  have hfields : Arranged ["flag"] _ fields := ⟨hperm, .refl _, by decide⟩
  simp only [decodeFlag, hfields.record, hfields.required, ok_bind, required_cons, ↓reduceIte]
  cases f <;> decide

theorem decodeValue_encodeValue {v : Value} (hv : ∀ x, v = .float x → x.isFinite = true)
    (h : (encodeValue v).Rearranged j) : decodeValue j = .ok v := by
  cases v with
  | null =>
    rw [Json.rearranged_null_iff.1 h, decodeValue]
  | bool b =>
    rw [Json.rearranged_bool_iff.1 h, decodeValue]
  | int i =>
    rw [Json.rearranged_int_iff.1 h, decodeValue, numberValue_toInt]
  | float x =>
    rw [encodeValue, encodeFloat, if_pos (hv x rfl)] at h
    rw [Json.rearranged_float_iff.1 h, decodeValue]
  | string s =>
    rw [Json.rearranged_str_iff.1 h, decodeValue]
  | flag f =>
    obtain ⟨mid, _, fields, _, rfl⟩ := Json.rearranged_obj_iff.1 h
    rw [decodeValue, decodeFlag_encodeFlag h]
    rfl

/-! ## Leaves -/

theorem decodeLiteral_of_perm {v : Value} {type : SqlType} {jv jt : Json}
    (hv : decodeValue jv = .ok v) (ht : decodeType .tagged jt = .ok type) {fields : Fields}
    (hperm : fields.Perm [("value", jv), ("ty", jt)]) :
    decodeLiteral (.obj fields) = .ok (.literal v type) := by
  have hfields : Arranged ["value", "ty"] _ fields := ⟨hperm, .refl _, by decide⟩
  simp only [decodeLiteral, hfields.record, hfields.required, ok_bind, required_cons,
    String.reduceEq, ↓reduceIte, hv, ht]
  rfl

theorem decodeInput_of_perm {index : UInt64} {type : SqlType} {jt : Json}
    (ht : decodeType .tagged jt = .ok type) {fields : Fields}
    (hperm : fields.Perm [("index", .int index.toNat), ("ty", jt)]) :
    decodeInput (.obj fields) = .ok (.input index none type) := by
  have hfields : Arranged ["index", "name", "ty"] _ fields := ⟨hperm, by simp, by decide⟩
  simp only [decodeInput, hfields.record, hfields.required, hfields.optional, ok_bind,
    required_cons, optional_cons, optional_nil, String.reduceEq, ↓reduceIte, uint64_int, ht]
  rfl

theorem decodeInput_of_perm_named {index : UInt64} {name : String} {type : SqlType} {jt : Json}
    (ht : decodeType .tagged jt = .ok type) {fields : Fields}
    (hperm : fields.Perm [("index", .int index.toNat), ("name", .str name), ("ty", jt)]) :
    decodeInput (.obj fields) = .ok (.input index (some name) type) := by
  have hfields : Arranged ["index", "name", "ty"] _ fields := ⟨hperm, .refl _, by decide⟩
  simp only [decodeInput, hfields.record, hfields.required, hfields.optional, ok_bind,
    required_cons, optional_cons, String.reduceEq, ↓reduceIte, uint64_int, ht, decodeName, string]
  rfl

/-! ## Records inside records -/

theorem depth_lt_of_mem_obj {fields : Fields} {name : String} (h : (name, j) ∈ fields) :
    depth j < depth (.obj fields) := by
  rw [depth, Nat.lt_succ_iff]
  induction fields with
  | nil => cases h
  | cons f rest ih =>
    obtain ⟨key, k⟩ := f
    rw [depth.depthFields]
    rcases List.mem_cons.1 h with h | h
    · cases h
      exact Nat.le_max_left _ _
    · exact Nat.le_trans (ih h) (Nat.le_max_right _ _)

theorem depth_lt_of_mem_arr {items : List Json} (h : j ∈ items) : depth j < depth (.arr items) := by
  rw [depth, Nat.lt_succ_iff]
  induction items with
  | nil => cases h
  | cons k rest ih =>
    rw [depth.depthItems]
    rcases List.mem_cons.1 h with rfl | h
    · exact Nat.le_max_left _ _
    · exact Nat.le_trans (ih h) (Nat.le_max_right _ _)

/-- What is left of a tagged record in some order, with the tag taken out. -/
theorem tagged_of_rearranged {tag name : String} {rest : Fields}
    (h : (Json.obj ((tag, .str name) :: rest)).Rearranged j) (hrest : tag ∉ rest.map (·.1))
    (names : List String) (leniency : Leniency) :
    ∃ mid body, Json.FieldsRearranged rest mid ∧ body.Perm mid ∧
      (∀ f ∈ mid, depth f.2 < depth j) ∧ tagged tag names leniency j = .ok (name, .obj body) := by
  obtain ⟨_, _ | ⟨⟨⟩, hmid⟩, fields, hperm, rfl⟩ := Json.rearranged_obj_iff.1 h
  obtain ⟨body, hbody, htag⟩ := tagged_of_perm hperm (hmid.map_fst ▸ hrest) names leniency
  refine ⟨_, body, hmid, hbody, fun f hf => ?_, htag⟩
  exact depth_lt_of_mem_obj (hperm.mem_iff.2 (List.mem_cons_of_mem _ hf))

/-- Items are read back as what they were written for when each of them is. -/
theorem forall₂_decode_of_rearranged {α : Type} {encode : α → Json} {decode : Json → Decoded α}
    {as : List α} {items : List Json}
    (hitems : List.Forall₂ Json.Rearranged (as.map encode) items)
    (h : ∀ a ∈ as, ∀ k ∈ items, (encode a).Rearranged k → decode k = .ok a) :
    List.Forall₂ (fun k a => decode k = .ok a) items as := by
  induction as generalizing items with
  | nil =>
    cases hitems
    exact .nil
  | cons a as ih =>
    cases hitems with
    | cons hfirst hrest =>
      refine .cons (h a List.mem_cons_self _ List.mem_cons_self hfirst) (ih hrest ?_)
      exact fun b hb k hk =>
        h b (List.mem_cons_of_mem a hb) k (List.mem_cons_of_mem _ hk)

/-! ## Calls -/

theorem encodeNodes_eq_map (ns : List Node) : encodeNodes ns = ns.map encodeNode := by
  induction ns with
  | nil => rfl
  | cons n rest ih => rw [encodeNodes, ih, List.map_cons]

theorem decodeCall_of_perm {op : Operator} {operands : List Node} {type : SqlType}
    {decodeOperand : Json → Decoded Node} {leniency : Leniency} {jop jt : Json} {items : List Json}
    (hop : decodeOperator leniency jop = .ok op)
    (hoperands : List.Forall₂ (fun j n => decodeOperand j = .ok n) items operands)
    (ht : decodeType leniency jt = .ok type)
    (hcount : op.arity.admits operands.length = true) {fields : Fields}
    (hperm : fields.Perm [("operator", jop), ("operands", .arr items), ("result_type", jt)]) :
    decodeCall leniency decodeOperand (.obj fields) = .ok (.call op operands type) := by
  have hfields : Arranged ["operator", "operands", "result_type"] _ fields :=
    ⟨hperm, .refl _, by decide⟩
  simp only [decodeCall, hfields.record, hfields.required, ok_bind, required_cons,
    String.reduceEq, ↓reduceIte, hop, list, mapM_eq_ok_iff.2 hoperands, ht]
  exact ofBuilt_eq_ok_iff.2 (Node.ofCall_eq_ok_iff.2 ⟨rfl, hcount⟩)

/-! ## Expressions -/

end

/-- Not a float without a JSON form. -/
def Writable : Node → Prop
  | .literal (.float x) _ => x.isFinite = true
  | _ => True

theorem Writable.value {v : Value} {type : SqlType} (h : Writable (.literal v type)) :
    ∀ x, v = .float x → x.isFinite = true := by
  rintro x rfl
  exact h

theorem decodeNodeWithin_encodeNode {n : Node}
    (hn : n.Everywhere fun m => m.Sound ∧ Writable m) {fuel : Nat} {leniency : Leniency} {j : Json}
    (hj : (encodeNode n).Rearranged j) (hfuel : depth j < fuel) :
    decodeNodeWithin fuel leniency j = .ok n := by
  induction hn generalizing fuel leniency j with
  | @intro n hn _ ih =>
    obtain ⟨fuel, rfl⟩ := Nat.exists_eq_succ_of_ne_zero (Nat.ne_zero_of_lt hfuel)
    match n with
    | .literal v type =>
      obtain ⟨_, body, _ | ⟨hvalue, _ | ⟨htype, ⟨⟩⟩⟩, hbody, -, htag⟩ :=
        tagged_of_rearranged hj (by simp) nodeTags leniency
      rw [decodeNodeWithin, htag, ok_bind]
      exact decodeLiteral_of_perm (decodeValue_encodeValue hn.2.value hvalue)
        (decodeType_encodeType htype _) hbody
    | .input index none type =>
      obtain ⟨_, body, _ | ⟨⟨⟩, _ | ⟨htype, ⟨⟩⟩⟩, hbody, -, htag⟩ :=
        tagged_of_rearranged hj (by simp) nodeTags leniency
      rw [decodeNodeWithin, htag, ok_bind]
      exact decodeInput_of_perm (decodeType_encodeType htype _) hbody
    | .input index (some name) type =>
      obtain ⟨_, body, _ | ⟨⟨⟩, _ | ⟨⟨⟩, _ | ⟨htype, ⟨⟩⟩⟩⟩, hbody, -, htag⟩ :=
        tagged_of_rearranged hj (by simp) nodeTags leniency
      rw [decodeNodeWithin, htag, ok_bind]
      exact decodeInput_of_perm_named (decodeType_encodeType htype _) hbody
    | .call op operands type =>
      obtain ⟨_, body, _ | ⟨hop, _ | ⟨harr, _ | ⟨htype, ⟨⟩⟩⟩⟩, hbody, hdepth, htag⟩ :=
        tagged_of_rearranged hj (by simp [encodeCall]) nodeTags leniency
      obtain ⟨items, hitems, rfl⟩ := Json.rearranged_arr_iff.1 harr
      rw [decodeNodeWithin, htag, ok_bind]
      refine decodeCall_of_perm (decodeOperator_encodeOperator hn.1.1 hop _) ?_
        (decodeType_encodeType htype _) hn.1.2 hbody
      -- Each operand nests less deep than the call does.
      have hless : ∀ item ∈ items, depth item < fuel := by
        intro item hitem
        have harr : depth (.arr items) < depth j := hdepth ("operands", .arr items) (by simp)
        have := depth_lt_of_mem_arr hitem
        omega
      rw [encodeNodes_eq_map] at hitems
      exact forall₂_decode_of_rearranged hitems fun m hm item hitem hm' =>
        ih m hm hm' (hless item hitem)

theorem decodeNode_encodeNode {n : Node} (hn : n.Built) (hwritable : n.Everywhere Writable) :
    decodeNode (encodeNode n) = .ok n ∧
      ∀ j, (encodeNode n).Rearranged j → decodeNode j = .ok n := by
  have h : ∀ j, (encodeNode n).Rearranged j → decodeNode j = .ok n := fun j hj =>
    decodeNodeWithin_encodeNode ((Node.everywhere_sound_of_built hn).and hwritable) hj
      (Nat.lt_succ_self _)
  exact ⟨h _ (.refl _), h⟩

/-! ## A call in a call -/

namespace Ledger

/-- Takes three operands or more. -/
def total : Operator :=
  { id := "TOTAL", name := "sum of \"it\"", kind := .plus, form := .binary,
    precedence := 4294967295, leftAssoc := false, returns := .fixedNotNull (.decimal 38 10),
    operands := .numericOrInterval, arity := ⟨Arity.three.lower, none⟩ }

def amount : Node :=
  .call total
    [.input 18446744073709551615 none (.orNull (.decimal 38 10)),
     .literal (.float 2.5) (.notNull .double), .int (-7), .null .real]
    (.notNull (.decimal 38 10))

def title : Node :=
  .call Catalog.trim [.symbol .both, .string "[\"\\", .column 1 "type" (.notNull .char)]
    (.orNull .varchar)

def entry : Node :=
  .call total [amount, title, .literal (.bool false) (.notNull .any)] (.orNull .boolean)

theorem total_consistent : total.Consistent :=
  (Operator.check_eq_ok_iff.1 (rfl : total.check = .ok total)).2

theorem trim_consistent : Catalog.trim.Consistent :=
  (Operator.check_eq_ok_iff.1 (rfl : Catalog.trim.check = .ok Catalog.trim)).2

theorem built : entry.Built := by
  have hamount : amount.Everywhere Node.Sound := by
    have hcount : total.arity.admits 4 = true := by decide
    simp [amount, Node.Sound, total_consistent, hcount, Node.int, Node.null]
  have htitle : title.Everywhere Node.Sound := by
    have hcount : Catalog.trim.arity.admits 3 = true := by decide
    simp [title, Node.Sound, trim_consistent, hcount, Node.symbol, Node.string, Node.column]
  have hcount : total.arity.admits 3 = true := by decide
  apply Node.built_of_everywhere_sound
  simp [entry, Node.Sound, total_consistent, hcount, hamount, htitle]

theorem writable : entry.Everywhere Writable := by
  have hrate : (2.5 : Float).isFinite = true := by decide
  simp [entry, amount, title, Writable, hrate, Node.int, Node.null, Node.symbol, Node.string,
    Node.column]

theorem decodeNode_encodeNode_of_entry :
    entry.Built ∧ entry.Everywhere Writable ∧ decodeNode (encodeNode entry) = .ok entry :=
  ⟨built, writable, (decodeNode_encodeNode built writable).1⟩

end Ledger

end RowExpr.Codec
