import RowExpr.Codec.Host
import RowExpr.Host.Eval
import RowExpr.Proofs.Codec.RoundTrip

/-!
# Reading a host expression that was encoded

A host expression that is written as JSON is read back as it was, in whatever order the fields
of the objects come (`decodeExpr_encodeExpr`).
-/

namespace RowExpr

/-! ## Inside an expression -/

namespace Host.Expr

/-- The expressions directly inside. -/
def operands : Expr → List Expr
  | constant _ _ | parameter _ _ | fail _ => []
  | convert e _ | unary _ e _ => [e]
  | binary _ e f _ | coalesce e f => [e, f]
  | call _ _ args _ => args

mutual

/-- The values of the constants in an expression. -/
def constants : Expr → List Value
  | constant v _ => [v]
  | parameter _ _ | fail _ => []
  | convert e _ | unary _ e _ => e.constants
  | binary _ e f _ | coalesce e f => e.constants ++ f.constants
  | call _ _ args _ => constantsAll args

def constantsAll : List Expr → List Value
  | [] => []
  | e :: rest => e.constants ++ constantsAll rest

end

theorem mem_constantsAll {v : Value} {es : List Expr} :
    v ∈ constantsAll es ↔ ∃ e ∈ es, v ∈ e.constants := by
  induction es with
  | nil => simp [constantsAll]
  | cons e rest ih => simp [constantsAll, ih]

theorem mem_constants_of_mem_operands {e f : Expr} (hf : f ∈ e.operands) {v : Value}
    (hv : v ∈ f.constants) : v ∈ e.constants := by
  cases e with
  | constant | parameter | fail => cases hf
  | convert e | unary _ e =>
    rw [operands, List.mem_singleton] at hf
    rwa [constants, ← hf]
  | binary _ l r | coalesce l r =>
    simp only [operands, List.mem_cons, List.not_mem_nil, or_false] at hf
    rw [constants, List.mem_append]
    rcases hf with rfl | rfl
    · exact .inl hv
    · exact .inr hv
  | call owner method args =>
    rw [constants, mem_constantsAll]
    exact ⟨f, hf, hv⟩

/-- Every constant has a JSON form. -/
def Writable (e : Expr) : Prop := ∀ x, .float x ∈ e.constants → x.isFinite = true

theorem Writable.of_mem_operands {e f : Expr} (he : e.Writable) (hf : f ∈ e.operands) :
    f.Writable :=
  fun x hx => he x (mem_constants_of_mem_operands hf hx)

end Host.Expr

namespace Codec

section

variable {j : Json}

/-! ## Parts -/

theorem decodeHostType_encodeHostType {t : Host.HostType} (h : (encodeHostType t).Rearranged j)
    (leniency : Leniency) : decodeHostType leniency j = .ok t := by
  obtain ⟨mid, _ | ⟨hkind, _ | ⟨hboxed, ⟨⟩⟩⟩, fields, hperm, rfl⟩ := Json.rearranged_obj_iff.1 h
  obtain rfl := Json.rearranged_str_iff.1 hkind
  obtain rfl := Json.rearranged_bool_iff.1 hboxed
  have hfields : Arranged ["kind", "boxed"] _ fields := ⟨hperm, .refl _, by decide⟩
  have hmem : t.kind ∈ hostKindNames.map (·.2) := by cases t.kind <;> decide
  simp only [decodeHostType, hfields.record, hfields.required, ok_bind, required_cons,
    String.reduceEq, ↓reduceIte, oneOf_nameOf (by decide) hmem, bool]
  rfl

theorem mem_binaryOpNames (op : Host.BinaryOp) : op ∈ binaryOpNames.map (·.2) := by
  cases op <;> decide

theorem mem_unaryOpNames (op : Host.UnaryOp) : op ∈ unaryOpNames.map (·.2) := by
  cases op <;> decide

theorem encodeExprs_eq_map (es : List Host.Expr) : encodeExprs es = es.map encodeExpr := by
  induction es with
  | nil => rfl
  | cons e rest ih => rw [encodeExprs, ih, List.map_cons]

end

/-! ## Expressions -/

/-- An expression is read back as soon as the ones directly inside are. -/
theorem decodeExprWithin_succ {e : Host.Expr} (he : e.Writable) {j : Json}
    (hj : (encodeExpr e).Rearranged j) {fuel : Nat}
    (hinside : ∀ f ∈ e.operands, ∀ k, (encodeExpr f).Rearranged k → depth k < depth j →
      decodeExprWithin fuel .tagged k = .ok f) (leniency : Leniency) :
    decodeExprWithin (fuel + 1) leniency j = .ok e := by
  -- In every case the tag is taken out of the fields, and each of the others is looked up by its
  -- name, so that their order does not matter.
  cases e with
  | constant v type =>
    obtain ⟨_, body, _ | ⟨hvalue, _ | ⟨htype, ⟨⟩⟩⟩, hbody, -, htag⟩ :=
      tagged_of_rearranged hj (by simp) exprTags leniency
    have hfields : Arranged ["value", "ty"] _ body := ⟨hbody, .refl _, by decide⟩
    have hfinite : ∀ x, v = .float x → x.isFinite = true := by
      rintro x rfl
      exact he x (by simp [Host.Expr.constants])
    simp only [decodeExprWithin, htag, ok_bind, hfields.record, hfields.required, required_cons,
      String.reduceEq, ↓reduceIte, decodeValue_encodeValue hfinite hvalue,
      decodeHostType_encodeHostType htype]
    rfl
  | parameter index type =>
    obtain ⟨_, body, _ | ⟨⟨⟩, _ | ⟨htype, ⟨⟩⟩⟩, hbody, -, htag⟩ :=
      tagged_of_rearranged hj (by simp) exprTags leniency
    have hfields : Arranged ["index", "ty"] _ body := ⟨hbody, .refl _, by decide⟩
    simp only [decodeExprWithin, htag, ok_bind, hfields.record, hfields.required, required_cons,
      String.reduceEq, ↓reduceIte, uint64_int, decodeHostType_encodeHostType htype]
    rfl
  | convert e type =>
    obtain ⟨_, body, _ | ⟨he, _ | ⟨htype, ⟨⟩⟩⟩, hbody, hdepth, htag⟩ :=
      tagged_of_rearranged hj (by simp) exprTags leniency
    have hfields : Arranged ["operand", "ty"] _ body := ⟨hbody, .refl _, by decide⟩
    have he := hinside e (by simp [Host.Expr.operands]) _ he (hdepth ("operand", _) (by simp))
    simp only [decodeExprWithin, htag, ok_bind, hfields.record, hfields.required, required_cons,
      String.reduceEq, ↓reduceIte, he, decodeHostType_encodeHostType htype]
    rfl
  | call owner method args type =>
    obtain ⟨_, body, _ | ⟨⟨⟩, _ | ⟨⟨⟩, _ | ⟨hargs, _ | ⟨htype, ⟨⟩⟩⟩⟩⟩, hbody, hdepth, htag⟩ :=
      tagged_of_rearranged hj (by simp) exprTags leniency
    have hfields : Arranged ["owner", "method", "args", "ty"] _ body := ⟨hbody, .refl _, by decide⟩
    obtain ⟨items, hitems, rfl⟩ := Json.rearranged_arr_iff.1 hargs
    have hitems : items.mapM (decodeExprWithin fuel .tagged) = .ok args := by
      rw [encodeExprs_eq_map] at hitems
      apply mapM_eq_ok_iff.2 (forall₂_decode_of_rearranged hitems _)
      intro e he k hk hrearranged
      -- An argument stands in a list, which stands in the call.
      have harr : depth (.arr items) < depth j := hdepth ("args", _) (by simp)
      exact hinside e he k hrearranged (Nat.lt_trans (depth_lt_of_mem_arr hk) harr)
    simp only [decodeExprWithin, htag, ok_bind, hfields.record, hfields.required, required_cons,
      String.reduceEq, ↓reduceIte, string, list, hitems, decodeHostType_encodeHostType htype]
    rfl
  | binary op l r type =>
    obtain ⟨_, body, _ | ⟨⟨⟩, _ | ⟨hl, _ | ⟨hr, _ | ⟨htype, ⟨⟩⟩⟩⟩⟩, hbody, hdepth, htag⟩ :=
      tagged_of_rearranged hj (by simp) exprTags leniency
    have hfields : Arranged ["op", "left", "right", "ty"] _ body := ⟨hbody, .refl _, by decide⟩
    have hl := hinside l (by simp [Host.Expr.operands]) _ hl (hdepth ("left", _) (by simp))
    have hr := hinside r (by simp [Host.Expr.operands]) _ hr (hdepth ("right", _) (by simp))
    simp only [decodeExprWithin, htag, ok_bind, hfields.record, hfields.required, required_cons,
      String.reduceEq, ↓reduceIte, oneOf_nameOf (by decide) (mem_binaryOpNames op), hl, hr,
      decodeHostType_encodeHostType htype]
    rfl
  | unary op e type =>
    obtain ⟨_, body, _ | ⟨⟨⟩, _ | ⟨he, _ | ⟨htype, ⟨⟩⟩⟩⟩, hbody, hdepth, htag⟩ :=
      tagged_of_rearranged hj (by simp) exprTags leniency
    have hfields : Arranged ["op", "operand", "ty"] _ body := ⟨hbody, .refl _, by decide⟩
    have he := hinside e (by simp [Host.Expr.operands]) _ he (hdepth ("operand", _) (by simp))
    simp only [decodeExprWithin, htag, ok_bind, hfields.record, hfields.required, required_cons,
      String.reduceEq, ↓reduceIte, oneOf_nameOf (by decide) (mem_unaryOpNames op), he,
      decodeHostType_encodeHostType htype]
    rfl
  | coalesce e f =>
    obtain ⟨_, body, _ | ⟨he, _ | ⟨hf, ⟨⟩⟩⟩, hbody, hdepth, htag⟩ :=
      tagged_of_rearranged hj (by simp) exprTags leniency
    have hfields : Arranged ["operand", "fallback"] _ body := ⟨hbody, .refl _, by decide⟩
    have he := hinside e (by simp [Host.Expr.operands]) _ he (hdepth ("operand", _) (by simp))
    have hf := hinside f (by simp [Host.Expr.operands]) _ hf (hdepth ("fallback", _) (by simp))
    simp only [decodeExprWithin, htag, ok_bind, hfields.record, hfields.required, required_cons,
      String.reduceEq, ↓reduceIte, he, hf]
    rfl
  | fail message =>
    obtain ⟨_, body, _ | ⟨⟨⟩, ⟨⟩⟩, hbody, -, htag⟩ :=
      tagged_of_rearranged hj (by simp) exprTags leniency
    have hfields : Arranged ["message"] _ body := ⟨hbody, .refl _, by decide⟩
    simp only [decodeExprWithin, htag, ok_bind, hfields.record, hfields.required, required_cons,
      ↓reduceIte, string]
    rfl

theorem decodeExprWithin_encodeExpr {e : Host.Expr} (he : e.Writable) {fuel : Nat}
    {leniency : Leniency} {j : Json} (hj : (encodeExpr e).Rearranged j) (hfuel : depth j < fuel) :
    decodeExprWithin fuel leniency j = .ok e := by
  induction fuel generalizing e leniency j with
  | zero => cases hfuel
  | succ fuel ih =>
    apply decodeExprWithin_succ he hj
    intro f hf k hk hdepth
    exact ih (he.of_mem_operands hf) hk (by omega)

theorem decodeExpr_encodeExpr {e : Host.Expr} (he : e.Writable) :
    decodeExpr (encodeExpr e) = .ok e ∧
      ∀ j, (encodeExpr e).Rearranged j → decodeExpr j = .ok e ∧
        ∀ f, decodeExpr j = .ok f → ∀ methods row, f.eval methods row = e.eval methods row := by
  have h : ∀ j, (encodeExpr e).Rearranged j → decodeExpr j = .ok e := fun j hj =>
    decodeExprWithin_encodeExpr he hj (Nat.lt_succ_self _)
  refine ⟨h _ (.refl _), fun j hj => ⟨h j hj, fun f hf methods row => ?_⟩⟩
  rw [h j hj] at hf
  cases hf
  rfl

/-! ## An expression of every kind -/

namespace Receipt

def rate : Host.Expr :=
  .coalesce (.parameter 18446744073709551615 (.inBox .double))
    (.constant (.float 2.5) (.primitive .double))

def fee : Host.Expr :=
  .binary .times (.convert (.parameter 0 (.inBox .long)) (.inBox .double)) rate (.inBox .double)

def line : Host.Expr :=
  .call "Receipts" "line of \"it\""
    [.constant (.flag .both) (.inBox .symbol), .constant (.string "[\"\\") (.primitive .string),
     .constant (.int (-7)) (.primitive .object), .unary .negate fee (.inBox .double),
     .constant .null (.inBox .int), .fail "expr"]
    (.primitive .bool)

theorem writable : line.Writable := by
  have hrate : (2.5 : Float).isFinite = true := by decide
  simp [Host.Expr.Writable, line, fee, rate, Host.Expr.constants, Host.Expr.constantsAll, hrate]

theorem decodeExpr_encodeExpr_of_line :
    line.Writable ∧ decodeExpr (encodeExpr line) = .ok line :=
  ⟨writable, (decodeExpr_encodeExpr writable).1⟩

end Receipt

end Codec

end RowExpr
