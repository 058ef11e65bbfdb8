import RowExpr.Proofs.Host.StandardTables

/-!
# Where nulls come from

Operators, conversions and the standard methods make null of null alone, and refuse null only
where it is converted to a type that cannot hold it.
-/

namespace RowExpr.Host

/-- Every value satisfies `P`, and no null was converted to a type that cannot hold it. -/
def Unforced {α : Type} (P : α → Prop) : Except EvalError α → Prop
  | .ok v => P v
  | .error e => ∀ t, e ≠ .nullConversion t

theorem Unforced.bind_of_eq {α β : Type} {P : α → Prop} {Q : β → Prop} {x : Except EvalError α}
    {f : α → Except EvalError β} (hx : Unforced P x)
    (hf : ∀ v, x = .ok v → P v → Unforced Q (f v)) : Unforced Q (x >>= f) := by
  cases x with
  | ok v => exact hf v rfl hx
  | error e => exact hx

theorem Unforced.bind {α β : Type} {P : α → Prop} {Q : β → Prop} {x : Except EvalError α}
    {f : α → Except EvalError β} (hx : Unforced P x) (hf : ∀ v, P v → Unforced Q (f v)) :
    Unforced Q (x >>= f) :=
  hx.bind_of_eq fun v _ => hf v

theorem Unforced.imp_of_eq {α : Type} {P Q : α → Prop} {x : Except EvalError α}
    (hx : Unforced P x) (h : ∀ v, x = .ok v → P v → Q v) : Unforced Q x := by
  cases x with
  | ok v => exact h v rfl hx
  | error e => exact hx

theorem Unforced.imp {α : Type} {P Q : α → Prop} {x : Except EvalError α} (hx : Unforced P x)
    (h : ∀ v, P v → Q v) : Unforced Q x :=
  hx.imp_of_eq fun v _ => h v

/-! ## Conversions -/

theorem unforced_convertTo {v : Value} {t : HostType} (h : v = .null → t.canHoldNull = true) :
    Unforced (fun w => v ≠ .null → w ≠ .null) (convertTo v t) := by
  by_cases hv : v = .null
  · subst hv
    rw [convertTo_null, h rfl, if_pos rfl]
    exact fun hv => hv
  · obtain ⟨kind, boxed⟩ := t
    cases kind <;> cases v <;> first | contradiction | simp [convertTo, Unforced]

theorem unforced_held {v : Value} (t : SqlType) :
    Unforced (fun w => v ≠ .null → w ≠ .null) (convertTo v (.ofSqlType t.nullify)) :=
  unforced_convertTo fun _ => by simp [HostType.canHoldNull, HostType.ofSqlType, SqlType.nullify]

/-! ## Operators -/

theorem unforced_arithmeticInt (op : BinaryOp) (a b : Int64) :
    Unforced (· ≠ .null) (arithmeticInt op a b) := by
  cases op with
  | divide | mod =>
    simp only [arithmeticInt]
    split <;> simp [Unforced]
  | _ => simp [arithmeticInt, Unforced]

theorem unforced_arithmeticFloat (op : BinaryOp) (x y : Float) :
    Unforced (· ≠ .null) (arithmeticFloat op x y) := by
  cases op with
  | divide | mod =>
    simp only [arithmeticFloat]
    split <;> simp [Unforced]
  | _ => simp [arithmeticFloat, Unforced]

theorem unforced_toFloat (v : Value) : Unforced (fun _ => True) (toFloat v) := by
  cases v <;> simp [toFloat, Unforced]

theorem unforced_arithmetic (op : BinaryOp) (a b : Value) :
    Unforced (· ≠ .null) (arithmetic op a b) := by
  have hfloats : Unforced (· ≠ .null) (toFloat a >>= fun x => toFloat b >>= arithmeticFloat op x) :=
    (unforced_toFloat a).bind fun x _ =>
      (unforced_toFloat b).bind fun y _ => unforced_arithmeticFloat op x y
  cases a with
  | int i =>
    cases b with
    | int j => exact unforced_arithmeticInt op i j
    | _ => exact hfloats
  | _ => exact hfloats

theorem unforced_applyBinary (op : BinaryOp) (a b : Value) :
    Unforced (fun v => a ≠ .null → b ≠ .null → v ≠ .null) (applyBinary op a b) := by
  unfold applyBinary
  split
  · next hnull =>
    intro ha hb
    simp [Value.isNull_iff, ha, hb] at hnull
  · cases op.test? with
    | some test =>
      cases order? a b with
      | some o => simp [Unforced]
      | none => simp [Unforced]
    | none => exact (unforced_arithmetic op a b).imp fun v hv _ _ => hv

theorem unforced_applyUnary (op : UnaryOp) (v : Value) :
    Unforced (fun w => v ≠ .null → w ≠ .null) (applyUnary op v) := by
  cases op <;> cases v <;> simp [applyUnary, Unforced]

section

variable {N : Prop}

theorem unforced_connect (k : Bool) (name : String) {a : Value} {r : Except EvalError Value}
    (ha : N → a ≠ .null) (hr : Unforced (fun b => N → b ≠ .null) r) :
    Unforced (fun v => N → v ≠ .null) (connect k name a r) := by
  cases a with
  | bool t =>
    simp only [connect]
    split
    · simp [Unforced]
    · refine hr.bind fun b hb => ?_
      cases b with
      | null => exact hb
      | _ => simp [Unforced]
  | null =>
    have hN : ¬ N := fun hN => ha hN rfl
    refine hr.bind fun b hb => ?_
    cases b with
    | bool | null => exact fun h => absurd h hN
    | _ => simp [Unforced]
  | _ => simp [connect, Unforced]

theorem unforced_combine (host : BinaryOp) {l r : Except EvalError Value}
    (hl : Unforced (fun v => N → v ≠ .null) l) (hr : Unforced (fun v => N → v ≠ .null) r) :
    Unforced (fun v => N → v ≠ .null) (host.combine l r) := by
  cases host with
  | andAlso =>
    rw [combine_andAlso]
    exact hl.bind fun a ha => unforced_connect false "AND" ha hr
  | orElse =>
    rw [combine_orElse]
    exact hl.bind fun a ha => unforced_connect true "OR" ha hr
  | _ =>
    exact hl.bind fun a ha => hr.bind fun b hb =>
      (unforced_applyBinary _ a b).imp fun v hv hN => hv (ha hN) (hb hN)

end

/-! ## Methods -/

theorem unforced_stringArg (method : String) (v : Value) :
    Unforced (fun _ => True) (stringArg method v) := by
  cases v <;> simp [stringArg, Unforced]

theorem unforced_intArg (method : String) (v : Value) :
    Unforced (fun _ => True) (intArg method v) := by
  cases v <;> simp [intArg, Unforced]

theorem unforced_flagArg (method : String) (v : Value) :
    Unforced (fun _ => True) (flagArg method v) := by
  cases v <;> simp [flagArg, Unforced]

theorem unforced_ofFunction {α : Type} {f : α → Value} (hf : ∀ a, f a ≠ .null)
    (x : Except MethodFailure α) : Unforced (· ≠ .null) (ofFunction f x) := by
  cases x with
  | ok a => exact hf a
  | error e => simp [ofFunction, Unforced]

theorem unforced_strict {body : List Value → Except EvalError Value} {vs : List Value}
    (h : Unforced (· ≠ .null) (body vs)) :
    Unforced (fun v => Value.null ∉ vs → v ≠ .null) (strict body vs) := by
  unfold strict
  split
  · next hany =>
    obtain ⟨v, hv, hnull⟩ := List.any_eq_true.1 hany
    rw [(Value.isNull_iff v).1 hnull] at hv
    exact fun h => absurd hv h
  · exact h.imp fun v hv _ => hv

/-- The standard methods make null of null alone. -/
theorem unforced_body {m : Method} (hm : m ∈ Standard.methods) {vs : List Value}
    (hcount : vs.length = m.params.length) :
    Unforced (fun v => Value.null ∉ vs → v ≠ .null) (m.body vs) := by
  simp only [Standard.methods, List.mem_cons, List.not_mem_nil, or_false] at hm
  rcases hm with rfl | rfl | rfl | rfl | rfl | rfl | rfl | rfl | rfl
  iterate 3
    obtain ⟨s, rfl⟩ := List.length_eq_one_iff.1 hcount
    refine unforced_strict ((unforced_stringArg _ s).bind fun _ _ => ?_)
    simp [Unforced, pure, Except.pure]
  · obtain ⟨s, start, rfl⟩ := List.length_eq_two.1 hcount
    refine unforced_strict ((unforced_stringArg _ s).bind fun _ _ =>
      (unforced_intArg _ start).bind fun _ _ => ?_)
    exact unforced_ofFunction (by simp) _
  · obtain ⟨s, start, length, rfl⟩ := List.length_eq_three.1 hcount
    refine unforced_strict ((unforced_stringArg _ s).bind fun _ _ =>
      (unforced_intArg _ start).bind fun _ _ => (unforced_intArg _ length).bind fun _ _ => ?_)
    exact unforced_ofFunction (by simp) _
  · obtain ⟨flag, chars, source, rfl⟩ := List.length_eq_three.1 hcount
    refine unforced_strict ((unforced_flagArg _ flag).bind fun f _ =>
      (unforced_stringArg _ chars).bind fun c _ => ?_)
    split
    · refine (unforced_stringArg _ source).bind fun _ _ => ?_
      simp [Unforced, pure, Except.pure]
    · simp [Unforced]
  · obtain ⟨v, rfl⟩ := List.length_eq_one_iff.1 hcount
    refine unforced_strict ?_
    cases v with
    | int i => exact unforced_ofFunction (by simp) _
    | _ => simp [Standard.absBody, Unforced]
  · simp [Standard.piBody, Unforced]
  · obtain ⟨v, rfl⟩ := List.length_eq_one_iff.1 hcount
    simp [Standard.nullIndicatorBody, Unforced]

end RowExpr.Host
