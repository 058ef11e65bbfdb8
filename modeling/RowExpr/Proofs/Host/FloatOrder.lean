import RowExpr.Host.Eval

/-!
# The order of floats

Two floats that are numbers are always in some order, and an integer never becomes a float
that is not a number.
-/

namespace RowExpr.Host

open Float.Model (Format UnpackedFloat)
open Float.Model.UnpackedFloat (Sign unpack unpackExponent unpackMantissa)

/-! ## Comparing -/

theorem compare_eq_none {a b : UnpackedFloat} (h : a.compare b = none) :
    a.isNaN = true ∨ b.isNaN = true := by
  rcases a with s | _ | s | ⟨s, m, e, hm⟩ <;> rcases b with t | _ | t | ⟨t, n, f, hn⟩
  all_goals first
    | exact .inl rfl
    | exact .inr rfl
    | cases s <;> cases t <;> cases h

theorem compare_swap (a b : UnpackedFloat) : b.compare a = (a.compare b).map Ordering.swap := by
  rcases a with s | _ | s | ⟨s, m, e, hm⟩ <;> rcases b with t | _ | t | ⟨t, n, f, hn⟩
  case finite.finite =>
    have hswap : (compare f e).then (compare n m) = ((compare e f).then (compare m n)).swap := by
      rw [Ordering.swap_then, Int.compare_swap, Nat.compare_swap]
    cases s <;> cases t
    · exact congrArg (fun o => some o.swap) hswap
    · rfl
    · rfl
    · exact congrArg some hswap
  all_goals first
    | rfl
    | cases s <;> first | rfl | cases t <;> rfl

theorem lt_iff (x y : Float) :
    x < y ↔ x.toModel.unpack.compare y.toModel.unpack = some .lt := by
  show decide (x.toModel < y.toModel) = true ↔ _
  rw [decide_eq_true_iff]
  show (x.toModel.unpack.compare y.toModel.unpack == some .lt) = true ↔ _
  rw [beq_iff_eq]

theorem beq_iff (x y : Float) :
    (x == y) = true ↔ x.toModel.unpack.compare y.toModel.unpack = some .eq := by
  show (x.toModel.unpack.compare y.toModel.unpack == some .eq) = true ↔ _
  rw [beq_iff_eq]

theorem orderFloats_eq_compare (x y : Float) :
    orderFloats x y = x.toModel.unpack.compare y.toModel.unpack := by
  simp only [orderFloats, lt_iff, beq_iff, compare_swap x.toModel.unpack]
  cases x.toModel.unpack.compare y.toModel.unpack with
  | none => rfl
  | some o => cases o <;> rfl

theorem isNaN_of_orderFloats_eq_none {x y : Float} (h : orderFloats x y = none) :
    x.isNaN = true ∨ y.isNaN = true := by
  rw [orderFloats_eq_compare] at h
  exact compare_eq_none h

/-! ## Integers as floats -/

theorem isNaN_dite {c : Prop} [Decidable c] {f : c → UnpackedFloat} {g : ¬c → UnpackedFloat}
    (hf : ∀ h, (f h).isNaN = false) (hg : ∀ h, (g h).isNaN = false) :
    (dite c f g).isNaN = false := by
  by_cases h : c
  · rw [dif_pos h]
    exact hf h
  · rw [dif_neg h]
    exact hg h

theorem isNaN_unpack_eq_false {spec : Format} {b : BitVec spec.numBits}
    (h : unpackExponent b ≠ -1#_ ∨ unpackMantissa b = 0#_) : (unpack spec b).isNaN = false := by
  unfold unpack
  dsimp only
  by_cases hexp : unpackExponent b = -1#_
  · rw [if_pos hexp, if_pos (h.resolve_left (not_not_intro hexp))]
    rfl
  · rw [if_neg hexp]
    by_cases hzero : unpackExponent b = 0#_
    · rw [if_pos hzero]
      exact isNaN_dite (fun _ => rfl) fun _ => rfl
    · rw [if_neg hzero]
      rfl

theorem isNaN_unpack_pack {spec : Format} {f : UnpackedFloat} (h : f.isNaN = false) :
    (unpack spec (f.pack spec)).isNaN = false := by
  apply isNaN_unpack_eq_false
  have hpow : 1 < 2 ^ spec.exponentBits := Nat.one_lt_two_pow (Nat.pos_iff_ne_zero.1 spec.he)
  fun_cases UnpackedFloat.pack spec f
  · cases h
  · exact .inr (by simp [UnpackedFloat.packedInfinity])
  · exact .inr (by simp [UnpackedFloat.packedZero])
  · exact .inr (by simp [UnpackedFloat.packedInfinity])
  · next biased hfit _ =>
    left
    rw [UnpackedFloat.unpackExponent_packComponents, ne_eq, ← BitVec.toNat_inj, BitVec.toNat_ofNat,
      BitVec.neg_one_eq_allOnes, BitVec.toNat_allOnes]
    have hmod : biased % 2 ^ spec.exponentBits = biased := Nat.mod_eq_of_lt (by omega)
    omega
  · left
    rw [UnpackedFloat.unpackExponent_packComponents, ne_eq, ← BitVec.toNat_inj,
      BitVec.neg_one_eq_allOnes, BitVec.toNat_allOnes, BitVec.toNat_zero]
    omega

theorem isNaN_round (spec : Format) (sign : Sign) (m : Nat) (e : Int) :
    (UnpackedFloat.round spec sign m e).isNaN = false := by
  unfold UnpackedFloat.round UnpackedFloat.roundWithAccuracy
  exact isNaN_dite (fun _ => rfl) fun _ => rfl

theorem isNaN_floatOfInt (i : Int64) : (Decimal.floatOfInt i).isNaN = false := by
  apply isNaN_unpack_pack
  unfold UnpackedFloat.ofInt64 UnpackedFloat.ofInt UnpackedFloat.normalize
  split
  · exact isNaN_round _ _ _ _
  · rfl
  · exact isNaN_round _ _ _ _

end RowExpr.Host
