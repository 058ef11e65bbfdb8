import RowExpr.Proofs.Sql.Grouping

/-!
# Without a pair of parentheses

Whether tokens are read at all does not depend on precedence: operands and operators have to
take turns, and parentheses have to match. A matching pair can be left out, and the rest is
still read (`isSome_readTokens_of_pair`), though as another tree where the pair was needed.
-/

namespace RowExpr.Sql

/-! ## Matching -/

/-- How many parentheses are open behind a token; nothing may be closed that is not open. -/
def nest : Nat → Token → Option Nat
  | n, .opening | n, .call _ => some (n + 1)
  | 0, .closing => none
  | n + 1, .closing => some n
  | n, _ => some n

/-- Tokens whose parentheses match among themselves. -/
def Balanced (ts : List Token) : Prop := ts.foldlM nest 0 = some 0

instance (ts : List Token) : Decidable (Balanced ts) := by
  unfold Balanced
  infer_instance

namespace Vocabulary

variable {v : Vocabulary}

/-! ## Turns -/

/-- What of a reading decides whether it can go on. -/
structure Shape where
  due : Bool
  depth : Nat
  deriving DecidableEq, Repr

/-- How many brackets are open. -/
def depth : List Frame → Nat
  | [] => 0
  | .inside _ :: rest => depth rest + 1
  | .prefixed _ :: rest | .infixed _ _ :: rest => depth rest

def shape (r : Reading) : Shape := ⟨r.held.isNone, depth r.stack⟩

/-- Operands and operators take turns; what is closed has to be open. -/
def advance (v : Vocabulary) : Shape → Token → Option Shape
  | ⟨true, n⟩, .word w => if w ∈ v.names then none else some ⟨false, n⟩
  | ⟨true, n⟩, .opening => some ⟨true, n + 1⟩
  | ⟨false, n⟩, .word w => if w ∈ v.names then some ⟨true, n⟩ else none
  | ⟨false, n + 1⟩, .closing => some ⟨false, n⟩
  | _, _ => none

theorem depth_settle (p : Nat) (e : Outline) (stack : List Frame) :
    depth (settle p e stack).2 = depth stack := by
  induction stack generalizing e with
  | nil => rfl
  | cons f rest ih =>
    cases f with
    | inside => rfl
    | prefixed op | infixed left op =>
      rw [settle]
      split
      · exact ih _
      · rfl

/-- A reading goes on exactly if its shape does. -/
theorem map_shape_tokenStep (hv : v.Infix) {k : Nat} {r : Reading} (hr : v.Paid k r) (t : Token) :
    (v.tokenStep r t).map shape = v.advance (shape r) t := by
  cases hr with
  | @due stack hs hload =>
    cases t with
    | word w =>
      rw [tokenStep_due_word hv]
      by_cases hw : w ∈ v.names <;> simp [hw, shape, advance]
    | opening | closing | quoted | call | comma => rfl
  | @held stack e hs he =>
    cases t with
    | word w =>
      rw [tokenStep_held_word hv]
      have hnames := isSome_operatorOf? hv w
      cases hop : operatorOf? v.operators false w with
      | none =>
        have hw : w ∉ v.names := by simpa [hop] using hnames
        simp [shape, advance, hw]
      | some op =>
        have hw : w ∈ v.names := by simpa [hop] using hnames
        simp [shape, advance, hw, follow_binary hv (mem_of_operatorOf? hop), depth, depth_settle]
    | closing =>
      rw [tokenStep_held_closing, shape, ← depth_settle 0 e stack]
      obtain ⟨tree, ⟨hset, -⟩ | ⟨rest, hset, -⟩⟩ := settled_zero hs he
      · rw [hset]
        rfl
      · rw [hset]
        rfl
    | opening | quoted | call | comma =>
      rw [shape]
      cases depth stack <;> rfl

theorem map_shape_foldlM (hv : v.Infix) {k : Nat} {r : Reading} (hr : v.Paid k r)
    (ts : List Token) :
    (ts.foldlM v.tokenStep r).map shape = ts.foldlM v.advance (shape r) := by
  induction ts generalizing k r with
  | nil => rfl
  | cons t rest ih =>
    rw [List.foldlM_cons, List.foldlM_cons, ← map_shape_tokenStep hv hr]
    cases hnext : v.tokenStep r t with
    | none => rfl
    | some next => exact ih (paid_tokenStep hv hr hnext)

theorem Paid.isSome_finish {k : Nat} {r : Reading} (hr : v.Paid k r) :
    (finish r).isSome = true ↔ shape r = ⟨false, 0⟩ := by
  cases hr with
  | due => simp [finish, shape]
  | @held stack e hs he =>
    rw [shape, ← depth_settle 0 e stack]
    obtain ⟨tree, ⟨hset, -⟩ | ⟨rest, hset, -⟩⟩ := settled_zero hs he
    · simp [finish, hset, depth]
    · simp [finish, hset, depth]

/-- Tokens are read exactly if operands and operators take turns, and all groups are closed. -/
theorem isSome_readTokens_iff (hv : v.Infix) (ts : List Token) :
    (v.readTokens ts).isSome = true ↔ ts.foldlM v.advance ⟨true, 0⟩ = some ⟨false, 0⟩ := by
  have hstart : v.Paid 0 ⟨[], none⟩ := .due .nil (Nat.le_refl 0)
  have hshape := map_shape_foldlM hv hstart ts
  have hbegin : shape ⟨[], none⟩ = ⟨true, 0⟩ := rfl
  rw [readTokens_eq, ← hbegin, ← hshape]
  cases hrun : ts.foldlM v.tokenStep ⟨[], none⟩ with
  | none => simp
  | some r => simpa using (paid_foldlM hv hstart hrun).isSome_finish

/-! ## At another depth -/

/-- A token that closes nothing of what was open before goes the same way at every depth. -/
theorem advance_shift {m m' k : Nat} {due : Bool} {s : Shape} {t : Token}
    (ht : nest m t = some m') (h : v.advance ⟨due, k + m⟩ t = some s) :
    s.depth = k + m' ∧ ∀ j, v.advance ⟨due, j + m⟩ t = some ⟨s.due, j + m'⟩ := by
  cases t with
  | word w =>
    cases ht
    cases due <;> by_cases hw : w ∈ v.names <;> simp [advance, hw] at h ⊢ <;> simp [← h]
  | opening =>
    cases ht
    cases due with
    | false => cases k + m <;> cases h
    | true =>
      cases h
      exact ⟨rfl, fun _ => rfl⟩
  | closing =>
    cases m with
    | zero => cases ht
    | succ m =>
      cases ht
      cases due with
      | true => cases h
      | false =>
        cases h
        exact ⟨rfl, fun _ => rfl⟩
  | quoted | call | comma => cases due <;> cases k + m <;> cases h

theorem foldlM_advance_shift {m m' k : Nat} {due : Bool} {s : Shape} {ts : List Token}
    (hts : ts.foldlM nest m = some m') (h : ts.foldlM v.advance ⟨due, k + m⟩ = some s) :
    s.depth = k + m' ∧ ∀ j, ts.foldlM v.advance ⟨due, j + m⟩ = some ⟨s.due, j + m'⟩ := by
  induction ts generalizing m due with
  | nil =>
    cases hts
    cases h
    exact ⟨rfl, fun _ => rfl⟩
  | cons t rest ih =>
    rw [List.foldlM_cons] at hts h
    obtain ⟨m₁, ht, hrest⟩ := Option.bind_eq_some_iff.1 hts
    obtain ⟨⟨due₁, n₁⟩, hs, h⟩ := Option.bind_eq_some_iff.1 h
    obtain ⟨hdepth, hshift⟩ := advance_shift ht hs
    obtain rfl : n₁ = k + m₁ := hdepth
    obtain ⟨hend, hrun⟩ := ih hrest h
    refine ⟨hend, fun j => ?_⟩
    rw [List.foldlM_cons, hshift j]
    exact hrun j

/-! ## Taking a pair away -/

theorem advance_opening {s s' : Shape} (h : v.advance s .opening = some s') :
    s.due = true ∧ s' = ⟨true, s.depth + 1⟩ := by
  obtain ⟨due, n⟩ := s
  cases due with
  | false => cases n <;> cases h
  | true =>
    cases h
    exact ⟨rfl, rfl⟩

theorem advance_closing {s s' : Shape} (h : v.advance s .closing = some s') :
    s = ⟨false, s'.depth + 1⟩ ∧ s'.due = false := by
  obtain ⟨due, n⟩ := s
  cases due with
  | true => cases h
  | false =>
    cases n with
    | zero => cases h
    | succ n =>
      cases h
      exact ⟨rfl, rfl⟩

theorem foldlM_advance_of_pair {before inside behind : List Token} {s s' : Shape}
    (hinside : Balanced inside)
    (h : (before ++ .opening :: inside ++ .closing :: behind).foldlM v.advance s = some s') :
    (before ++ inside ++ behind).foldlM v.advance s = some s' := by
  simp only [List.append_assoc, List.cons_append, List.foldlM_append, List.foldlM_cons] at h ⊢
  obtain ⟨s₁, hbefore, h⟩ := Option.bind_eq_some_iff.1 h
  obtain ⟨s₂, hopening, h⟩ := Option.bind_eq_some_iff.1 h
  obtain ⟨s₃, hrun, h⟩ := Option.bind_eq_some_iff.1 h
  obtain ⟨s₄, hclosing, hbehind⟩ := Option.bind_eq_some_iff.1 h
  obtain ⟨hdue, rfl⟩ := advance_opening hopening
  obtain ⟨hdepth, hshift⟩ := foldlM_advance_shift (k := s₁.depth + 1) hinside hrun
  obtain ⟨rfl, hend⟩ := advance_closing hclosing
  -- From one level less deep, the inside leads where the closing parenthesis led.
  have hinner : inside.foldlM v.advance s₁ = some s₄ := by
    obtain ⟨due, n⟩ := s₁
    obtain ⟨due', n'⟩ := s₄
    obtain rfl : due = true := hdue
    obtain rfl : due' = false := hend
    obtain rfl : n' = n := Nat.succ.inj hdepth
    exact hshift n'
  rw [hbefore, Option.bind_eq_bind, Option.bind_some, hinner]
  exact hbehind

/-- Without a matching pair, tokens that were read are still read. -/
theorem isSome_readTokens_of_pair (hv : v.Infix) {before inside behind : List Token}
    (hinside : Balanced inside)
    (h : (v.readTokens (before ++ .opening :: inside ++ .closing :: behind)).isSome = true) :
    (v.readTokens (before ++ inside ++ behind)).isSome = true := by
  rw [isSome_readTokens_iff hv] at h ⊢
  exact foldlM_advance_of_pair hinside h

end Vocabulary

end RowExpr.Sql
