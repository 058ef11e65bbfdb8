import RowExpr.Document
import RowExpr.Proofs.Except
import RowExpr.Proofs.Operator.Registration

/-!
# What documents stand for

Said of the list of operators that a table has taken, in the order in which it took them: which
expression a document stands for, and what can be wrong at a place of it. Resolving gives the
expression, or what is wrong at the first place, operands before their call
(`resolve_offerAll`).
-/

namespace RowExpr

open OperatorTable (Initial)

/-! ## Operators -/

/-- The operator that a word means before so many operands: the one of that identity, or else
the earliest of that name that takes so many. -/
inductive Named (ops : List Operator) (word : String) (count : Nat) : Operator → Prop
  | identity {op : Operator} : op ∈ ops → op.id = word → Named ops word count op
  | name {before after : List Operator} {op : Operator} :
    ops = before ++ op :: after → (∀ o ∈ ops, o.id ≠ word) →
    op.bears word = true → op.arity.admits count = true →
    (∀ o ∈ before, o.arity.admits count = true → o.bears word = false) →
    Named ops word count op

/-- Why a word means no operator. -/
inductive Unnamed (ops : List Operator) (word : String) (count : Nat) : LookupError → Prop
  | notFound : (∀ o ∈ ops, o.id ≠ word ∧ o.bears word = false) →
    Unnamed ops word count (.notFound word)
  | noMatchingArity : (∀ o ∈ ops, o.id ≠ word) → (∃ o ∈ ops, o.bears word = true) →
    (∀ o ∈ ops, o.arity.admits count = true → o.bears word = false) →
    Unnamed ops word count (.noMatchingArity word count)

namespace Document

/-! ## Meanings and faults -/

/-- The value that a scalar is for a type. Flags are written as strings. -/
inductive Denotes : TypeName → Json → Value → Prop
  | null {type : TypeName} : Denotes type .null .null
  | bool {type : TypeName} (b : Bool) : Denotes type (.bool b) (.bool b)
  | int {type : TypeName} (i : Int) : Denotes type (.int i) (Codec.numberValue i)
  | float {type : TypeName} (x : Float) : Denotes type (.float x) (.float x)
  | string {type : TypeName} (s : String) : type ≠ .symbol → Denotes type (.str s) (.string s)
  | flag (f : TrimFlag) : Denotes .symbol (.str f.keyword) (.flag f)

/-- The expression has the shape of the document. Its calls have the operators that the document
means, the types that are inferred, and operands that are taken. -/
inductive StandsFor (ops : List Operator) : Document → Node → Prop
  | call {word : String} {docs : List Document} {op : Operator} {nodes : List Node} :
    List.Forall₂ (StandsFor ops) docs nodes → Named ops word docs.length op →
    op.arity.admits docs.length = true → op.operands.accepts (Node.types nodes) = true →
    StandsFor ops (.call word docs) (.call op nodes (op.returns.infer (Node.types nodes)))
  | input (index : UInt64) (name : Option String) (type : SqlType) :
    StandsFor ops (.input index name type) (.input index name type)
  | literal {j : Json} {type : TypeName} {v : Value} :
    Denotes type j v → StandsFor ops (.literal j type) (.literal v ⟨type, v.isNull⟩)

/-- What is wrong with a document, its operands apart. -/
inductive Fault (ops : List Operator) : Document → DocumentError → Prop
  | array {type : TypeName} (items : List Json) :
    Fault ops (.literal (.arr items) type) (.invalidLiteral (.arr items) type)
  | object {type : TypeName} (fields : List (String × Json)) :
    Fault ops (.literal (.obj fields) type) (.invalidLiteral (.obj fields) type)
  | flag {s : String} : (∀ f : TrimFlag, f.keyword ≠ s) →
    Fault ops (.literal (.str s) .symbol) (.invalidLiteral (.str s) .symbol)
  | lookup {word : String} {docs : List Document} {cause : LookupError} :
    Unnamed ops word docs.length cause → Fault ops (.call word docs) (.lookup cause)
  | count {word : String} {docs : List Document} {op : Operator} :
    Named ops word docs.length op → op.arity.admits docs.length = false →
    Fault ops (.call word docs) (.build (.operandCount op.id docs.length op.arity))
  | types {word : String} {docs : List Document} {op : Operator} {nodes : List Node} :
    List.Forall₂ (StandsFor ops) docs nodes → Named ops word docs.length op →
    op.arity.admits docs.length = true → op.operands.accepts (Node.types nodes) = false →
    Fault ops (.call word docs) (.build (.operandTypes op.id (Node.types nodes)))

mutual

/-- The document and all documents inside it, operands from the left before their call. -/
def places : Document → List Document
  | .call word docs => placesAll docs ++ [.call word docs]
  | doc => [doc]

def placesAll : List Document → List Document
  | [] => []
  | doc :: rest => doc.places ++ placesAll rest

end

theorem placesAll_eq_flatMap (docs : List Document) : placesAll docs = docs.flatMap places := by
  induction docs with
  | nil => rfl
  | cons doc rest ih => rw [placesAll, List.flatMap_cons, ih]

section

variable {p : Document → Prop}

mutual

@[elab_as_elim]
theorem inductOn (call : ∀ word docs, (∀ doc ∈ docs, p doc) → p (.call word docs))
    (input : ∀ index name type, p (.input index name type))
    (literal : ∀ j type, p (.literal j type)) : ∀ doc : Document, p doc
  | .call word docs => call word docs (inductOnAll call input literal docs)
  | .input index name type => input index name type
  | .literal j type => literal j type

theorem inductOnAll (call : ∀ word docs, (∀ doc ∈ docs, p doc) → p (.call word docs))
    (input : ∀ index name type, p (.input index name type))
    (literal : ∀ j type, p (.literal j type)) : ∀ docs : List Document, ∀ doc ∈ docs, p doc
  | [] => List.forall_mem_nil _
  | doc :: rest => List.forall_mem_cons.2
    ⟨inductOn call input literal doc, inductOnAll call input literal rest⟩

end

end

/-! ## Looking up -/

section

variable {t : OperatorTable} {ops : List Operator} {word : String} {count : Nat}

theorem operator_of_id (ht : t.Indexes ops) {op : Operator} (hop : op ∈ ops) :
    operator t op.id count = .ok op := by
  rw [operator, ht.get?_of_mem hop]

theorem operator_of_no_id (ht : t.Indexes ops) (hid : ∀ o ∈ ops, o.id ≠ word) :
    operator t word count =
      if ops.any (·.bears word) then
        (ops.find? fun op => op.bears word ∧ op.arity.admits count).elim
          (.error (.lookup (.noMatchingArity word count))) .ok
      else .error (.lookup (.notFound word)) := by
  have hnone : t.get? word = none := by
    rw [ht.get?_eq_none_iff]
    simpa using hid
  simp only [operator, hnone, ht.findOverload]
  by_cases hany : ops.any (·.bears word) = true
  · rw [if_pos hany, if_pos hany]
    cases ops.find? fun op => op.bears word ∧ op.arity.admits count <;> rfl
  · rw [if_neg hany, if_neg hany]

theorem find?_overload_eq_some_iff {op : Operator} :
    ops.find? (fun op => op.bears word ∧ op.arity.admits count) = some op ↔
      (op.bears word = true ∧ op.arity.admits count = true) ∧ ∃ before after,
        ops = before ++ op :: after ∧
          ∀ o ∈ before, o.arity.admits count = true → o.bears word = false := by
  have hother : ∀ o : Operator,
      (!decide (o.bears word = true ∧ o.arity.admits count = true)) = true ↔
        (o.arity.admits count = true → o.bears word = false) := by
    intro o
    cases o.bears word <;> simp
  simp only [List.find?_eq_some_iff_append, decide_eq_true_eq, hother]

theorem find?_overload_eq_none_iff :
    ops.find? (fun op => op.bears word ∧ op.arity.admits count) = none ↔
      ∀ o ∈ ops, o.arity.admits count = true → o.bears word = false := by
  simp only [List.find?_eq_none, decide_eq_true_eq, not_and', Bool.not_eq_true]

theorem operator_eq_ok_iff (ht : t.Indexes ops) {op : Operator} :
    operator t word count = .ok op ↔ Named ops word count op := by
  constructor
  · intro h
    by_cases hid : ∃ o ∈ ops, o.id = word
    · obtain ⟨o, ho, rfl⟩ := hid
      rw [operator_of_id ht ho] at h
      cases h
      exact .identity ho rfl
    · simp only [not_exists, not_and] at hid
      rw [operator_of_no_id ht hid] at h
      split at h
      · cases hfind : ops.find? fun op => op.bears word ∧ op.arity.admits count with
        | none =>
          rw [hfind] at h
          cases h
        | some o =>
          rw [hfind] at h
          cases h
          obtain ⟨⟨hname, hcount⟩, before, after, hops, hbefore⟩ :=
            find?_overload_eq_some_iff.1 hfind
          exact .name hops hid hname hcount hbefore
      · cases h
  · rintro (⟨hop, rfl⟩ | ⟨hops, hid, hname, hcount, hbefore⟩)
    · exact operator_of_id ht hop
    · have hany : ops.any (·.bears word) = true :=
        List.any_eq_true.2 ⟨op, by simp [hops], hname⟩
      have hfind := find?_overload_eq_some_iff.2 ⟨⟨hname, hcount⟩, _, _, hops, hbefore⟩
      rw [operator_of_no_id ht hid, if_pos hany, hfind]
      rfl

theorem operator_eq_error_iff (ht : t.Indexes ops) {e : DocumentError} :
    operator t word count = .error e ↔
      ∃ cause, e = .lookup cause ∧ Unnamed ops word count cause := by
  constructor
  · intro h
    have hid : ∀ o ∈ ops, o.id ≠ word := by
      rintro o ho rfl
      rw [operator_of_id ht ho] at h
      cases h
    rw [operator_of_no_id ht hid] at h
    split at h
    · next hany =>
      cases hfind : ops.find? fun op => op.bears word ∧ op.arity.admits count with
      | some o =>
        rw [hfind] at h
        cases h
      | none =>
        rw [hfind] at h
        cases h
        exact ⟨_, rfl, .noMatchingArity hid (List.any_eq_true.1 hany)
          (find?_overload_eq_none_iff.1 hfind)⟩
    · next hany =>
      cases h
      have hbears : ∀ o ∈ ops, o.bears word = false := by simpa using hany
      exact ⟨_, rfl, .notFound fun o ho => ⟨hid o ho, hbears o ho⟩⟩
  · rintro ⟨_, rfl, hnone | ⟨hid, hany, hcount⟩⟩
    · have hbears : ¬ ops.any (·.bears word) = true := by
        simpa using fun o ho => (hnone o ho).2
      rw [operator_of_no_id ht fun o ho => (hnone o ho).1, if_neg hbears]
    · rw [operator_of_no_id ht hid, if_pos (List.any_eq_true.2 hany),
        find?_overload_eq_none_iff.2 hcount]
      rfl

end

/-! ## Literals -/

theorem scalar_eq_ok_iff {type : TypeName} {j : Json} {v : Value} :
    scalar type j = .ok v ↔ Denotes type j v := by
  constructor
  · intro h
    cases j with
    | null => cases h; exact .null
    | bool b => cases h; exact .bool b
    | int i => cases h; exact .int i
    | float x => cases h; exact .float x
    | arr | obj => cases h
    | str s =>
      simp only [scalar] at h
      split at h
      · next htype =>
        subst htype
        split at h
        · next f hf =>
          cases h
          rw [← TrimFlag.ofKeyword?_eq_some_iff.1 hf]
          exact .flag f
        · cases h
      · next htype =>
        cases h
        exact .string s htype
  · intro h
    cases h with
    | null | bool | int | float => rfl
    | string s htype => simp only [scalar, if_neg htype]
    | flag f => simp only [scalar, if_true, f.ofKeyword?_keyword]

theorem scalar_eq_error_iff {ops : List Operator} {type : TypeName} {j : Json}
    {e : DocumentError} : scalar type j = .error e ↔ Fault ops (.literal j type) e := by
  constructor
  · intro h
    cases j with
    | null | bool | int | float => cases h
    | arr items => cases h; exact .array items
    | obj fields => cases h; exact .object fields
    | str s =>
      simp only [scalar] at h
      split at h
      · next htype =>
        subst htype
        split at h
        · cases h
        · next hnone =>
          cases h
          refine .flag fun f hf => ?_
          rw [TrimFlag.ofKeyword?_eq_some_iff.2 hf] at hnone
          cases hnone
      · cases h
  · intro h
    cases h with
    | array | object => rfl
    | @flag s hflag =>
      have hnone : TrimFlag.ofKeyword? s = none :=
        Option.eq_none_iff_forall_ne_some.2 fun f hf => hflag f (TrimFlag.ofKeyword?_eq_some_iff.1 hf)
      simp only [scalar, if_true, hnone]

/-! ## Calls -/

/-- The call that a word makes of operands that are resolved. -/
def callOf (t : OperatorTable) (word : String) (nodes : List Node) : Except DocumentError Node := do
  let op ← operator t word nodes.length
  let node ← ofBuilt (Node.infer op nodes)
  ofBuilt (Node.checkOperands op nodes)
  return node

theorem resolveAll_eq_mapM (t : OperatorTable) (docs : List Document) :
    resolveAll t docs = docs.mapM (resolve t) := by
  induction docs with
  | nil => rfl
  | cons doc rest ih => rw [resolveAll, List.mapM_cons, ih]

theorem resolve_call (t : OperatorTable) (word : String) (docs : List Document) :
    resolve t (.call word docs) = docs.mapM (resolve t) >>= callOf t word := by
  rw [resolve, resolveAll_eq_mapM]
  rfl

theorem ofBuilt_infer (op : Operator) (nodes : List Node) :
    ofBuilt (Node.infer op nodes) =
      if op.arity.admits nodes.length then
        .ok (.call op nodes (op.returns.infer (Node.types nodes)))
      else .error (.build (.operandCount op.id nodes.length op.arity)) := by
  rw [Node.infer, Node.ofCall]
  split <;> rfl

theorem ofBuilt_checkOperands (op : Operator) (nodes : List Node) :
    ofBuilt (Node.checkOperands op nodes) =
      if op.operands.accepts (Node.types nodes) then .ok ()
      else .error (.build (.operandTypes op.id (Node.types nodes))) := by
  rw [Node.checkOperands]
  split <;> rfl

section

variable {t : OperatorTable} {ops : List Operator} {word : String} {nodes : List Node}

theorem callOf_of_named (ht : t.Indexes ops) {op : Operator} (hop : Named ops word nodes.length op) :
    callOf t word nodes =
      if op.arity.admits nodes.length then
        if op.operands.accepts (Node.types nodes) then
          .ok (.call op nodes (op.returns.infer (Node.types nodes)))
        else .error (.build (.operandTypes op.id (Node.types nodes)))
      else .error (.build (.operandCount op.id nodes.length op.arity)) := by
  rw [callOf, (operator_eq_ok_iff ht).2 hop, ok_bind, ofBuilt_infer, ofBuilt_checkOperands]
  split
  · split <;> rfl
  · rfl

theorem callOf_eq_ok_iff (ht : t.Indexes ops) {n : Node} :
    callOf t word nodes = .ok n ↔ ∃ op, Named ops word nodes.length op ∧
      op.arity.admits nodes.length = true ∧ op.operands.accepts (Node.types nodes) = true ∧
      n = .call op nodes (op.returns.infer (Node.types nodes)) := by
  constructor
  · intro h
    obtain ⟨op, hop, -⟩ := bind_eq_ok_iff.1 h
    rw [operator_eq_ok_iff ht] at hop
    rw [callOf_of_named ht hop] at h
    split at h
    · next hcount =>
      split at h
      · next htypes =>
        cases h
        exact ⟨op, hop, hcount, htypes, rfl⟩
      · cases h
    · cases h
  · rintro ⟨op, hop, hcount, htypes, rfl⟩
    rw [callOf_of_named ht hop, if_pos hcount, if_pos htypes]

theorem callOf_eq_error_iff (ht : t.Indexes ops) {docs : List Document}
    (hnodes : ∀ nodes', List.Forall₂ (StandsFor ops) docs nodes' ↔ nodes' = nodes)
    {e : DocumentError} : callOf t word nodes = .error e ↔ Fault ops (.call word docs) e := by
  have hstands := (hnodes nodes).2 rfl
  have hlength := hstands.length_eq
  constructor
  · intro h
    rcases bind_eq_error_iff.1 h with hop | ⟨op, hop, -⟩
    · obtain ⟨cause, rfl, hcause⟩ := (operator_eq_error_iff ht).1 hop
      exact .lookup (hlength ▸ hcause)
    · rw [operator_eq_ok_iff ht] at hop
      rw [callOf_of_named ht hop] at h
      rw [← hlength] at h hop
      split at h
      · next hcount =>
        split at h
        · cases h
        · next htypes =>
          cases h
          exact .types hstands hop hcount (Bool.eq_false_iff.2 htypes)
      · next hcount =>
        cases h
        exact .count hop (Bool.eq_false_iff.2 hcount)
  · intro h
    cases h with
    | lookup hcause =>
      rw [hlength] at hcause
      rw [callOf, (operator_eq_error_iff ht).2 ⟨_, rfl, hcause⟩]
      rfl
    | count hop hcount =>
      rw [hlength] at hop hcount ⊢
      rw [callOf_of_named ht hop, if_neg (by simp [hcount])]
    | types hnodes' hop hcount htypes =>
      obtain rfl := (hnodes _).1 hnodes'
      rw [hlength] at hop hcount
      rw [callOf_of_named ht hop, if_pos hcount, if_neg (by simp [htypes])]

end

/-! ## Documents -/

section

variable {t : OperatorTable} {ops : List Operator}

/-- A document resolves to what it stands for, or else to what is wrong with it first. -/
def Resolves (t : OperatorTable) (ops : List Operator) (doc : Document) : Prop :=
  (∀ e, doc.resolve t = .error e ↔ FirstOf (Fault ops) doc.places e) ∧
    ∀ n, doc.resolve t = .ok n ↔ StandsFor ops doc n

theorem resolves_call (ht : t.Indexes ops) {word : String} {docs : List Document}
    (hdocs : ∀ doc ∈ docs, Resolves t ops doc) : Resolves t ops (.call word docs) := by
  have hnodes : ∀ nodes, docs.mapM (resolve t) = .ok nodes ↔
      List.Forall₂ (StandsFor ops) docs nodes := fun nodes => by
    rw [mapM_eq_ok_iff]
    exact forall₂_congr_of_mem fun doc hdoc => (hdocs doc hdoc).2
  have hfault : ∀ e, docs.mapM (resolve t) = .error e ↔ FirstOf (Fault ops) (placesAll docs) e :=
    fun e => by
      rw [mapM_eq_error_iff, placesAll_eq_flatMap]
      exact firstOf_flatMap fun doc hdoc => (hdocs doc hdoc).1
  -- Operands resolve in one way only, so a call has one fault at most.
  have hcall : ∀ nodes, docs.mapM (resolve t) = .ok nodes → ∀ e,
      callOf t word nodes = .error e ↔ Fault ops (.call word docs) e := by
    intro nodes h e
    refine callOf_eq_error_iff ht fun nodes' => ?_
    rw [← hnodes, h, Except.ok.injEq, eq_comm]
  constructor
  · intro e
    rw [resolve_call, bind_eq_error_iff, places, firstOf_append, firstOf_singleton, hfault,
      ← forall_not_firstOf]
    simp only [← hfault]
    rw [← exists_ok_iff_forall_ne_error]
    refine or_congr_right ⟨?_, ?_⟩
    · rintro ⟨nodes, h, he⟩
      exact ⟨⟨nodes, h⟩, (hcall nodes h e).1 he⟩
    · rintro ⟨⟨nodes, h⟩, he⟩
      exact ⟨nodes, h, (hcall nodes h e).2 he⟩
  · intro n
    rw [resolve_call, bind_eq_ok_iff]
    constructor
    · rintro ⟨nodes, hdocs, hcall⟩
      obtain ⟨op, hop, hcount, htypes, rfl⟩ := (callOf_eq_ok_iff ht).1 hcall
      have hstands := (hnodes nodes).1 hdocs
      rw [← hstands.length_eq] at hop hcount
      exact .call hstands hop hcount htypes
    · intro h
      cases h with
      | @call _ _ op nodes hstands hop hcount htypes =>
        rw [hstands.length_eq] at hop hcount
        exact ⟨nodes, (hnodes nodes).2 hstands,
          (callOf_eq_ok_iff ht).2 ⟨op, hop, hcount, htypes, rfl⟩⟩

theorem resolves (ht : t.Indexes ops) (doc : Document) : Resolves t ops doc := by
  induction doc using inductOn with
  | call word docs ih => exact resolves_call ht ih
  | input index name type =>
    have hplaces : (Document.input index name type).places = [.input index name type] := rfl
    refine ⟨fun e => ?_, fun n => ⟨fun h => ?_, fun h => ?_⟩⟩
    · rw [hplaces, firstOf_singleton]
      exact ⟨nofun, nofun⟩
    · cases h
      exact .input index name type
    · cases h
      rfl
  | literal j type =>
    have hplaces : (Document.literal j type).places = [.literal j type] := rfl
    refine ⟨fun e => ?_, fun n => ?_⟩
    · rw [hplaces, firstOf_singleton, ← scalar_eq_error_iff, resolve, bind_eq_error_iff]
      simp [pure, Except.pure]
    · rw [resolve, bind_eq_ok_iff]
      constructor
      · rintro ⟨v, hv, h⟩
        cases h
        exact .literal (scalar_eq_ok_iff.1 hv)
      · intro h
        cases h with
        | literal hv => exact ⟨_, scalar_eq_ok_iff.2 hv, rfl⟩

/-- Resolving a document against a table, after any registrations, fails exactly where a place of
it has a fault, with the fault of the first such place, and else gives the expression that the
document stands for. -/
theorem resolve_offerAll {t : OperatorTable} {first : List Operator} (h : Initial t first)
    (registered : List Operator) (doc : Document) :
    (∀ e, doc.resolve (t.offerAll registered) = .error e ↔
      FirstOf (Fault (first ++ t.accepted registered)) doc.places e) ∧
    ∀ n, doc.resolve (t.offerAll registered) = .ok n ↔
      StandsFor (first ++ t.accepted registered) doc n :=
  resolves (h.indexes.offerAll registered) doc

end

namespace Joining

open OperatorTable (standard)
open OperatorTable.Joins (join joins)

def known : List Operator := Catalog.all ++ joins

/-- The operator of three operands is meant, not the one of two that was registered before. -/
theorem named_join : Named known "join" 3 (join "JOIN_3" "JOIN" .three) := by
  have hknown : known =
      (Catalog.all ++ [join "JOIN_2" "Join" .two]) ++ join "JOIN_3" "JOIN" .three :: [] := rfl
  exact .name hknown (by decide) (by decide +kernel) rfl (by decide +kernel)

theorem no_minus_id : ∀ o ∈ known, o.id ≠ "-" := by decide

theorem named_minus : Named known "-" 1 Catalog.unaryMinus := by
  have hknown : known = Catalog.all.take 17 ++ Catalog.unaryMinus :: (Catalog.all.drop 18 ++ joins) :=
    rfl
  exact .name hknown no_minus_id (by decide +kernel) rfl (by decide +kernel)

def joined : Document :=
  .call "join"
    [.call "-" [.literal (.int 3) .integer], .literal (.str "BOTH") .symbol,
     .input 0 (some "key") (.orNull .varchar)]

def node : Node :=
  .call (join "JOIN_3" "JOIN" .three)
    [.call Catalog.unaryMinus [.int 3] (.notNull .integer), .symbol .both,
     .column 0 "key" (.orNull .varchar)] (.notNull .integer)

theorem standsFor : StandsFor known joined node := by
  have hminus : StandsFor known (.call "-" [.literal (.int 3) .integer])
      (.call Catalog.unaryMinus [.int 3] (.notNull .integer)) :=
    .call (.cons (.literal (.int 3)) .nil) named_minus rfl rfl
  exact .call (.cons hminus (.cons (.literal (.flag .both)) (.cons (.input _ _ _) .nil))) named_join
    rfl rfl

/-- A minus of nothing, and a list for a literal behind it. -/
def faulty : Document := .call "join" [.call "-" [], .literal (.arr []) .integer]

theorem fault_minus : Fault known (.call "-" []) (.lookup (.noMatchingArity "-" 0)) :=
  .lookup (.noMatchingArity no_minus_id ⟨Catalog.minus, by decide, by decide +kernel⟩
    (by decide +kernel))

theorem resolve_of_joins :
    Initial standard Catalog.all ∧ joined.resolve (standard.offerAll joins) = .ok node ∧
      faulty.resolve (standard.offerAll joins) = .error (.lookup (.noMatchingArity "-" 0)) := by
  obtain ⟨-, hok⟩ := resolve_offerAll .standard joins joined
  obtain ⟨herror, -⟩ := resolve_offerAll .standard joins faulty
  rw [OperatorTable.Joins.accepted_joins] at hok herror
  refine ⟨.standard, (hok node).2 standsFor, (herror _).2 ?_⟩
  exact ⟨[], _, _, rfl, List.forall_mem_nil _, fault_minus⟩

end Joining

end Document

end RowExpr
