import RowExpr.Proofs.Sql.Precedence
import RowExpr.Proofs.Sql.Token

/-!
# Reading what was written

A grammar says how text becomes symbols, and which operators its signs stand for. A fragment
is read as an expression if, whatever is pending before it, its symbols leave what the
expression itself would leave. Each spelling keeps this.
-/

namespace RowExpr.Sql

structure Grammar where
  operators : List Operator
  lexicon : Lexicon
  symbols : List Token → Option (List Symbol)

namespace Grammar

def scan (g : Grammar) (s : List Char) : Option (List Symbol) :=
  (tokens g.lexicon s).bind g.symbols

/-- The expression that a text is read as. Nothing may be left over. -/
def read (g : Grammar) (s : String) : Option Outline :=
  (g.scan s.toList).bind (parse g.operators)

/-! ## Steps and symbols -/

/-- The text of the steps is read as the symbols, whatever stands around it. -/
structure Spells (g : Grammar) (steps : List Step) (ss : List Symbol) : Prop where
  spaced : ∀ b, spacesAfter b steps = true
  stops : ∀ rest, g.lexicon.Stops (layoutFrom true steps ++ rest)
  scan : ∀ b rest, g.lexicon.Stops rest →
    g.scan (layoutFrom b steps ++ rest) = (g.scan rest).map (ss ++ ·)

variable {g : Grammar}

theorem spacesAfter_append (b : Bool) (as bs : List Step) :
    spacesAfter b (as ++ bs) = spacesAfter (spacesAfter b as) bs := by
  simp [spacesAfter]

theorem Spells.append {as bs : List Step} {ss ts : List Symbol} (ha : g.Spells as ss)
    (hb : g.Spells bs ts) : g.Spells (as ++ bs) (ss ++ ts) := by
  constructor
  · intro b
    rw [spacesAfter_append, hb.spaced]
  · intro rest
    rw [layoutFrom_append, List.append_assoc]
    exact ha.stops _
  · intro b rest hrest
    rw [layoutFrom_append, List.append_assoc, ha.spaced, ha.scan b _ (hb.stops rest),
      hb.scan true rest hrest, Option.map_map]
    simp [Function.comp_def]

/-- Only the text of the last steps counts. -/
theorem Spells.of_last {as bs cs : List Step} {ss : List Symbol} (h : g.Spells (as ++ bs) ss)
    (htext : ∀ b, layoutFrom b cs = layoutFrom b bs)
    (hspaces : ∀ b, spacesAfter b cs = spacesAfter b bs) : g.Spells (as ++ cs) ss := by
  have hlayout : ∀ b, layoutFrom b (as ++ cs) = layoutFrom b (as ++ bs) := by
    intro b
    rw [layoutFrom_append, layoutFrom_append, htext]
  constructor
  · intro b
    rw [spacesAfter_append, hspaces, ← spacesAfter_append, h.spaced]
  · intro rest
    rw [hlayout]
    exact h.stops rest
  · intro b rest hrest
    rw [hlayout, h.scan b rest hrest]

structure Plain (g : Grammar) : Prop where
  symbols_nil : g.symbols [] = some []
  opening : ∀ rest, g.symbols (.opening :: rest) = (g.symbols rest).map (.opening .group :: ·)
  closing : ∀ rest, g.symbols (.closing :: rest) = (g.symbols rest).map (.mark .close :: ·)

theorem scan_nil (hg : g.Plain) : g.scan [] = some [] := by
  simp [Grammar.scan, hg.symbols_nil]

theorem scan_space (rest : List Char) : g.scan (' ' :: rest) = g.scan rest := by
  simp [Grammar.scan]

/-- Tokens that become symbols by themselves do so in front of any text. -/
theorem scan_append {s rest : List Char} (ts : List Token) (ss : List Symbol)
    (hs : tokens g.lexicon (s ++ rest) = (tokens g.lexicon rest).map (ts ++ ·))
    (ht : ∀ more, g.symbols (ts ++ more) = (g.symbols more).map (ss ++ ·)) :
    g.scan (s ++ rest) = (g.scan rest).map (ss ++ ·) := by
  rw [Grammar.scan, hs, Grammar.scan]
  cases tokens g.lexicon rest with
  | none => rfl
  | some more => exact ht more

theorem scan_closing (hg : g.Plain) (rest : List Char) :
    g.scan (')' :: rest) = (g.scan rest).map (.mark .close :: ·) :=
  scan_append (s := [')']) [.closing] [.mark .close] (tokens_closing rest) hg.closing

/-- Steps that begin and end like a word, by the tokens of their text. -/
theorem spells_of_tokens {steps : List Step} (ts : List Token) (ss : List Symbol)
    (hend : ∀ b, spacesAfter b steps = true)
    (hbegin : layoutFrom true steps = ' ' :: layoutFrom false steps)
    (hs : g.lexicon.Splits (layoutFrom false steps) ts)
    (ht : ∀ more, g.symbols (ts ++ more) = (g.symbols more).map (ss ++ ·)) :
    g.Spells steps ss where
  spaced := hend
  stops rest := by
    rw [hbegin]
    exact g.lexicon.stops_space _
  scan b rest hrest := by
    have h := scan_append ts ss (hs rest hrest) ht
    cases b
    · exact h
    · rw [hbegin, List.cons_append, scan_space, h]

theorem spells_word {text : String} {ts : List Token} {ss : List Symbol}
    (hs : g.lexicon.Splits text.toList ts)
    (ht : ∀ more, g.symbols (ts ++ more) = (g.symbols more).map (ss ++ ·)) :
    g.Spells [.word text] ss := by
  apply spells_of_tokens ts ss (fun _ => rfl) rfl _ ht
  simpa [layoutFrom, Step.chars] using hs

structure Opens (g : Grammar) (s : Step) (b : Bracket) : Prop where
  tight : s.spaces = false
  stops : ∀ rest, g.lexicon.Stops (s.chars true ++ rest)
  scan : ∀ sp rest, g.scan (s.chars sp ++ rest) = (g.scan rest).map (.opening b :: ·)

theorem opens_group (hg : g.Plain) : g.Opens .paren .group where
  tight := rfl
  stops rest := g.lexicon.stops_space _
  scan sp rest := by
    have h := scan_append (s := ['(']) [.opening] [.opening .group] (tokens_opening rest) hg.opening
    cases sp
    · exact h
    · exact (scan_space _).trans h

theorem opens_call {name : String} {b : Bracket} (hname : g.lexicon.IsWord name.toList)
    (h : ∀ more, g.symbols (.call name :: more) = (g.symbols more).map (.opening b :: ·)) :
    g.Opens (.call name) b where
  tight := rfl
  stops rest := by
    simpa [Step.chars] using g.lexicon.stops_space _
  scan sp rest := by
    have hs := tokens_call hname rest
    rw [String.ofList_toList] at hs
    have h := scan_append (s := name.toList ++ ['(']) [.call name] [.opening b]
      (by simpa using hs) h
    cases sp
    · simpa [Step.chars] using h
    · simpa [Step.chars, scan_space] using h

theorem Opens.spells {s : Step} {b : Bracket} (hs : g.Opens s b) {steps : List Step}
    {ss : List Symbol} (h : g.Spells steps ss) : g.Spells (s :: steps) (.opening b :: ss) where
  spaced _ := h.spaced s.spaces
  stops rest := by
    simpa [layoutFrom] using hs.stops (layoutFrom s.spaces steps ++ rest)
  scan sp rest hrest := by
    rw [layoutFrom, hs.tight, List.append_assoc, hs.scan, h.scan false rest hrest, Option.map_map]
    rfl

theorem spells_close (hg : g.Plain) : g.Spells [.close] [.mark .close] where
  spaced _ := rfl
  stops rest := g.lexicon.stops_close rest
  scan _ rest _ := scan_closing hg rest

end Grammar

/-! ## Fragments and expressions -/

variable {g : Grammar}

/-- Behind this stack the steps are read as the expression: an operator that binds its left
operand with at most `right` finds what it would find behind the expression itself. -/
def ReadsAt (g : Grammar) (steps : List Step) (e : Outline) (stack : List Frame) (right : Nat) :
    Prop :=
  ∃ ss held rest, g.Spells steps ss ∧ run g.operators ⟨stack, none⟩ ss = some ⟨rest, some held⟩ ∧
    ∀ p ≤ right, settle p held rest = settle p e stack

/-- The fragment is read as the expression between all neighbours. -/
def Reads (g : Grammar) (part : Fragment) (e : Outline) : Prop :=
  ∀ stack left right, Covers (pending stack) left right →
    ReadsAt g (part left right) e stack right

structure Knows (g : Grammar) (op : Operator) : Prop where
  spells : g.Spells [.word op.name] [.sign op.name]
  found : ∃ o, operatorOf? g.operators (op.form == .prefixOp) op.name = some o ∧ o.Like op

def Leads (g : Grammar) (steps : List Step) (r r' : Reading) : Prop :=
  ∃ ss, g.Spells steps ss ∧ run g.operators r ss = some r'

theorem Leads.trans {as bs : List Step} {r r' r'' : Reading} (h : Leads g as r r')
    (h' : Leads g bs r' r'') : Leads g (as ++ bs) r r'' := by
  obtain ⟨ss, hsp, hrun⟩ := h
  obtain ⟨ts, hsp', hrun'⟩ := h'
  refine ⟨ss ++ ts, hsp.append hsp', ?_⟩
  rw [run_append, hrun, Option.bind_some, hrun']

theorem ReadsAt.of_leads {steps : List Step} {e : Outline} {stack : List Frame}
    (h : Leads g steps ⟨stack, none⟩ ⟨stack, some e⟩) (right : Nat) :
    ReadsAt g steps e stack right := by
  obtain ⟨ss, hsp, hrun⟩ := h
  exact ⟨ss, e, stack, hsp, hrun, fun _ _ => rfl⟩

theorem reads_of_leads {steps : List Step} {e : Outline}
    (h : ∀ stack, Leads g steps ⟨stack, none⟩ ⟨stack, some e⟩) : Reads g (fun _ _ => steps) e :=
  fun stack _ right _ => .of_leads (h stack) right

theorem reads_of_operand {steps : List Step} {e : Outline}
    (h : g.Spells steps [.operand e]) : Reads g (fun _ _ => steps) e :=
  reads_of_leads fun _ => ⟨_, h, rfl⟩

/-! ## In brackets -/

theorem Grammar.Opens.leads {s : Step} {b : Bracket} (hs : g.Opens s b) {steps : List Step}
    {stack : List Frame} {r : Reading} (h : Leads g steps ⟨.inside b :: stack, none⟩ r) :
    Leads g (s :: steps) ⟨stack, none⟩ r := by
  obtain ⟨ss, hsp, hrun⟩ := h
  refine ⟨.opening b :: ss, hs.spells hsp, ?_⟩
  rw [← List.singleton_append, run_append]
  exact hrun

theorem ReadsAt.feeds {steps after : List Step} {e : Outline} {b : Bracket} {stack : List Frame}
    (h : ReadsAt g steps e (.inside b :: stack) 0) {m : Mark} (hm : g.Spells after [.mark m])
    {r : Reading} (hr : b.feed m e stack = some r) :
    Leads g (steps ++ after) ⟨.inside b :: stack, none⟩ r := by
  obtain ⟨ss, held, rest, hsp, hrun, hset⟩ := h
  refine ⟨ss ++ [.mark m], hsp.append hm, ?_⟩
  rw [run_append, hrun, Option.bind_some]
  simp [run, step, proceed, hset 0 (Nat.le_refl 0), settle, endOperand, hr]

theorem Reads.feeds {part : Fragment} {e : Outline} (h : Reads g part e) {after : List Step}
    {m : Mark} (hm : g.Spells after [.mark m]) {b : Bracket} {stack : List Frame} {r : Reading}
    (hr : b.feed m e stack = some r) :
    Leads g (part 0 0 ++ after) ⟨.inside b :: stack, none⟩ r :=
  (h (.inside b :: stack) 0 0 (covers_zero 0 0)).feeds hm hr

/-- In parentheses nothing is pending. -/
theorem reads_wrap (hg : g.Plain) {op : Operator} {body : Fragment} {e : Outline}
    (h : ∀ stack left right, Covers (pending stack) left right → Bare op left right →
      ReadsAt g (body left right) e stack right) :
    Reads g (wrap op.leftPrec op.rightPrec body) e := by
  intro stack left right hcov
  rw [wrap]
  split
  · have hbody := h (.inside .group :: stack) 0 0 (covers_zero 0 0)
      ⟨Nat.zero_le _, fun h => absurd rfl h⟩
    have hclosed : Leads g (body 0 0 ++ [.close]) ⟨.inside .group :: stack, none⟩
        ⟨stack, some e⟩ := hbody.feeds (Grammar.spells_close hg) rfl
    exact .of_leads ((Grammar.opens_group hg).leads hclosed) right
  · next hp => exact h stack left right hcov (bare_of_not_needsParens (by simpa using hp))

/-! ## Operators beside their operands -/

theorem Bare.lt_rightPrec {op : Operator} {left right : Nat} (h : Bare op left right)
    (hpos : 0 < op.rightPrec) {p : Nat} (hp : p ≤ right) : p < op.rightPrec := by
  by_cases h0 : right = 0
  · omega
  · have := h.right h0
    omega

theorem run_sign {ops : List Operator} {name : String} {o : Operator} {held e : Outline}
    {rest stack : List Frame} (hfound : operatorOf? ops false name = some o)
    (hset : settle o.leftPrec held rest = (e, stack)) :
    run ops ⟨rest, some held⟩ [.sign name] = some (follow o (e, stack)) := by
  simp [run, step, proceed, hfound, hset]

theorem reads_between (hg : g.Plain) {op : Operator} (hop : Knows g op) (hform : op.form = .binary)
    (hpos : 0 < op.rightPrec) {a b : Fragment} {ea eb : Outline} (ha : Reads g a ea)
    (hb : Reads g b eb) :
    Reads g (wrap op.leftPrec op.rightPrec (between op [a, b])) (op.outline [ea, eb]) := by
  apply reads_wrap hg
  intro stack left right hcov hbare
  obtain ⟨o, hfound, hlike⟩ := hop.found
  rw [hform] at hfound
  obtain ⟨ss, held, rest, hsp, hrun, hset⟩ := ha stack left op.leftPrec (hcov.leftOperand hbare)
  have hpending : Covers (pending (.infixed ea o :: stack)) op.rightPrec right := by
    rw [pending, hlike.rightPrec]
    exact covers_self _ _
  obtain ⟨ts, held', rest', hsp', hrun', hset'⟩ := hb _ op.rightPrec right hpending
  have hsettle : settle o.leftPrec held rest = (ea, stack) := by
    rw [hlike.leftPrec, hset _ (Nat.le_refl _)]
    exact settle_eq_self (hcov op hbare.left hbare.right) ea
  refine ⟨ss ++ ([.sign op.name] ++ ts), held', rest', ?_, ?_, ?_⟩
  · exact hsp.append (hop.spells.append hsp')
  · have hsign : run g.operators ⟨rest, some held⟩ [.sign op.name] =
        some ⟨.infixed ea o :: stack, none⟩ := by
      rw [run_sign hfound hsettle]
      simp [follow, hlike.form, hform]
    rw [run_append, hrun, Option.bind_some, run_append, hsign, Option.bind_some, hrun']
  · intro p hp
    have hlt : p < o.rightPrec := by
      rw [hlike.rightPrec]
      exact hbare.lt_rightPrec hpos hp
    rw [hset' p hp, settle_infixed hlt, hlike.outline]

theorem reads_before (hg : g.Plain) {op : Operator} (hop : Knows g op)
    (hform : op.form = .prefixOp) (hpos : 0 < op.rightPrec) {a : Fragment} {e : Outline}
    (ha : Reads g a e) :
    Reads g (wrap op.leftPrec op.rightPrec fun _ _ => before op [a]) (op.outline [e]) := by
  apply reads_wrap hg
  intro stack left right hcov hbare
  obtain ⟨o, hfound, hlike⟩ := hop.found
  rw [hform] at hfound
  have hpending : Covers (pending (.prefixed o :: stack)) op.leftPrec op.rightPrec := by
    rw [pending, hlike.rightPrec]
    exact covers_prefixOperand op
  obtain ⟨ss, held, rest, hsp, hrun, hset⟩ := ha _ op.leftPrec op.rightPrec hpending
  refine ⟨[.sign op.name] ++ ss, held, rest, ?_, ?_, ?_⟩
  · simpa [before] using hop.spells.append hsp
  · have hsign : run g.operators ⟨stack, none⟩ [.sign op.name] =
        some ⟨.prefixed o :: stack, none⟩ := by
      have hfound : operatorOf? g.operators true op.name = some o := hfound
      simp [run, step, begin, hfound]
    rw [run_append, hsign, Option.bind_some, hrun]
  · intro p hp
    have hlt : p < op.rightPrec := hbare.lt_rightPrec hpos hp
    rw [hset p (Nat.le_of_lt hlt), settle_prefixed (by rwa [hlike.rightPrec]), hlike.outline]

theorem readsAt_behind {op : Operator} (hop : Knows g op) (hform : op.form = .postfixOp)
    {a : Fragment} {e : Outline} (ha : Reads g a e) {stack : List Frame} {left right : Nat}
    (hcov : Covers (pending stack) left right) (hbare : Bare op left right) (limit : Nat) :
    ReadsAt g (a left op.leftPrec ++ [.word op.name]) (op.outline [e]) stack limit := by
  obtain ⟨o, hfound, hlike⟩ := hop.found
  rw [hform] at hfound
  obtain ⟨ss, held, rest, hsp, hrun, hset⟩ := ha stack left op.leftPrec (hcov.leftOperand hbare)
  have hsettle : settle o.leftPrec held rest = (e, stack) := by
    rw [hlike.leftPrec, hset _ (Nat.le_refl _)]
    exact settle_eq_self (hcov op hbare.left hbare.right) e
  refine ⟨ss ++ [.sign op.name], op.outline [e], stack, hsp.append hop.spells, ?_, fun _ _ => rfl⟩
  rw [run_append, hrun, Option.bind_some, run_sign hfound hsettle]
  simp [follow, hlike.form, hform, hlike.outline]

theorem reads_behind (hg : g.Plain) {op : Operator} (hop : Knows g op)
    (hform : op.form = .postfixOp) {a : Fragment} {e : Outline} (ha : Reads g a e) :
    Reads g (wrap op.leftPrec op.rightPrec (behind op [a])) (op.outline [e]) := by
  apply reads_wrap hg
  intro stack left right hcov hbare
  simpa [behind] using readsAt_behind hop hform ha hcov hbare right

/-! ## Whole texts -/

theorem Reads.read_layout (hg : g.Plain) {part : Fragment} {e : Outline} (h : Reads g part e) :
    g.read (layout (part 0 0)) = some e := by
  obtain ⟨ss, held, rest, hsp, hrun, hset⟩ := h [] 0 0 (covers_zero 0 0)
  have hscan := hsp.scan false [] (by simp [Lexicon.Stops])
  rw [List.append_nil, Grammar.scan_nil hg] at hscan
  have hsettle : settle 0 held rest = (e, []) := hset 0 (Nat.le_refl 0)
  have hfinish : finish ⟨rest, some held⟩ = some e := by
    simp [finish, hsettle]
  rw [Grammar.read, layout, String.toList_ofList, hscan]
  simp [parse, hrun, hfinish]

end RowExpr.Sql
