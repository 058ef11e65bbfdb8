import RowExpr.Proofs.Sql.Reading

/-!
# Reading arguments

An open call gathers its operands one by one. Operands between commas are read for any
number of them; the words of a trim, a substring and a null indicator take the place of
commas.
-/

namespace RowExpr.Sql

variable {g : Grammar}

/-- What a grammar needs to know of what stands between operands. -/
structure Separates (g : Grammar) : Prop extends g.Plain where
  comma : g.Spells [.comma] [.mark .comma]
  fromWord : g.Spells [.word "FROM"] [.mark .fromWord]
  forWord : g.Spells [.word "FOR"] [.mark .forWord]

/-! ## Gathering -/

theorem feed_close {form : Form} {done : List Outline}
    (h : marks form (done.length + 1) .close = true) (name : String) (e : Outline)
    (stack : List Frame) :
    (Bracket.call name form done).feed .close e stack =
      some ⟨stack, some (.call name form (done ++ [e]))⟩ := by
  simp [Bracket.feed, h]

theorem feed_more {form : Form} {done : List Outline} {m : Mark} (hm : m ≠ .close)
    (h : marks form (done.length + 1) m = true) (name : String) (e : Outline)
    (stack : List Frame) :
    (Bracket.call name form done).feed m e stack =
      some ⟨.inside (.call name form (done ++ [e])) :: stack, none⟩ := by
  simp [Bracket.feed, h, hm]

section

variable {α : Type} {part : α → Fragment} {outline : α → Outline} {form : Form} {name : String}

theorem leads_arguments (hg : Separates g) {total : Nat}
    (hcomma : ∀ k, 0 < k → k < total → marks form k .comma = true)
    (hclose : marks form total .close = true) {stack : List Frame} {operands : List α}
    (hreads : ∀ n ∈ operands, Reads g (part n) (outline n)) (hne : operands ≠ [])
    {done : List Outline} (htotal : done.length + operands.length = total) :
    Leads g ([Step.comma].intercalate (operands.map fun n => part n 0 0) ++ [.close])
      ⟨.inside (.call name form done) :: stack, none⟩
      ⟨stack, some (.call name form (done ++ operands.map outline))⟩ := by
  induction operands generalizing done with
  | nil => exact absurd rfl hne
  | cons n rest ih =>
    have hn := hreads n List.mem_cons_self
    cases rest with
    | nil =>
      have hlast : marks form (done.length + 1) .close = true := by simpa [← htotal] using hclose
      simpa using hn.feeds (Grammar.spells_close hg.toPlain) (feed_close hlast name _ stack)
    | cons n' rest =>
      simp only [List.length_cons] at htotal
      have hmore : marks form (done.length + 1) .comma = true := hcomma _ (by omega) (by omega)
      have hfirst := hn.feeds hg.comma (feed_more (by decide) hmore name _ stack)
      have hcount : (done ++ [outline n]).length + (n' :: rest).length = total := by
        simp
        omega
      have hrest := ih (fun m hm => hreads m (List.mem_cons_of_mem n hm)) (by simp) hcount
      simpa [List.intercalate, List.intersperse] using hfirst.trans hrest

theorem reads_function (hg : Separates g) (hopen : g.Opens (.call name) (.call name form []))
    {operands : List α} (hreads : ∀ n ∈ operands, Reads g (part n) (outline n))
    (hne : operands ≠ [])
    (hcomma : ∀ k, 0 < k → k < operands.length → marks form k .comma = true)
    (hclose : marks form operands.length .close = true) :
    Reads g (fun _ _ => function name (operands.map part)) (.call name form (operands.map outline)) := by
  apply reads_of_leads
  intro stack
  have harguments : Leads g
      ([Step.comma].intercalate (operands.map fun n => part n 0 0) ++ [.close])
      ⟨.inside (.call name form []) :: stack, none⟩
      ⟨stack, some (.call name form ([] ++ operands.map outline))⟩ :=
    leads_arguments hg hcomma hclose hreads hne (by simp)
  simpa [function, Function.comp_def] using hopen.leads harguments

end

/-! ## Words between operands -/

/-- A trim is open once its flag has been read. -/
theorem reads_standardTrim (hg : Separates g) {name : String} {flag : TrimFlag}
    (hopen : g.Spells [.call name, .word flag.keyword]
      [.opening (.call name .trim [.literal (.flag flag)])])
    {chars source : Fragment} {ec es : Outline} (hchars : Reads g chars ec)
    (hsource : Reads g source es) :
    Reads g (fun _ _ => standardTrim name (fun _ _ => [.word flag.keyword]) chars source)
      (.call name .trim [.literal (.flag flag), ec, es]) := by
  apply reads_of_leads
  intro stack
  have hflag : Leads g [.call name, .word flag.keyword] ⟨stack, none⟩
      ⟨.inside (.call name .trim [.literal (.flag flag)]) :: stack, none⟩ := ⟨_, hopen, rfl⟩
  have hfrom : Leads g (chars 0 0 ++ [.word "FROM"])
      ⟨.inside (.call name .trim [.literal (.flag flag)]) :: stack, none⟩
      ⟨.inside (.call name .trim [.literal (.flag flag), ec]) :: stack, none⟩ :=
    hchars.feeds hg.fromWord rfl
  have hclose : Leads g (source 0 0 ++ [.close])
      ⟨.inside (.call name .trim [.literal (.flag flag), ec]) :: stack, none⟩
      ⟨stack, some (.call name .trim [.literal (.flag flag), ec, es])⟩ :=
    hsource.feeds (Grammar.spells_close hg.toPlain) rfl
  simpa [standardTrim] using hflag.trans (hfrom.trans hclose)

theorem reads_substring (hg : Separates g) {name : String}
    (hopen : g.Opens (.call name) (.call name .substring [])) {source start : Fragment}
    {es et : Outline} (hsource : Reads g source es) (hstart : Reads g start et) :
    Reads g (fun _ _ => substring name [source, start]) (.call name .substring [es, et]) := by
  apply reads_of_leads
  intro stack
  have hfrom : Leads g (source 0 0 ++ [.word "FROM"])
      ⟨.inside (.call name .substring []) :: stack, none⟩
      ⟨.inside (.call name .substring [es]) :: stack, none⟩ := hsource.feeds hg.fromWord rfl
  have hclose : Leads g (start 0 0 ++ [.close])
      ⟨.inside (.call name .substring [es]) :: stack, none⟩
      ⟨stack, some (.call name .substring [es, et])⟩ :=
    hstart.feeds (Grammar.spells_close hg.toPlain) rfl
  simpa [substring] using hopen.leads (hfrom.trans hclose)

theorem reads_substringFor (hg : Separates g) {name : String}
    (hopen : g.Opens (.call name) (.call name .substring [])) {source start length : Fragment}
    {es et el : Outline} (hsource : Reads g source es) (hstart : Reads g start et)
    (hlength : Reads g length el) :
    Reads g (fun _ _ => substring name [source, start, length])
      (.call name .substring [es, et, el]) := by
  apply reads_of_leads
  intro stack
  have hfrom : Leads g (source 0 0 ++ [.word "FROM"])
      ⟨.inside (.call name .substring []) :: stack, none⟩
      ⟨.inside (.call name .substring [es]) :: stack, none⟩ := hsource.feeds hg.fromWord rfl
  have hfor : Leads g (start 0 0 ++ [.word "FOR"])
      ⟨.inside (.call name .substring [es]) :: stack, none⟩
      ⟨.inside (.call name .substring [es, et]) :: stack, none⟩ := hstart.feeds hg.forWord rfl
  have hclose : Leads g (length 0 0 ++ [.close])
      ⟨.inside (.call name .substring [es, et]) :: stack, none⟩
      ⟨stack, some (.call name .substring [es, et, el])⟩ :=
    hlength.feeds (Grammar.spells_close hg.toPlain) rfl
  simpa [substring] using hopen.leads (hfrom.trans (hfor.trans hclose))

/-! ## Null indicators -/

structure Indicates (g : Grammar) : Prop where
  knows : Knows g Catalog.isNull
  caseWhen : g.Spells [.word "CASE WHEN"] [.opening .caseWhen]
  caseEnd : g.Spells [.word "THEN 1 ELSE 0 END"] [.mark .caseEnd]

/-- Truth values are sorted as they are. -/
theorem reads_nullTest (hg : g.Plain) (hi : Indicates g) {d : Dialect}
    (hd : d.has .booleanSortKeys = true) {part : Fragment} {e : Outline} (h : Reads g part e) :
    Reads g (nullIndicator d (some part)) (Catalog.isNull.outline [e]) := by
  simp only [nullIndicator, hd, if_true]
  apply reads_wrap hg
  intro stack left right hcov hbare
  exact readsAt_behind hi.knows rfl h hcov hbare right

theorem reads_nullIndicator (hi : Indicates g) {d : Dialect}
    (hd : d.has .booleanSortKeys = false) {part : Fragment} {e : Outline} (h : Reads g part e) :
    Reads g (nullIndicator d (some part)) (Catalog.nullIndicator.outline [e]) := by
  simp only [nullIndicator, hd, Bool.false_eq_true, if_false]
  apply reads_of_leads
  intro stack
  have hcov : Covers (pending (.inside .caseWhen :: stack)) 0 0 := covers_zero 0 0
  have hbare : Bare Catalog.isNull 0 0 := ⟨Nat.zero_le _, fun h => absurd rfl h⟩
  have htest := readsAt_behind hi.knows rfl h hcov hbare 0
  obtain ⟨ss, hsp, hrun⟩ : Leads g _ ⟨.inside .caseWhen :: stack, none⟩
      ⟨stack, some (Catalog.nullIndicator.outline [e])⟩ := htest.feeds hi.caseEnd rfl
  refine ⟨.opening .caseWhen :: ss, ?_, hrun⟩
  -- The test and what follows it are one word.
  have hcase := hi.caseWhen.append hsp
  rw [List.append_assoc, ← List.append_assoc] at hcase
  apply hcase.of_last
  · intro b
    cases b <;> decide
  · intro b
    rfl

end RowExpr.Sql
