import Mathlib.Data.List.DropRight
import RowExpr.Proofs.Host.Binding
import RowExpr.Sql.Trim

/-!
# Trims by patterns

What a pattern means to an engine that replaces its matches: how it is read, which match is
preferred, and what is left of a text once every match has been taken out. The pattern of a
character leaves what the host's trim leaves (`invoke_trim_eq_delete`).
-/

namespace RowExpr.Sql

inductive Pattern
  | nothing
  | char (c : Char)
  | start
  | stop
  | seq (p q : Pattern)
  | either (p q : Pattern)
  | star (p : Pattern)
  deriving DecidableEq, Repr

namespace Pattern

/-! ## Reading -/

inductive Sign
  | plain (c : Char)
  | special (c : Char)
  deriving DecidableEq, Repr

/-- Characters that stand for themselves only behind a backslash. -/
def specials : List Char :=
  ['\\', '^', '$', '|', '(', ')', '*', '+', '?', '.', '[', ']', '\x7b', '\x7d']

def signs : List Char → Option (List Sign)
  | [] => some []
  | c :: rest =>
    if c = '\\' then
      match rest with
      | [] => none
      | d :: rest => if d.isAlphanum then none else (signs rest).map (.plain d :: ·)
    else (signs rest).map ((if c ∈ specials then .special c else .plain c) :: ·)

/-- What has been read of a group: the branches before the last one, and the pieces of the
last one, the latest first. -/
structure Group where
  branches : Option Pattern := none
  pieces : List Pattern := []

namespace Group

def add (g : Group) (p : Pattern) : Group := { g with pieces := p :: g.pieces }

def branch (g : Group) : Pattern := g.pieces.foldl (fun p q => .seq q p) .nothing

def pattern (g : Group) : Pattern :=
  match g.branches with
  | none => g.branch
  | some p => .either p g.branch

end Group

/-- Reads one more sign. Signs that no trim needs are refused. -/
def readSign : List Group → Sign → Option (List Group)
  | g :: outer, .plain c => some (g.add (.char c) :: outer)
  | g :: outer, .special '^' => some (g.add .start :: outer)
  | g :: outer, .special '$' => some (g.add .stop :: outer)
  | g :: outer, .special '|' => some ({ branches := some g.pattern } :: outer)
  | g :: outer, .special '(' => some ({} :: g :: outer)
  | g :: h :: outer, .special ')' => some (h.add g.pattern :: outer)
  | ⟨branches, p :: pieces⟩ :: outer, .special '*' => some (⟨branches, .star p :: pieces⟩ :: outer)
  | _, _ => none

/-- The groups that are open behind a text, the innermost first. -/
def scan (groups : List Group) (s : List Char) : Option (List Group) :=
  (signs s).bind (·.foldlM readSign groups)

/-- The pattern that a text is read as. Every group has to be closed. -/
def read (s : List Char) : Option Pattern :=
  match scan [{}] s with
  | some [g] => some g.pattern
  | _ => none

/-! ## Matching -/

/-- What is left behind as many repetitions as there are, then behind fewer. A repetition that
takes nothing does not count. -/
def repeats (one : List Char → List (List Char)) (s : List Char) : List (List Char) :=
  ((one s).flatMap fun t => if _ : t.length < s.length then repeats one t else []) ++ [s]
termination_by s.length

/-- What is left behind the matches at the head of `s`, the preferred one first. `whole` is the
length of the text that is searched: only its start has as much before it. -/
def rests (whole : Nat) : Pattern → List Char → List (List Char)
  | nothing, s => [s]
  | char c, s => if s.head? = some c then [s.tail] else []
  | start, s => if s.length = whole then [s] else []
  | stop, s => if s = [] then [s] else []
  | seq p q, s => (p.rests whole s).flatMap (q.rests whole)
  | either p q, s => p.rests whole s ++ q.rests whole s
  | star p, s => repeats (p.rests whole) s

/-- What is left behind the match at the head of `s`; all of it where there is none. -/
def behind (p : Pattern) (whole : Nat) (s : List Char) : List Char :=
  (p.rests whole s).headD s

/-- Takes out the matches from here on, from left to right. Where nothing is matched, a character
stays and the search goes on behind it. -/
def deleteFrom (p : Pattern) (whole : Nat) (s : List Char) : List Char :=
  match s with
  | [] => []
  | c :: rest =>
    if _ : (p.behind whole (c :: rest)).length < (c :: rest).length then
      p.deleteFrom whole (p.behind whole (c :: rest))
    else c :: p.deleteFrom whole rest
termination_by s.length
decreasing_by
  · assumption
  · exact Nat.lt_succ_self rest.length

def delete (p : Pattern) (s : List Char) : List Char := p.deleteFrom s.length s

/-! ## The text of a trim -/

/-- These characters, one after another. -/
def word (s : List Char) : Pattern := (s.map char).foldr seq nothing

def leading (s : List Char) : Pattern := start.seq ((star (word s)).seq nothing)

def trailing (s : List Char) : Pattern := (star (word s)).seq (stop.seq nothing)

def ofTrim (flag : TrimFlag) (s : List Char) : Pattern :=
  match flag with
  | .both => (leading s).either (trailing s)
  | .leading => leading s
  | .trailing => trailing s

theorem signs_special {c : Char} (hc : c ∈ specials) (hslash : c ≠ '\\') (rest : List Char) :
    signs (c :: rest) = (signs rest).map (.special c :: ·) := by
  rw [signs.eq_def]
  simp [hc, hslash]

theorem signs_plain {c : Char} (hc : c ∉ specials) (rest : List Char) :
    signs (c :: rest) = (signs rest).map (.plain c :: ·) := by
  have hslash : c ≠ '\\' := by
    rintro rfl
    exact hc (by decide)
  rw [signs.eq_def]
  simp [hc, hslash]

theorem signs_escaped {c : Char} (hc : c.isAlphanum = false) (rest : List Char) :
    signs ('\\' :: c :: rest) = (signs rest).map (.plain c :: ·) := by
  rw [signs.eq_def]
  simp [hc]

section

variable {groups groups' : List Group} {c : Char}

theorem scan_nil (groups : List Group) : scan groups [] = some groups := rfl

theorem scan_of_signs {sign : Sign} {s rest : List Char}
    (hs : signs s = (signs rest).map (sign :: ·)) (h : readSign groups sign = some groups') :
    scan groups s = scan groups' rest := by
  rw [scan, hs, scan, Option.bind_map]
  congr 1
  funext ss
  simp [List.foldlM_cons, h]

theorem scan_special (hc : c ∈ specials) (hslash : c ≠ '\\')
    (h : readSign groups (.special c) = some groups') (rest : List Char) :
    scan groups (c :: rest) = scan groups' rest :=
  scan_of_signs (signs_special hc hslash rest) h

/-- Whatever is escaped stands for itself. -/
theorem scan_escapePattern (g : Group) (outer : List Group) (s rest : List Char) :
    scan (g :: outer) (escapePattern s ++ rest) =
      scan ({ g with pieces := (s.map char).reverse ++ g.pieces } :: outer) rest := by
  induction s generalizing g with
  | nil => rfl
  | cons c more ih =>
    have hcons : escapePattern (c :: more) ++ rest =
        (if patternSpecials.contains c then ['\\', c] else [c]) ++ (escapePattern more ++ rest) := by
      simp [escapePattern]
    have hsigns : signs (escapePattern (c :: more) ++ rest) =
        (signs (escapePattern more ++ rest)).map (.plain c :: ·) := by
      rw [hcons]
      by_cases hc : c ∈ patternSpecials
      · have halnum : patternSpecials.all (!·.isAlphanum) = true := by decide
        rw [if_pos (by simpa using hc)]
        exact signs_escaped (by simpa using List.all_eq_true.1 halnum c hc) _
      · have hspecials : specials.all (patternSpecials.contains ·) = true := by decide
        rw [if_neg (by simpa using hc)]
        exact signs_plain (fun h => hc (by simpa using List.all_eq_true.1 hspecials c h)) _
    rw [scan_of_signs hsigns rfl, ih]
    simp [Group.add]

theorem scan_repeated (g : Group) (outer : List Group) (s rest : List Char) :
    scan (g :: outer) (repeated s ++ rest) = scan (g.add (star (word s)) :: outer) rest := by
  have hword (g : Group) : (⟨none, (s.map char).reverse ++ []⟩ : Group).pattern = word s := by
    simp [Group.pattern, Group.branch, word]
  have hsplit : repeated s ++ rest = '(' :: (escapePattern s ++ ')' :: '*' :: rest) := by
    simp [repeated]
  calc scan (g :: outer) (repeated s ++ rest)
      = scan ({} :: g :: outer) (escapePattern s ++ ')' :: '*' :: rest) := by
        rw [hsplit, scan_special (by decide) (by decide) rfl]
    _ = scan (g.add (word s) :: outer) ('*' :: rest) := by
        rw [scan_escapePattern, scan_special (by decide) (by decide) rfl, hword g]
    _ = scan (g.add (star (word s)) :: outer) rest := scan_special (by decide) (by decide) rfl _

end

theorem read_trimPattern (flag : TrimFlag) (s : List Char) :
    read (trimPattern flag s) = some (ofTrim flag s) := by
  have hleading (rest : List Char) : scan [{}] ('^' :: repeated s ++ rest) =
      scan [⟨none, [star (word s), start]⟩] rest := by
    rw [List.cons_append, scan_special (by decide) (by decide) rfl, scan_repeated]
    rfl
  have htrailing (branches : Option Pattern) : scan [⟨branches, []⟩] (repeated s ++ ['$']) =
      some [⟨branches, [stop, star (word s)]⟩] := by
    rw [scan_repeated, scan_special (by decide) (by decide) rfl]
    rfl
  cases flag with
  | both =>
    have hscan : scan [{}] (trimPattern .both s) =
        some [⟨some (leading s), [stop, star (word s)]⟩] := by
      rw [trimPattern, hleading, scan_special (by decide) (by decide) rfl, htrailing]
      rfl
    rw [read, hscan]
    rfl
  | leading =>
    have hscan : scan [{}] (trimPattern .leading s) = some [⟨none, [star (word s), start]⟩] := by
      have h := hleading []
      rwa [List.append_nil] at h
    rw [read, hscan]
    rfl
  | trailing =>
    rw [read, trimPattern, htrailing]
    rfl

/-! ## One character -/

/-- What is left behind one `c`, if there is one. -/
def taken (c : Char) (s : List Char) : List (List Char) := if s.head? = some c then [s.tail] else []

section

variable (c : Char) (whole : Nat)

theorem rests_word : (word [c]).rests whole = taken c := by
  funext s
  by_cases h : s.head? = some c <;> simp [word, rests, taken, h]

theorem repeats_taken_cons (s : List Char) :
    repeats (taken c) (c :: s) = repeats (taken c) s ++ [c :: s] := by
  rw [repeats]
  simp [taken]

theorem repeats_taken_of_ne {d : Char} (hd : d ≠ c) (s : List Char) :
    repeats (taken c) (d :: s) = [d :: s] := by
  rw [repeats]
  simp [taken, hd]

theorem repeats_taken_nil : repeats (taken c) [] = [[]] := by
  rw [repeats]
  simp [taken]

theorem head?_repeats_taken (s : List Char) :
    (repeats (taken c) s).head? = some (s.dropWhile (· == c)) := by
  induction s with
  | nil => simp [repeats_taken_nil]
  | cons d rest ih =>
    by_cases hd : d = c
    · subst hd
      simp [repeats_taken_cons, ih]
    · simp [repeats_taken_of_ne c hd, hd]

theorem flatMap_repeats_taken (s : List Char) :
    (repeats (taken c) s).flatMap ((stop.seq nothing).rests whole) =
      if s.all (· == c) then [[]] else [] := by
  have hstop (d : Char) (t : List Char) : (stop.seq nothing).rests whole (d :: t) = [] := by
    simp [rests]
  induction s with
  | nil => simp [repeats_taken_nil, rests]
  | cons d rest ih =>
    by_cases hd : d = c
    · subst hd
      rw [repeats_taken_cons, List.flatMap_append, ih, List.flatMap_singleton, hstop]
      simp
    · rw [repeats_taken_of_ne c hd, List.flatMap_singleton, hstop]
      simp [hd]

theorem rests_leading (s : List Char) :
    (leading [c]).rests whole s = if s.length = whole then repeats (taken c) s else [] := by
  simp only [leading, rests, rests_word]
  split <;> simp

theorem rests_trailing (s : List Char) :
    (trailing [c]).rests whole s = if s.all (· == c) then [[]] else [] := by
  rw [trailing, rests, rests, rests_word, flatMap_repeats_taken]

end

/-! ## Taking out -/

section

variable {p : Pattern} {whole : Nat} {c : Char}

theorem deleteFrom_of_shorter {s : List Char} (h : (p.behind whole s).length < s.length) :
    p.deleteFrom whole s = p.deleteFrom whole (p.behind whole s) := by
  cases s with
  | nil => simp at h
  | cons d rest => rw [deleteFrom, dif_pos h]

theorem deleteFrom_of_behind_eq {d : Char} {rest : List Char}
    (h : p.behind whole (d :: rest) = d :: rest) :
    p.deleteFrom whole (d :: rest) = d :: p.deleteFrom whole rest := by
  rw [deleteFrom, dif_neg (by simp [h])]

theorem deleteFrom_nil : p.deleteFrom whole [] = [] := by
  rw [deleteFrom]

/-- Where nothing is matched before the end, all is kept. -/
theorem deleteFrom_of_none {s : List Char} (h : ∀ t, t <:+ s → p.rests whole t = []) :
    p.deleteFrom whole s = s := by
  induction s with
  | nil => exact deleteFrom_nil
  | cons d rest ih =>
    have hhere : p.behind whole (d :: rest) = d :: rest := by
      simp [behind, h _ List.suffix_rfl]
    rw [deleteFrom_of_behind_eq hhere, ih fun t ht => h t (ht.trans (List.suffix_cons d rest))]

theorem rdropWhile_cons {d : Char} {rest : List Char}
    (h : (d :: rest).all (· == c) = false) :
    (d :: rest).rdropWhile (· == c) = d :: rest.rdropWhile (· == c) := by
  unfold List.rdropWhile
  rw [List.reverse_cons, List.dropWhile_append]
  split
  · next hnil =>
    have hrest : rest.all (· == c) = true := by
      simpa [List.dropWhile_eq_nil_iff] using hnil
    have hd : d ≠ c := by simpa [hrest] using h
    simp [List.isEmpty_iff.1 hnil, hd]
  · simp

/-- A pattern that matches, before anything else, the characters `c` up to the end. -/
theorem deleteFrom_of_end {s : List Char}
    (h : ∀ t, t <:+ s → p.rests whole t = if t.all (· == c) then [[]] else []) :
    p.deleteFrom whole s = s.rdropWhile (· == c) := by
  induction s with
  | nil => exact deleteFrom_nil
  | cons d rest ih =>
    have hhere := h _ List.suffix_rfl
    cases hall : (d :: rest).all (· == c) with
    | true =>
      have hbehind : p.behind whole (d :: rest) = [] := by
        rw [behind, hhere, hall]
        rfl
      rw [deleteFrom_of_shorter (by simp [hbehind]), hbehind, deleteFrom_nil,
        List.rdropWhile_eq_nil_iff.2 (by simpa using hall)]
    | false =>
      have hbehind : p.behind whole (d :: rest) = d :: rest := by
        rw [behind, hhere, hall]
        rfl
      rw [deleteFrom_of_behind_eq hbehind, rdropWhile_cons hall,
        ih fun t ht => h t (ht.trans (List.suffix_cons d rest))]

/-- A pattern that matches the characters `c` at the start; what follows is taken care of by
`f`, which keeps a first character that is not `c`. -/
theorem delete_of_start {f : List Char → List Char} {s : List Char}
    (hstart : (p.rests s.length s).head? = some (s.dropWhile (· == c)))
    (hrest : ∀ t, t.length < s.length → p.deleteFrom s.length t = f t)
    (hkeep : ∀ d rest, d ≠ c → f (d :: rest) = d :: f rest) (hnil : f [] = []) :
    p.delete s = f (s.dropWhile (· == c)) := by
  have hbehind : p.behind s.length s = s.dropWhile (· == c) := by
    rw [behind, List.headD_eq_head?_getD, hstart, Option.getD_some]
  cases s with
  | nil => rw [delete, deleteFrom_nil, List.dropWhile_nil, hnil]
  | cons d rest =>
    by_cases hd : d = c
    · subst hd
      have hshorter : ((d :: rest).dropWhile (· == d)).length < (d :: rest).length := by
        have := (List.dropWhile_suffix (· == d) (l := rest)).length_le
        simp only [List.dropWhile_cons, beq_self_eq_true, if_true, List.length_cons]
        omega
      rw [delete, deleteFrom_of_shorter (by rwa [hbehind]), hbehind, hrest _ hshorter]
    · have hsame : (d :: rest).dropWhile (· == c) = d :: rest := by simp [hd]
      rw [delete, deleteFrom_of_behind_eq (by rw [hbehind, hsame]), hrest rest (by simp), hsame,
        hkeep d rest hd]

end

theorem delete_ofTrim (flag : TrimFlag) (c : Char) (s : List Char) :
    (ofTrim flag [c]).delete s = Host.Function.trimChar flag c s := by
  have hkeep (d : Char) (rest : List Char) (hd : d ≠ c) :
      (d :: rest).rdropWhile (· == c) = d :: rest.rdropWhile (· == c) :=
    rdropWhile_cons (by simp [hd])
  cases flag with
  | both =>
    have hstart : (ofTrim .both [c]).rests s.length s =
        repeats (taken c) s ++ (trailing [c]).rests s.length s := by
      rw [ofTrim, rests, rests_leading, if_pos rfl]
    refine delete_of_start (f := List.rdropWhile (· == c)) ?_ ?_ hkeep rfl
    · rw [hstart, List.head?_append, head?_repeats_taken, Option.some_or]
    · intro t ht
      apply deleteFrom_of_end
      intro u hu
      have hu : u.length ≠ s.length := by
        have := hu.length_le
        omega
      rw [ofTrim, rests, rests_leading, if_neg hu, rests_trailing, List.nil_append]
  | leading =>
    refine delete_of_start (f := id) ?_ ?_ (fun _ _ _ => rfl) rfl
    · rw [ofTrim, rests_leading, if_pos rfl, head?_repeats_taken]
    · intro t ht
      apply deleteFrom_of_none
      intro u hu
      have hu : u.length ≠ s.length := by
        have := hu.length_le
        omega
      rw [ofTrim, rests_leading, if_neg hu]
  | trailing => exact deleteFrom_of_end fun t _ => rests_trailing c s.length t

theorem invoke_trim (flag : TrimFlag) (c : Char) (s : String) :
    Host.MethodTable.standard.invoke Host.Standard.owner "trim"
        [.flag flag, .string (String.singleton c), .string s] =
      .ok (.string (String.ofList (Host.Function.trimChar flag c s.toList))) := by
  have hresolve : Host.MethodTable.standard.resolve Host.Standard.owner "trim" 3 =
      some (Host.Standard.strictMethod "trim"
        [.inBox .symbol, Host.Standard.stringType, Host.Standard.stringType]
        Host.Standard.stringType Host.Standard.trimBody) := by
    rw [Host.MethodTable.standard, Host.MethodTable.resolve_ofList]
    rfl
  simp only [Host.MethodTable.invoke, List.length_cons, List.length_nil, hresolve,
    Host.Standard.strictMethod, Host.strict, List.any_cons, List.any_nil, Value.isNull,
    Host.Standard.trimBody, Host.flagArg, Host.stringArg]
  simp [bind, Except.bind, pure, Except.pure]

/-- The pattern of a character can be read, and taking its matches out of a text leaves what the
host's trim makes of the text. -/
theorem invoke_trim_eq_delete (flag : TrimFlag) (c : Char) (s : String) :
    ∃ p, read (trimPattern flag [c]) = some p ∧
      Host.MethodTable.standard.invoke Host.Standard.owner "trim"
          [.flag flag, .string (String.singleton c), .string s] =
        .ok (.string (String.ofList (p.delete s.toList))) := by
  refine ⟨ofTrim flag [c], read_trimPattern flag [c], ?_⟩
  rw [invoke_trim, delete_ofTrim]

example : trimPattern .both ['.'] = "^(\\.)*|(\\.)*$".toList := by decide

end Pattern

end RowExpr.Sql
