import RowExpr.Yaml.Cell

/-!
# YAML block scalars

Scalars that are written on the lines below a mark: literally, or with their lines folded.
-/

namespace RowExpr.Yaml

/-- What becomes of the line breaks at the end. -/
inductive Chomp
  | strip
  /-- The first one stays. -/
  | clip
  | keep
  deriving DecidableEq, Repr, Inhabited

/-! ## Headers -/

def chomp? (c : Char) : Option Chomp := [('+', .keep), ('-', .strip)].lookup c

def takeChomp (cs : Cells) : Option Chomp × Cells :=
  match cs.head?.bind (chomp? ·.char) with
  | some chomp => (some chomp, cs.drop 1)
  | none => (none, cs)

/-- A digit that says how far the lines are indented. It may be left out, but not be zero. -/
def takeWidth? (cs : Cells) : Option (Option Nat × Cells) :=
  if nextIs (· == '0') cs then none
  else if nextIs Char.isDigit cs then
    some (cs.head?.map fun c => c.char.toNat - '0'.toNat, cs.drop 1)
  else some (none, cs)

/-- How the scalar ends, how far it is indented beyond what it is in, and its lines. -/
def blockHeader? (cs : Cells) : Option (Chomp × Option Nat × Cells) := do
  let (before, rest) := takeChomp cs
  let (width, rest) ← takeWidth? rest
  let (chomp, rest) := if before.isSome then (before, rest) else takeChomp rest
  return (chomp.getD .clip, width, ← endLine? rest)

/-! ## Lines -/

/-- Spaces and line breaks before a line of the scalar. Of spaces only those left of `limit`
count, where there is one, and no tab may stand among them. -/
structure Margin where
  breaks : List Char
  /-- The rightmost column in which one of the lines ends. -/
  deepest : Nat
  rest : Cells

def margin? (limit : Option Nat) (breaks : List Char) (deepest : Nat) : Cells → Option Margin
  | [] => some ⟨breaks.reverse, deepest, []⟩
  | c :: rest =>
    let inMargin := limit.all (decide <| c.column < ·)
    if c.char = ' ' && inMargin then margin? limit breaks deepest rest
    else if c.char = '\t' && inMargin then none
    else if isBreak c.char then margin? limit (c.char :: breaks) (max deepest c.column) rest
    else some ⟨breaks.reverse, max deepest c.column, c :: rest⟩

/-- The line breaks between two lines: the one that ends the first, and the others. The first
is folded between lines that do not begin with a blank. -/
def between (folds : Bool) (first others : List Char) : List Char :=
  if folds && first == ['\n'] then (if others.isEmpty then [' '] else others)
  else first ++ others

/-- The lines from one at `indent` on. `done` is held last character first; `first` is the
line break behind it, `others` are those behind that, and `blank` says whether the line before
them began with a blank. -/
def blockLines (literal : Bool) (chomp : Chomp) (indent : Nat) :
    Nat → List Char → List Char → List Char → Bool → Cells → Option (String × Cells)
  | 0, _, _, _, _, _ => none
  | fuel + 1, done, first, others, blank, cs =>
    if cs.head?.any (·.column == indent) then
      let startsBlank := nextIs isGap cs
      let folds := !literal && !blank && !startsBlank
      let (line, rest) := cs.span (!isBreak ·.char)
      let done := (chars line).reverse ++ (between folds first others).reverse ++ done
      match margin? (some indent) [] 0 (rest.drop 1) with
      | some margin =>
        blockLines literal chomp indent fuel done (chars (rest.take 1)) margin.breaks
          startsBlank margin.rest
      | none => none
    else
      let tail := match chomp with
        | .strip => []
        | .clip => first
        | .keep => first ++ others
      some (String.ofList (done.reverse ++ tail), cs)

/-- A block scalar behind its mark. `parent` is the column of what it is in. Where the header
does not say how far its lines are indented, the first of them does. -/
def blockScalar? (literal : Bool) (parent : Option Nat) (cs : Cells) :
    Option (String × Cells) := do
  let (chomp, width, rest) ← blockHeader? cs
  let limit := width.map (parent.getD 0 + ·)
  let margin ← margin? limit [] 0 rest
  let indent := limit.getD (max margin.deepest (parent.elim 1 (· + 1)))
  blockLines literal chomp indent (cs.length + 1) [] [] margin.breaks false margin.rest

end RowExpr.Yaml
