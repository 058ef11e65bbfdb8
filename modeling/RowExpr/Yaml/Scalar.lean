import RowExpr.Json.Reader
import RowExpr.Yaml.Cell

/-!
# YAML scalars

Quoted scalars, and plain ones. Both may run over lines, which are folded.
-/

namespace RowExpr.Yaml

/-! ## Folding -/

/-- What line breaks inside a scalar become: a line feed alone is a space, and else it makes
way for those behind it. -/
def folded : List Char → List Char
  | ['\n'] => [' ']
  | '\n' :: breaks => breaks
  | breaks => breaks

/-- The white space that comes next, and what follows it. -/
def splitSpace (cs : Cells) : Cells × Cells := cs.span (isSpace ·.char)

def breaksOf (space : Cells) : List Char := (chars space).filter isBreak

/-- What white space inside a scalar becomes. Beside line breaks, spaces do not count. -/
def joined (space : Cells) : List Char :=
  let breaks := breaksOf space
  if breaks.isEmpty then chars space else folded breaks

/-! ## Quoted scalars -/

def simpleEscape? (c : Char) : Option Char :=
  [('0', '\x00'), ('a', '\x07'), ('b', '\x08'), ('t', '\t'), ('\t', '\t'), ('n', '\n'),
   ('v', '\x0b'), ('f', '\x0c'), ('r', '\r'), ('e', '\x1b'), (' ', ' '), ('"', '"'),
   ('/', '/'), ('\\', '\\'), ('N', '\u0085'), ('_', '\u00a0'), ('L', '\u2028'),
   ('P', '\u2029')].lookup c

def hexLength? (c : Char) : Option Nat := [('x', 2), ('u', 4), ('U', 8)].lookup c

/-- The character of `n` hexadecimal digits. -/
def hexChar? (n : Nat) (cs : Cells) : Option (Char × Cells) := do
  let digits ← (cs.take n).mapM fun c => Json.hexDigit? c.char
  let code := digits.foldl (fun code d => 16 * code + d) 0
  if digits.length = n ∧ code.isValidChar then some (Char.ofNat code, cs.drop n) else none

/-- The character of an escape, behind its backslash. -/
def escape? : Cells → Option (Char × Cells)
  | [] => none
  | c :: rest =>
    match simpleEscape? c.char, hexLength? c.char with
    | some c, _ => some (c, rest)
    | none, some n => hexChar? n rest
    | none, none => none

/-- The rest of a scalar in double quotes. `done` is held last character first. A backslash
before a line break takes it away, but those behind it stay. -/
def doubleQuoted : Nat → List Char → Cells → Option (String × Cells)
  | 0, _, _ => none
  | fuel + 1, done, cs =>
    if isDocumentMark cs then none
    else
      match cs with
      | [] => none
      | c :: rest =>
        if c.char = '"' then some (String.ofList done.reverse, rest)
        else if isSpace c.char then
          let (space, rest) := splitSpace cs
          doubleQuoted fuel ((joined space).reverse ++ done) rest
        else if c.char = '\\' then
          if nextIs isBreak rest then
            let (space, rest) := splitSpace (rest.drop 1)
            doubleQuoted fuel ((breaksOf space).reverse ++ done) rest
          else
            match escape? rest with
            | some (c, rest) => doubleQuoted fuel (c :: done) rest
            | none => none
        else doubleQuoted fuel (c.char :: done) rest

/-- The rest of a scalar in single quotes, where a quote is written twice. -/
def singleQuoted : Nat → List Char → Cells → Option (String × Cells)
  | 0, _, _ => none
  | fuel + 1, done, cs =>
    if isDocumentMark cs then none
    else
      match cs with
      | [] => none
      | c :: rest =>
        if c.char = '\'' then
          if nextIs (· == '\'') rest then singleQuoted fuel ('\'' :: done) (rest.drop 1)
          else some (String.ofList done.reverse, rest)
        else if isSpace c.char then
          let (space, rest) := splitSpace cs
          singleQuoted fuel ((joined space).reverse ++ done) rest
        else singleQuoted fuel (c.char :: done) rest

/-! ## Plain scalars -/

/-- Characters that mean something where a scalar could begin. -/
def indicators : List Char :=
  ['-', '?', ':', ',', '[', ']', '\x7b', '\x7d', '#', '&', '*', '!', '|', '>', '\'', '"', '%',
   '@', '\x60']

def flowMarks : List Char := [',', '[', ']', '\x7b', '\x7d']

/-- Whether a plain scalar can begin here. -/
def startsPlain (flow : Bool) : Cells → Bool
  | [] => false
  | c :: rest =>
    !(isSpace c.char || indicators.contains c.char)
      || (c.char == '-' && !nextIs isGap rest)
      || (!flow && (c.char == '?' || c.char == ':') && !isSeparated rest)

/-- The part of a plain scalar up to white space, last character first. It ends at a colon
that white space follows, and in brackets or braces at a mark. There a colon may not stand
right before a mark. -/
def plainWord (flow : Bool) (done : List Char) : Cells → Option (List Char × Cells)
  | [] => some (done, [])
  | c :: rest =>
    if isSpace c.char then some (done, c :: rest)
    else if flow && c.char == ':' && nextIs ('?' :: flowMarks).contains rest then none
    else if (c.char == ':' && isSeparated rest) || (flow && flowMarks.contains c.char) then
      some (done, c :: rest)
    else plainWord flow (c.char :: done) rest

/-- Whether a tab stands where only spaces may indent a line. -/
def tabIndents (indent : Nat) (space : Cells) : Bool :=
  (space.dropWhile (!isBreak ·.char)).any fun c => c.char == '\t' && decide (c.column < indent)

/-- What a plain scalar leaves behind. -/
structure PlainEnd where
  /-- Whether it ends with its line. -/
  broken : Bool
  rest : Cells

/-- The rest of a plain scalar, whose lines stand at `indent` or further right unless it is in
brackets or braces. `done` is held last character first, and `space` is what the white space
before the next word becomes. -/
def plainFrom (flow : Bool) (indent : Nat) :
    Nat → List Char → List Char → PlainEnd → Option (List Char × PlainEnd)
  | 0, _, _, _ => none
  | fuel + 1, done, space, here =>
    if isDocumentMark here.rest || nextIs (· == '#') here.rest then some (done, here)
    else
      match plainWord flow [] here.rest with
      | none => none
      | some ([], _) => some (done, here)
      | some (word, rest) =>
        let done := word ++ space.reverse ++ done
        let (space, next) := splitSpace rest
        let there : PlainEnd := ⟨!(breaksOf space).isEmpty, next⟩
        if tabIndents indent space then none
        else if space.isEmpty || (!flow && next.head?.any (decide <| ·.column < indent)) then
          some (done, there)
        else plainFrom flow indent fuel done (joined space) there

def plainScalar? (flow : Bool) (indent : Nat) (cs : Cells) : Option (String × PlainEnd) :=
  (plainFrom flow indent (cs.length + 1) [] [] ⟨false, cs⟩).map fun (text, last) =>
    (String.ofList text.reverse, last)

end RowExpr.Yaml
