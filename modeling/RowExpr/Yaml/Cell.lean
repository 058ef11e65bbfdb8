/-!
# Characters with their places

A document is read from characters that know the line and the column they stand in.
-/

namespace RowExpr.Yaml

/-- A character, its line and its column, counted from zero. -/
structure Cell where
  char : Char
  line : Nat
  column : Nat
  deriving DecidableEq, Repr, Inhabited

abbrev Cells := List Cell

def isGap (c : Char) : Bool := c == ' ' || c == '\t'

/-- A line feed, or one of the two separators that end a line and stay as they are. -/
def isBreak (c : Char) : Bool := c == '\n' || c == '\u2028' || c == '\u2029'

def isSpace (c : Char) : Bool := isGap c || isBreak c

/-- The characters of a text with their places. A carriage return or a next-line character
is read as a line feed, and so are a carriage return and a line feed together. -/
def cellsFrom : Nat → Nat → List Char → Cells
  | _, _, [] => []
  | line, column, '\r' :: '\n' :: rest => ⟨'\n', line, column⟩ :: cellsFrom (line + 1) 0 rest
  | line, column, c :: rest =>
    let c := if c = '\r' ∨ c = '\u0085' then '\n' else c
    if isBreak c then ⟨c, line, column⟩ :: cellsFrom (line + 1) 0 rest
    else ⟨c, line, column⟩ :: cellsFrom line (column + 1) rest

def chars (cs : Cells) : List Char := cs.map (·.char)

def nextIs (p : Char → Bool) (cs : Cells) : Bool := cs.head?.any (p ·.char)

/-- Whether a space, a line break or the end comes next. -/
def isSeparated (cs : Cells) : Bool := cs.head?.all (isSpace ·.char)

def skipGap (cs : Cells) : Cells := cs.dropWhile (isGap ·.char)

/-- The rest of a line where only a comment is left on it. -/
def endLine? (cs : Cells) : Option Cells :=
  let cs := skipGap cs
  let cs := if nextIs (· == '#') cs then cs.dropWhile (!isBreak ·.char) else cs
  match cs with
  | [] => some []
  | c :: rest => if isBreak c.char then some rest else none

/-- Whether a line begins with a mark that begins or ends a document. -/
def isMark (mark : String) (cs : Cells) : Bool :=
  cs.head?.any (·.column == 0) && chars (cs.take 3) == mark.toList && isSeparated (cs.drop 3)

def isDocumentMark (cs : Cells) : Bool := isMark "---" cs || isMark "..." cs

/-- Drops what may stand before a token: spaces, comments, line breaks, and a mark of the byte
order in the first column. A tab is dropped in `flow`, and where no simple key is `allowed`; a
new line allows one outside of `flow`. Whether one is allowed in the end comes first. -/
def skipSpace (flow allowed comment : Bool) : Cells → Bool × Cells
  | [] => (allowed, [])
  | c :: rest =>
    if isBreak c.char then skipSpace flow (allowed || !flow) false rest
    else if comment then skipSpace flow allowed true rest
    else if c.char = '#' then skipSpace flow allowed true rest
    else if c.char = ' ' || (c.char = '\t' && (flow || !allowed))
        || (c.char = '\ufeff' && c.column = 0) then
      skipSpace flow allowed false rest
    else (allowed, c :: rest)

end RowExpr.Yaml
