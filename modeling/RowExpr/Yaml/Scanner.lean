import RowExpr.Yaml.BlockScalar
import RowExpr.Yaml.Property
import RowExpr.Yaml.Scalar

/-!
# Reading tokens

A `Scanner` turns characters into tokens. Whether a token is a key shows only at the colon
behind it, so places where a key may have begun are kept until then.
-/

namespace RowExpr.Yaml

/-- A place where a key may have begun. -/
structure PossibleKey where
  /-- The number of tokens before it. -/
  place : Nat
  line : Nat
  column : Nat
  /-- Whether nothing but a key can be there. -/
  required : Bool
  deriving DecidableEq, Repr, Inhabited

/-- A key stands on one line with its colon, and is not very long. -/
def PossibleKey.isStale (k : PossibleKey) (c : Cell) : Bool :=
  k.line < c.line || k.column + 1024 < c.column

structure Scanner where
  /-- The tokens so far, the last one first. -/
  tokens : List Token := []
  /-- The columns of the sequences and mappings without brackets that are open, the innermost
  first. -/
  indents : List Nat := []
  /-- Whether a key may begin here that no mark comes before. -/
  keyAllowed : Bool := true
  key : Option PossibleKey := none
  /-- The possible keys outside of each open bracket or brace, the innermost first. -/
  outerKeys : List (Option PossibleKey) := []
  deriving DecidableEq, Repr, Inhabited

namespace Scanner

def inFlow (s : Scanner) : Bool := !s.outerKeys.isEmpty

def emit (s : Scanner) (t : Token) : Scanner := { s with tokens := t :: s.tokens }

/-- Adds a token behind the first `place` ones. -/
def insertAt (s : Scanner) (place : Nat) (t : Token) : Scanner :=
  let later := s.tokens.length - place
  { s with tokens := s.tokens.take later ++ t :: s.tokens.drop later }

/-! ## Keys -/

/-- Drops the possible keys that a character is too far away from. -/
def dropStale (s : Scanner) (c : Cell) : Option Scanner :=
  if (s.key :: s.outerKeys).any (·.any fun k => k.required && k.isStale c) then none
  else
    let fresh (key : Option PossibleKey) := key.filter (!·.isStale c)
    some { s with key := fresh s.key, outerKeys := s.outerKeys.map fresh }

def dropKey (s : Scanner) : Option Scanner :=
  if s.key.any (·.required) then none else some { s with key := none }

/-- Keeps a place where a key may begin, if one may. -/
def saveKey (s : Scanner) (c : Cell) : Option Scanner :=
  if s.keyAllowed then
    s.dropKey.map fun s =>
      { s with
        key := some
          { place := s.tokens.length, line := c.line, column := c.column
            required := !s.inFlow && s.indents.head? == some c.column } }
  else some s

/-! ## Indentation -/

/-- Opens a sequence or mapping in a column that is further right than the one it is in. -/
def indentTo (s : Scanner) (column place : Nat) (t : Token) : Scanner :=
  if s.inFlow || s.indents.head?.any (decide <| column ≤ ·) then s
  else ({ s with indents := column :: s.indents }).insertAt place t

/-- Ends the sequences and mappings that stand in the column `limit` or further right. -/
def dedent (s : Scanner) (limit : Nat) : Scanner :=
  if s.inFlow then s
  else
    let (ended, indents) := s.indents.span (decide <| limit ≤ ·)
    { s with indents, tokens := List.replicate ended.length .blockEnd ++ s.tokens }

/-! ## Single tokens -/

/-- Behind a mark or a directive the document begins anew. -/
def startLine (s : Scanner) : Option Scanner :=
  (s.dedent 0).dropKey.map fun s => { s with keyAllowed := false }

def openFlow (s : Scanner) (c : Cell) (t : Token) : Option Scanner :=
  (s.saveKey c).map fun s =>
    { s with outerKeys := s.key :: s.outerKeys, key := none, keyAllowed := true }.emit t

def closeFlow (s : Scanner) (t : Token) : Option Scanner :=
  s.dropKey.map fun s =>
    let s := match s.outerKeys with
      | [] => s
      | key :: outer => { s with key := key, outerKeys := outer }
    { s with keyAllowed := false }.emit t

def flowEntry (s : Scanner) : Option Scanner :=
  s.dropKey.map fun s => { s with keyAllowed := true }.emit .flowEntry

def entry (s : Scanner) (c : Cell) : Option Scanner :=
  if !s.inFlow && !s.keyAllowed then none
  else
    (s.indentTo c.column s.tokens.length .sequenceStart).dropKey.map fun s =>
      { s with keyAllowed := true }.emit .entry

def keyMark (s : Scanner) (c : Cell) : Option Scanner :=
  if !s.inFlow && !s.keyAllowed then none
  else
    (s.indentTo c.column s.tokens.length .mappingStart).dropKey.map fun s =>
      { s with keyAllowed := !s.inFlow }.emit .key

/-- A colon. What stands before it is a key, where it can be one. -/
def valueMark (s : Scanner) (c : Cell) : Option Scanner :=
  match s.key with
  | some k =>
    let s := (s.insertAt k.place .key).indentTo k.column k.place .mappingStart
    some ({ s with key := none, keyAllowed := false }.emit .value)
  | none =>
    if !s.inFlow && !s.keyAllowed then none
    else
      let s := s.indentTo c.column s.tokens.length .mappingStart
      some ({ s with keyAllowed := !s.inFlow }.emit .value)

/-- A token that a key can begin with, and the characters behind it. -/
def startNode (s : Scanner) (c : Cell) (read : Option (Token × Cells)) :
    Option (Scanner × Cells) := do
  let s ← s.saveKey c
  let (t, rest) ← read
  return ({ s with keyAllowed := false }.emit t, rest)

/-- A plain scalar. Where it ends with its line, a key may follow. -/
def plainScalar (s : Scanner) (c : Cell) (rest : Cells) : Option (Scanner × Cells) := do
  let s ← s.saveKey c
  let indent := s.indents.head?.elim 0 (· + 1)
  let (text, last) ← plainScalar? s.inFlow indent (c :: rest)
  return ({ s with keyAllowed := last.broken }.emit (.scalar text true), last.rest)

def blockScalar (s : Scanner) (literal : Bool) (rest : Cells) : Option (Scanner × Cells) := do
  let s ← s.dropKey
  let (text, rest) ← blockScalar? literal s.indents.head? rest
  return ({ s with keyAllowed := true }.emit (.scalar text false), rest)

/-! ## Documents -/

def scalarToken (plain : Bool) (read : Option (String × Cells)) : Option (Token × Cells) :=
  read.map fun (text, rest) => (.scalar text plain, rest)

/-- Reads the token that begins with a character. -/
def step (s : Scanner) (c : Cell) (rest : Cells) : Option (Scanner × Cells) :=
  let behind (s : Option Scanner) : Option (Scanner × Cells) := s.map (·, rest)
  if c.column = 0 ∧ c.char = '%' then do
    let s ← s.startLine
    let (t, rest) ← directive? rest
    return (s.emit t, rest)
  else if isMark "---" (c :: rest) then
    s.startLine.map fun s => (s.emit .documentStart, rest.drop 2)
  else if isMark "..." (c :: rest) then
    s.startLine.map fun s => (s.emit .documentEnd, rest.drop 2)
  else if c.char = '[' then behind (s.openFlow c .flowSequenceStart)
  else if c.char = '\x7b' then behind (s.openFlow c .flowMappingStart)
  else if c.char = ']' then behind (s.closeFlow .flowSequenceEnd)
  else if c.char = '\x7d' then behind (s.closeFlow .flowMappingEnd)
  else if c.char = ',' then behind s.flowEntry
  else if c.char = '-' ∧ isSeparated rest then behind (s.entry c)
  else if c.char = '?' ∧ (s.inFlow || isSeparated rest) then behind (s.keyMark c)
  else if c.char = ':' ∧ (s.inFlow || isSeparated rest) then behind (s.valueMark c)
  else if c.char = '*' then
    s.startNode c ((anchorName? rest).map fun (name, rest) => (.reference name, rest))
  else if c.char = '&' then
    s.startNode c ((anchorName? rest).map fun (name, rest) => (.anchor name, rest))
  else if c.char = '!' then s.startNode c (tag? s.inFlow rest)
  else if c.char = '|' ∧ !s.inFlow then s.blockScalar true rest
  else if c.char = '>' ∧ !s.inFlow then s.blockScalar false rest
  else if c.char = '\'' then
    s.startNode c (scalarToken false (singleQuoted (rest.length + 1) [] rest))
  else if c.char = '"' then
    s.startNode c (scalarToken false (doubleQuoted (rest.length + 1) [] rest))
  else if startsPlain s.inFlow (c :: rest) then s.plainScalar c rest
  else none

def scan : Nat → Scanner → Cells → Option Scanner
  | 0, _, _ => none
  | fuel + 1, s, cs =>
    match skipSpace s.inFlow s.keyAllowed false cs with
    | (_, []) => s.startLine
    | (allowed, c :: rest) => do
      let s ← { s with keyAllowed := allowed }.dropStale c
      let (s, rest) ← (s.dedent (c.column + 1)).step c rest
      scan fuel s rest

end Scanner

def tokens? (cs : Cells) : Option (List Token) :=
  (Scanner.scan (cs.length + 1) {} cs).map (·.tokens.reverse)

end RowExpr.Yaml
