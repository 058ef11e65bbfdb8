import RowExpr.Settings.Basic
import RowExpr.Text.Letter

/-!
# Variables from a file

A file of `NAME=value` lines adds variables to the environment; those that are already there
keep their values. A value may be quoted, and may refer to variables. The first faulty line
ends the file.
-/

namespace RowExpr.EnvFile

/-! ## Lines -/

/-- Where the end of a text stands as far as quotes go. -/
inductive Quoting
  | none
  | blank
  | escape
  | single
  | singleEscape
  | double
  | doubleEscape
  deriving DecidableEq, Repr, Inhabited

/-- A blank within a line. -/
def isGap (c : Char) : Bool := Text.isBlank c && c != '\n' && c != '\r'

def Quoting.start : Char → Quoting
  | '\\' => escape
  | '"' => double
  | '\'' => single
  | _ => none

def Quoting.next : Quoting → Char → Quoting
  | none, c => if isGap c then blank else start c
  | blank, c => start c
  | escape, _ => none
  | single, c => if c = '\\' then singleEscape else if c = '\'' then none else single
  | singleEscape, _ => single
  | double, c => if c = '\\' then doubleEscape else if c = '"' then none else double
  | doubleEscape, _ => double

/-- A line up to its end or its comment, and where it ends. A comment follows a blank. -/
def scanLine (done : List Char) : Quoting → List Char → List Char × Quoting
  | q, [] => (done.reverse, q)
  | .blank, '#' :: _ => (done.reverse, .none)
  | q, c :: rest => scanLine (c :: done) (q.next c) rest

/-- Cuts a text into lines, each with the character that ends it. -/
def splitLines (line : List Char) : List Char → List (List Char)
  | [] => if line.isEmpty then [] else [line.reverse]
  | '\n' :: rest => ('\n' :: line).reverse :: splitLines [] rest
  | c :: rest => splitLines (c :: line) rest

/-- Lines that an open quote does not run across. Where a quote is never closed there is no
line. -/
def joinLines (before : List Char) (q : Quoting) : List (List Char) → List (Option (List Char))
  | [] => if q = .none then [] else [none]
  | line :: rest =>
    if before.isEmpty && (line.dropWhile Text.isBlank).head? == some '#' then
      joinLines [] .none rest
    else
      match scanLine [] q line with
      | (cs, .none) => some (before ++ cs) :: joinLines [] .none rest
      | (cs, q) => joinLines (before ++ cs) q rest

/-! ## Values -/

/-- What the next character of a value is part of. -/
inductive Mode
  | bare
  | single
  | double
  /-- What follows a backslash, inside double quotes or not. -/
  | escape (quoted : Bool)
  | name (quoted : Bool) (name : List Char)
  | braced (quoted : Bool) (name : List Char)
  /-- Behind the value only blanks and a comment may follow. -/
  | after
  deriving DecidableEq, Repr, Inhabited

/-- The mode inside double quotes, or outside of quotes. -/
def Mode.back (quoted : Bool) : Mode := if quoted then double else bare

/-- The value of a variable whose name was read backwards. -/
def valueOf (env : Environment) (name : List Char) : List Char :=
  ((env.lookup (String.ofList name.reverse)).getD "").toList

def unescape? (c : Char) : Option Char :=
  if c = 'n' then some '\n'
  else if ['\\', '\'', '"', '$', ' '].contains c then some c
  else none

/-- A character outside of quotes, names and escapes. -/
def bareStep (c : Char) : Mode × List Char :=
  match c with
  | '$' => (.name false [], [])
  | '\'' => (.single, [])
  | '"' => (.double, [])
  | '\\' => (.escape false, [])
  | ' ' | '\t' => (.after, [])
  | c => (.bare, [c])

def doubleStep (c : Char) : Mode × List Char :=
  match c with
  | '$' => (.name true [], [])
  | '"' => (.bare, [])
  | '\\' => (.escape true, [])
  | c => (.double, [c])

/-- What a character makes of the mode, and what it adds to the value. The character that
ends a name stands for itself. -/
def step (env : Environment) (c : Char) : Mode → Option (Mode × List Char)
  | .bare => some (bareStep c)
  | .double => some (doubleStep c)
  | .single => some (if c = '\'' then (.bare, []) else (.single, [c]))
  | .escape quoted => (unescape? c).map fun c => (.back quoted, [c])
  | .name quoted name =>
    if Text.isLetter c then some (.name quoted (c :: name), [])
    else if c = '\x7b' && name.isEmpty then some (.braced quoted [], [])
    else if c = '$' then some (.name quoted [], valueOf env name)
    else some (.back quoted, valueOf env name ++ [c])
  | .braced quoted name =>
    if c = '\x7d' then some (.back quoted, valueOf env name)
    else some (.braced quoted (c :: name), [])
  | .after => if c = ' ' || c = '\t' then some (.after, []) else none

/-- A value to the end of its line. -/
def value (env : Environment) : Mode → List Char → Option (List Char)
  | .bare, [] | .after, [] | .escape false, [] => some []
  | .name false name, [] => some (valueOf env name)
  | _, [] => none
  | .after, '#' :: _ => some []
  | mode, c :: rest => do
    let (mode, cs) ← step env c mode
    return cs ++ (← value env mode rest)

/-! ## Entries -/

def isNameStart (c : Char) : Bool := c.isAlpha || c == '_'

def isNameChar (c : Char) : Bool := c.isAlphanum || c == '_' || c == '.'

def name? (cs : List Char) : Option (String × List Char) :=
  if cs.head?.any isNameStart then
    some (String.ofList (cs.takeWhile isNameChar),
      (cs.dropWhile isNameChar).dropWhile Text.isBlank)
  else none

/-- A name and what follows its equals sign. The word `export` may stand before it. -/
def assignment? (cs : List Char) : Option (String × List Char) := do
  match ← name? cs with
  | (name, '=' :: rest) => some (name, rest)
  | ("export", rest) =>
    match ← name? rest with
    | (name, '=' :: rest) => some (name, rest)
    | _ => none
  | _ => none

def isNothing (cs : List Char) : Bool := cs.isEmpty || cs.head? == some '#'

def entry? (env : Environment) (line : List Char) : Option (Option (String × String)) := do
  let line := Text.strip line
  if isNothing line then return none
  let (name, rest) ← assignment? line
  let rest := rest.dropWhile Text.isBlank
  if isNothing rest then return some (name, "")
  return some (name, String.ofList (← value env .bare rest))

/-- Adds a variable that is not there. None can hold the character that ends values in the
environment. -/
def addNew? (env : Environment) (name value : String) : Option Environment :=
  if (env.lookup name).isSome then some env
  else if value.contains '\x00' then none
  else some (env ++ [(name, value)])

def addLines? (env : Environment) : List (Option (List Char)) → Option Environment
  | [] => some env
  | line :: rest =>
    match line >>= entry? env with
    | none => some env
    | some none => addLines? env rest
    | some (some (name, value)) => do addLines? (← addNew? env name value) rest

/-- The environment with the variables of a file. A mark of the byte order is skipped. There is
no such environment where one of the variables cannot be added. -/
def extend? (env : Environment) (file : String) : Option Environment :=
  let cs := match file.toList with
    | '\ufeff' :: rest => rest
    | cs => cs
  addLines? env (joinLines [] .none (splitLines [] cs))

/-- The names of variables that a file refers to. -/
def references : List Char → List String
  | [] => []
  | '$' :: '\x7b' :: rest => String.ofList (rest.takeWhile (· ≠ '\x7d')) :: references rest
  | '$' :: rest => String.ofList (rest.takeWhile Text.isLetter) :: references rest
  | _ :: rest => references rest

theorem lookup_addNew? {env new : Environment} {other v name value : String}
    (h : env.lookup other = some v) (added : addNew? env name value = some new) :
    new.lookup other = some v := by
  unfold addNew? at added
  split at added
  · cases added
    exact h
  · split at added
    · cases added
    · cases added
      simp [List.lookup_append, h]

end RowExpr.EnvFile
