import RowExpr.Json.Reader
import RowExpr.Yaml.Cell
import RowExpr.Yaml.Token

/-!
# Anchors, tags and directives
-/

namespace RowExpr.Yaml

def isWordChar (c : Char) : Bool := c.isAlphanum || c == '_' || c == '-'

/-- A name, which may be empty, and what follows it. -/
def splitWord (cs : Cells) : String × Cells :=
  let (word, rest) := cs.span (isWordChar ·.char)
  (String.ofList (chars word), rest)

/-- The name of an anchor or a reference, behind its mark. -/
def anchorName? (cs : Cells) : Option (String × Cells) :=
  let (name, rest) := splitWord cs
  let ends :=
    isSeparated rest || nextIs ['?', ':', ',', ']', '\x7d', '%', '@', '\x60'].contains rest
  if name.isEmpty || !ends then none else some (name, rest)

/-! ## Escapes in tags -/

/-- A byte that is written as a percent sign and two hexadecimal digits. -/
def octet? : Cells → Option (Nat × Cells)
  | mark :: high :: low :: rest => do
    if mark.char = '%' then
      return (16 * (← Json.hexDigit? high.char) + (← Json.hexDigit? low.char), rest)
    else none
  | _ => none

/-- The code that `n` more bytes of a character make of the bits before them. -/
def trailing? : Nat → Nat → Cells → Option (Nat × Cells)
  | 0, code, cs => some (code, cs)
  | n + 1, code, cs =>
    match octet? cs with
    | some (o, rest) =>
      if 0x80 ≤ o ∧ o < 0xc0 then trailing? n (64 * code + (o - 0x80)) rest else none
    | none => none

/-- What the first byte of a character says: how many more there are, its bits of the code,
and the least code that needs so many. -/
def leading? (o : Nat) : Option (Nat × Nat × Nat) :=
  if o < 0x80 then some (0, o, 0)
  else if o < 0xc0 then none
  else if o < 0xe0 then some (1, o - 0xc0, 0x80)
  else if o < 0xf0 then some (2, o - 0xe0, 0x800)
  else if o < 0xf8 then some (3, o - 0xf0, 0x10000)
  else none

/-- The character of escaped bytes, where they are one. -/
def escapedChar? (cs : Cells) : Option (Option Char × Cells) := do
  let (o, rest) ← octet? cs
  let (n, bits, least) ← leading? o
  let (code, rest) ← trailing? n bits rest
  return (if least ≤ code ∧ code.isValidChar then some (Char.ofNat code) else none, rest)

/-! ## Tags -/

/-- The characters of tags. Some stand only between angle brackets, or in a directive. -/
def isTagChar (bracketed : Bool) (c : Char) : Bool :=
  isWordChar c || (bracketed && [',', '[', ']'].contains c)
    || [';', '/', '?', ':', '@', '&', '=', '+', '$', '.', '%', '!', '~', '*', '\'', '(',
      ')'].contains c

def tagChars? (bracketed : Bool) : Nat → TagText → Cells → Option (TagText × Cells)
  | 0, _, _ => none
  | fuel + 1, done, cs =>
    match cs with
    | [] => some (done.reverse, [])
    | c :: rest =>
      if c.char = '%' then
        match escapedChar? cs with
        | some (d, rest) => tagChars? bracketed fuel (d :: done) rest
        | none => none
      else if isTagChar bracketed c.char then
        tagChars? bracketed fuel (some c.char :: done) rest
      else some (done.reverse, cs)

/-- The text of a tag from here on, which ends at a null character. -/
def tagText? (bracketed : Bool) (cs : Cells) : Option (TagText × Cells) :=
  (tagChars? bracketed (cs.length + 1) [] cs).map fun (text, rest) =>
    (text.takeWhile (· != some '\x00'), rest)

/-- The text of a tag that has at least one character. -/
def someTagText? (bracketed : Bool) (cs : Cells) : Option (TagText × Cells) :=
  if nextIs (isTagChar bracketed) cs then tagText? bracketed cs else none

/-- A tag without a handle of its own, where `name` begins its text. A tag that is a mark and no
more stands for itself. -/
def plainTag (name : String) (text : TagText) : Token :=
  match name.toList.map some ++ text with
  | [] => .tag "" [some '!']
  | text => .tag "!" text

/-- A tag behind its mark, and what follows it. -/
def tagToken? (cs : Cells) : Option (Token × Cells) :=
  match cs with
  | [] => some (plainTag "" [], [])
  | c :: rest =>
    if c.char = '<' then do
      let (text, rest) ← someTagText? true rest
      if nextIs (· == '>') rest then return (.tag "" text, rest.drop 1) else none
    else
      let (name, rest) := splitWord (c :: rest)
      if nextIs (· == '!') rest then
        (someTagText? false (rest.drop 1)).map fun (text, rest) =>
          (.tag ("!" ++ name ++ "!") text, rest)
      else (tagText? false rest).map fun (text, rest) => (plainTag name text, rest)

/-- A tag behind its mark. In `flow` a comma may follow it. -/
def tag? (flow : Bool) (cs : Cells) : Option (Token × Cells) := do
  let (t, rest) ← tagToken? cs
  if isSeparated rest || (flow && nextIs (· == ',') rest) then return (t, rest) else none

/-! ## Directives -/

/-- A number of at most nine digits. -/
def shortNumber? (cs : Cells) : Option (Nat × Cells) :=
  let (digits, rest) := cs.span (·.char.isDigit)
  if digits.isEmpty || 9 < digits.length then none
  else some ((chars digits).foldl (fun n c => 10 * n + (c.toNat - '0'.toNat)) 0, rest)

def versionToken? (cs : Cells) : Option (Token × Cells) := do
  let (major, rest) ← shortNumber? (skipGap cs)
  if nextIs (· == '.') rest then
    let (minor, rest) ← shortNumber? (rest.drop 1)
    return (.version major minor, rest)
  else none

/-- A handle: a mark, or a word between two. -/
def handle? (cs : Cells) : Option (String × Cells) :=
  if nextIs (· == '!') cs then
    let (name, rest) := splitWord (cs.drop 1)
    if nextIs (· == '!') rest then some ("!" ++ name ++ "!", rest.drop 1)
    else if name.isEmpty then some ("!", rest)
    else none
  else none

def handleToken? (cs : Cells) : Option (Token × Cells) := do
  let (name, rest) ← handle? (skipGap cs)
  if nextIs isGap rest then
    let (text, rest) ← someTagText? true (skipGap rest)
    if isSeparated rest then return (.handle name text, rest) else none
  else none

/-- A directive behind its mark, and the lines below it. -/
def directive? (cs : Cells) : Option (Token × Cells) := do
  let (name, rest) := splitWord cs
  if isSeparated rest then
    let (t, rest) ← match name with
      | "YAML" => versionToken? rest
      | "TAG" => handleToken? rest
      | _ => none
    return (t, ← endLine? rest)
  else none

end RowExpr.Yaml
