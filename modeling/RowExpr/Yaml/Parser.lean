import RowExpr.Yaml.Basic
import RowExpr.Yaml.Token

/-!
# Putting tokens together

A node is read from the front of the tokens. The labels that anchors have been given, and what
the handles of tags stand for, are known on the way.
-/

namespace RowExpr.Yaml

structure Parsing where
  tokens : List Token
  /-- The label of each anchor. -/
  labels : List (String × Nat) := []
  /-- The text that each handle stands for. -/
  handles : List (String × TagText)
  deriving Repr, Inhabited

abbrev Parse := StateT Parsing Option

namespace Parse

def peek : Parse (Option Token) := return (← get).tokens.head?

def skip : Parse Unit := modify fun p => { p with tokens := p.tokens.tail }

/-- Skips a token where it is the next one, and says whether it was. -/
def skipIf (t : Token) : Parse Bool := do
  if (← peek) = some t then
    skip
    return true
  else return false

/-! ## Properties -/

/-- Labels a node. The label counts the anchors with other names, so those of one name that is
used again and those of the next name are the same. -/
def newLabel (name : String) : Parse Nat := do
  let labels := (← get).labels
  modify fun p => { p with labels := labels.filter (·.1 != name) ++ [(name, labels.length)] }
  return labels.length

def anchor : Parse (Option Nat) := do
  match ← peek with
  | some (.anchor name) =>
    skip
    return some (← newLabel name)
  | _ => return none

/-- A tag, with what its handle stands for. -/
def tag : Parse (Option TagText) := do
  match ← peek with
  | some (.tag handle suffix) =>
    skip
    if handle.isEmpty then return some suffix
    else
      match (← get).handles.lookup handle with
      | some text => return some (text ++ suffix)
      | none => failure
  | _ => return none

/-- The label and the tag of a node, in either order. -/
def properties : Parse (Option Nat × Option TagText) := do
  let before ← anchor
  let tag ← tag
  let behind ← if before.isNone && tag.isSome then anchor else pure none
  return (before <|> behind, tag)

end Parse

def nullTag : TagText := "tag:yaml.org,2002:null".toList.map some

/-- What a tag says. A tag that is a name begins with a mark, unless it is nothing but one. -/
def Tag.ofText (text : TagText) : Tag :=
  if text = nullTag then .null
  else
    match text.mapM id with
    | some ['!'] => .named "!"
    | some ('!' :: name) => .named (String.ofList name)
    | _ => .other

/-- The tag of a scalar, where a mark alone says nothing. -/
def Tag.ofScalar (text : TagText) : Option Tag :=
  if text = [some '!'] then none else some (ofText text)

/-! ## Nodes -/

namespace Parse

/-- A node, but a blank where one of several tokens comes next. -/
def blankAt (stops : List Token) (node : Parse Yaml) : Parse Yaml := do
  if (← peek).any stops.contains then return blank else node

mutual

/-- The next node. A `block` may be one without brackets; an `indentless` sequence may begin
with its first dash. -/
def node : Nat → Bool → Bool → Parse Yaml
  | 0, _, _ => failure
  | fuel + 1, block, indentless => do
    match ← peek with
    | some (.reference name) =>
      skip
      match (← get).labels.lookup name with
      | some label => return reference label
      | none => failure
    | _ =>
      let (label, tag) ← properties
      let all : Properties := ⟨label, tag.map Tag.ofText⟩
      match ← peek, block, indentless with
      | some .entry, _, true => return seq all (← indentlessItems fuel)
      | some (.scalar text plain), _, _ =>
        skip
        return scalar ⟨label, tag.bind Tag.ofScalar⟩ text plain
      | some .flowSequenceStart, _, _ =>
        skip
        return seq all (← flowItems fuel true)
      | some .flowMappingStart, _, _ =>
        skip
        return map all (← flowEntries fuel true)
      | some .sequenceStart, true, _ =>
        skip
        return seq all (← blockItems fuel)
      | some .mappingStart, true, _ =>
        skip
        return map all (← blockEntries fuel)
      | _, _, _ =>
        if label.isSome || tag.isSome then return scalar all "" true else failure

/-- The items of a sequence up to its end. -/
def blockItems : Nat → Parse (List Yaml)
  | 0 => failure
  | fuel + 1 => do
    if ← skipIf .entry then
      let y ← blankAt [.entry, .blockEnd] (node fuel true false)
      return y :: (← blockItems fuel)
    else if ← skipIf .blockEnd then return []
    else failure

/-- The items of a sequence whose dashes stand below the key that it belongs to. -/
def indentlessItems : Nat → Parse (List Yaml)
  | 0 => failure
  | fuel + 1 => do
    if ← skipIf .entry then
      let y ← blankAt [.entry, .key, .value, .blockEnd] (node fuel true false)
      return y :: (← indentlessItems fuel)
    else return []

/-- The entries of a mapping up to its end. -/
def blockEntries : Nat → Parse (List (Yaml × Yaml))
  | 0 => failure
  | fuel + 1 => do
    if ← skipIf .key then
      let part := blankAt [.key, .value, .blockEnd] (node fuel true true)
      let key ← part
      let value ← if ← skipIf .value then part else pure blank
      return (key, value) :: (← blockEntries fuel)
    else if ← skipIf .blockEnd then return []
    else failure

/-- The items up to a closing bracket. Commas stand between them, and one may follow the last.
An item may be a mapping of one entry. -/
def flowItems : Nat → Bool → Parse (List Yaml)
  | 0, _ => failure
  | fuel + 1, first => do
    if ← skipIf .flowSequenceEnd then return []
    else if first || (← skipIf .flowEntry) then
      if ← skipIf .key then
        let entry ← flowPair fuel
        return map {} [entry] :: (← flowItems fuel false)
      else if ← skipIf .flowSequenceEnd then return []
      else
        let y ← node fuel false false
        return y :: (← flowItems fuel false)
    else failure

/-- The entry of a mapping without braces, behind the mark of its key. A key that is left out
takes the token behind it along. -/
def flowPair : Nat → Parse (Yaml × Yaml)
  | 0 => failure
  | fuel + 1 => do
    let stops := [.flowEntry, .flowSequenceEnd]
    let key ←
      if (← peek).any (.value :: stops).contains then do
        skip
        pure blank
      else node fuel false false
    let value ← if ← skipIf .value then blankAt stops (node fuel false false) else pure blank
    return (key, value)

/-- The entries up to a closing brace. A key without a value has a blank one. -/
def flowEntries : Nat → Bool → Parse (List (Yaml × Yaml))
  | 0, _ => failure
  | fuel + 1, first => do
    if ← skipIf .flowMappingEnd then return []
    else if first || (← skipIf .flowEntry) then
      let stops := [.flowEntry, .flowMappingEnd]
      if ← skipIf .key then
        let key ← blankAt (.value :: stops) (node fuel false false)
        let value ←
          if ← skipIf .value then blankAt stops (node fuel false false) else pure blank
        return (key, value) :: (← flowEntries fuel false)
      else if ← skipIf .flowMappingEnd then return []
      else
        let key ← node fuel false false
        return (key, blank) :: (← flowEntries fuel false)
    else failure

end

end Parse

/-! ## Documents -/

def standardHandles : List (String × TagText) :=
  [("!", [some '!']), ("!!", "tag:yaml.org,2002:".toList.map some)]

/-- The handles of the directives before a document, and what follows them. -/
def directives? (versioned : Bool) (handles : List (String × TagText)) :
    List Token → Option (List (String × TagText) × List Token)
  | .version major minor :: rest =>
    if versioned || major ≠ 1 || (minor ≠ 1 && minor ≠ 2) then none
    else directives? true handles rest
  | .handle name text :: rest =>
    if (handles.lookup name).isSome then none
    else directives? versioned (handles ++ [(name, text)]) rest
  | rest => some (handles, rest)

def Token.isBoundary : Token → Bool
  | .version _ _ | .handle _ _ | .documentStart | .documentEnd => true
  | _ => false

/-- The node at the front of the tokens, and what follows it. -/
def nodeAt (handles : List (String × TagText)) (tokens : List Token) :
    Option (Yaml × List Token) :=
  ((Parse.node (4 * tokens.length + 4) true false).run
    { tokens, handles := handles ++ standardHandles }).map fun (y, p) => (y, p.tokens)

/-- The value of the first document, and the tokens behind it. A document without a mark at its
beginning is not blank, unless there is nothing at all. -/
def firstDocument? (tokens : List Token) : Option (Yaml × List Token) :=
  match tokens with
  | [] => some (blank, [])
  | t :: _ =>
    if t.isBoundary then do
      match ← directives? false [] tokens with
      | (handles, .documentStart :: rest) =>
        if rest.head?.all Token.isBoundary then return (blank, rest) else nodeAt handles rest
      | _ => none
    else nodeAt [] tokens

/-- The value of the only document. -/
def onlyDocument? (tokens : List Token) : Option Yaml := do
  let (y, rest) ← firstDocument? tokens
  if rest.all (· = .documentEnd) then return y else none

end RowExpr.Yaml
