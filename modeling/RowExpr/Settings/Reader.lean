import RowExpr.Codec.Dialect
import RowExpr.Settings.Basic
import RowExpr.Yaml.Reader

/-!
# Reading settings

A section that is left out has its defaults. A section that is there has to have all its
fields, but for the optional ones.
-/

namespace RowExpr

namespace Yaml

/-! ## Scalars -/

def nullWords : List String := ["~", "null", "Null", "NULL"]

def isNullText (text : String) : Bool := text.isEmpty || nullWords.contains text

/-- Whether a value is null. A tag says whether it is, but one that says so has to be right. -/
def isNull? : Yaml → Option Bool
  | scalar p text true =>
    match p.tag with
    | none => some (isNullText text)
    | some .null => if nullWords.contains text then some true else none
    | some _ => some false
  | _ => some false

namespace Tree

/-- The text of a scalar, whatever it would otherwise stand for. -/
def text? (tree : Tree) (y : Yaml) : Option String :=
  match tree.resolve y with
  | scalar _ text _ => some text
  | _ => none

/-- One of several names: a text, or a tag with nothing behind it. -/
def name? (tree : Tree) (y : Yaml) : Option String :=
  match tree.resolve y with
  | scalar { tag := some (.named name), .. } text plain =>
    if plain && isNullText text then some name else none
  | scalar _ text _ => some text
  | _ => none

/-- A value, where it is not null. -/
def nonNull? (tree : Tree) (y : Yaml) : Option (Option Yaml) :=
  let y := tree.resolve y
  y.isNull?.map fun isNull => if isNull then none else some y

/-- The entries of a section, by name. All keys are scalars, and none of the section's own
names is there twice. Nothing at all is a section without entries. -/
def entries? (tree : Tree) (names : List String) (y : Yaml) :
    Option (List (String × Yaml)) :=
  match tree.resolve y with
  | map _ entries => do
    let named ← entries.mapM fun e => (tree.text? e.1).map (·, e.2)
    let own := named.filter fun e => names.contains e.1
    if (own.map (·.1)).Nodup then some own else none
  | scalar _ "" true => some []
  | _ => none

end Tree

end Yaml

namespace Settings

def required (tree : Yaml.Tree) (entries : List (String × Yaml)) (name : String) :
    Option String := do
  tree.text? (← entries.lookup name)

/-- A field that may be missing or null. -/
def optional {α : Type} (tree : Yaml.Tree) (entries : List (String × Yaml)) (name : String)
    (read : Yaml → Option α) : Option (Option α) :=
  match entries.lookup name with
  | none => some none
  | some y => do (← tree.nonNull? y).mapM read

def dialectOf (tree : Yaml.Tree) (y : Yaml) : Option DialectSettings := do
  let entries ← tree.entries? ["product", "version", "null_collation"] y
  let product ← required tree entries "product"
  let version ← optional tree entries "version" tree.text?
  let nullCollation ← optional tree entries "null_collation" fun y => do
    Codec.nullCollationNames.lookup (← tree.name? y)
  return { product, version, nullCollation }

def loggingOf (tree : Yaml.Tree) (y : Yaml) : Option LogSettings := do
  let entries ← tree.entries? ["level", "format", "output", "directory"] y
  let level ← required tree entries "level"
  let format ← required tree entries "format"
  let output ← required tree entries "output"
  let directory ← required tree entries "directory"
  return { level, format, output, directory }

/-- A section, or its defaults where it is left out. -/
def sectionOf {α : Type} (entries : List (String × Yaml)) (name : String) (default : α)
    (read : Yaml → Option α) : Option α :=
  match entries.lookup name with
  | none => some default
  | some y => read y

def ofTree (tree : Yaml.Tree) : Option Settings := do
  let entries ← tree.entries? ["dialect", "logging"] tree.root
  let dialect ← sectionOf entries "dialect" {} (dialectOf tree)
  let logging ← sectionOf entries "logging" {} (loggingOf tree)
  return { dialect, logging }

def parse (s : String) : Except SettingsError Settings :=
  match Yaml.read s >>= ofTree with
  | some settings => .ok settings
  | none => .error .malformed

end Settings

/-! ## Files -/

inductive FileContent
  | missing
  /-- There is something, but it is no text file. -/
  | unreadable
  | text (s : String)
  deriving DecidableEq, Repr, Inhabited

def Settings.load : FileContent → Except SettingsError Settings
  | .text s => parse s
  | .missing | .unreadable => .error .unreadable

/-- The settings of a file; the defaults where there is none. -/
def Settings.loadOrDefault : FileContent → Except SettingsError Settings
  | .missing => .ok {}
  | content => load content

end RowExpr
