/-!
# YAML tokens

What the characters of a document are read as, before they are put together.
-/

namespace RowExpr.Yaml

/-- The text of a tag. An escape in it need not stand for a character. -/
abbrev TagText := List (Option Char)

inductive Token
  /-- The directive that says which version a document is written in. -/
  | version (major minor : Nat)
  /-- The directive that says what a handle stands for. -/
  | handle (name : String) (text : TagText)
  | documentStart
  | documentEnd
  /-- The sequence whose items follow with dashes. -/
  | sequenceStart
  /-- The mapping whose entries follow on lines of their own. -/
  | mappingStart
  /-- The end of a sequence or mapping that has no brackets or braces. -/
  | blockEnd
  | flowSequenceStart
  | flowSequenceEnd
  | flowMappingStart
  | flowMappingEnd
  | flowEntry
  | entry
  | key
  | value
  | reference (name : String)
  | anchor (name : String)
  | tag (handle : String) (suffix : TagText)
  | scalar (text : String) (plain : Bool)
  deriving DecidableEq, Repr, Inhabited

end RowExpr.Yaml
