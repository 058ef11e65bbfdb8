import RowExpr.Decimal.Layout
import RowExpr.Json.Basic

/-!
# Printing JSON

On one line without spaces, or on many lines with two spaces of indentation.
-/

namespace RowExpr.Json

/-- A character as it stands in a string. -/
def escapeChar (c : Char) : List Char :=
  if c = '"' then ['\\', '"']
  else if c = '\\' then ['\\', '\\']
  else if c = '\x08' then ['\\', 'b']
  else if c = '\x0c' then ['\\', 'f']
  else if c = '\n' then ['\\', 'n']
  else if c = '\r' then ['\\', 'r']
  else if c = '\t' then ['\\', 't']
  else if c.toNat < 0x20 then
    '\\' :: 'u' :: '0' :: '0' :: Nat.digitChar (c.toNat / 16) :: [Nat.digitChar (c.toNat % 16)]
  else [c]

def quote (s : String) : String :=
  String.ofList ('"' :: s.toList.flatMap escapeChar ++ ['"'])

def scalarText : Json → String
  | null => "null"
  | bool true => "true"
  | bool false => "false"
  | int i => toString i
  | float x => Decimal.Layout.json.write x
  | str s => quote s
  | arr _ | obj _ => ""

mutual

def compact : Json → String
  | arr items => "[" ++ ",".intercalate (compactItems items) ++ "]"
  | obj fields => "\x7b" ++ ",".intercalate (compactFields fields) ++ "\x7d"
  | j => scalarText j

def compactItems : List Json → List String
  | [] => []
  | j :: rest => j.compact :: compactItems rest

def compactFields : List (String × Json) → List String
  | [] => []
  | (name, j) :: rest => (quote name ++ ":" ++ j.compact) :: compactFields rest

end

def newline (indent : Nat) : String := "\n" ++ String.ofList (List.replicate indent ' ')

/-- Texts on lines of their own, between brackets. -/
def block (indent : Nat) (opening closing : String) (lines : List String) : String :=
  if lines.isEmpty then opening ++ closing
  else
    opening ++ newline (indent + 2) ++ ("," ++ newline (indent + 2)).intercalate lines
      ++ newline indent ++ closing

mutual

def prettyAt (indent : Nat) : Json → String
  | arr items => block indent "[" "]" (prettyItems (indent + 2) items)
  | obj fields => block indent "\x7b" "\x7d" (prettyFields (indent + 2) fields)
  | j => scalarText j

def prettyItems (indent : Nat) : List Json → List String
  | [] => []
  | j :: rest => prettyAt indent j :: prettyItems indent rest

def prettyFields (indent : Nat) : List (String × Json) → List String
  | [] => []
  | (name, j) :: rest => (quote name ++ ": " ++ prettyAt indent j) :: prettyFields indent rest

end

def pretty (j : Json) : String := prettyAt 0 j

end RowExpr.Json
