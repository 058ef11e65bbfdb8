/-!
# Switches

A switch is written with two dashes and its name, or with one dash and its letter. A value
follows it as the next word, after an equals sign, or right after the letter. A word that
begins with a dash is no value, but a dash alone is.
-/

namespace RowExpr.CommandLine

structure Switch where
  name : String
  letter : Option Char := none
  takesValue : Bool := true
  /-- The values that the switch can have. -/
  accepts : String → Bool := fun _ => true
  /-- Whether nothing behind it is looked at, not even what is written onto its letter. -/
  isFinal : Bool := false
  summary : String := ""
  /-- The variable that is looked at where the switch is not given. -/
  variableName : Option String := none
  /-- What counts where nothing is given. -/
  fallback : Option String := none
  /-- The values that the switch can have, where there are only a few. -/
  choices : List String := []

/-- Switches that were given, with their values. -/
abbrev Given := List (String × String)

/-- Begins with a dash, and is more than one. -/
def isDashed (word : String) : Bool :=
  match word.toList with
  | '-' :: _ :: _ => true
  | _ => false

/-- What stands before the first equals sign, and what behind it. -/
def splitEquals (cs : List Char) : String × Option String :=
  let name := String.ofList (cs.takeWhile (· ≠ '='))
  match cs.dropWhile (· ≠ '=') with
  | [] => (name, none)
  | _ :: value => (name, some (String.ofList value))

def attached : List Char → Option String
  | [] => none
  | '=' :: value => some (String.ofList value)
  | value => some (String.ofList value)

def give (given : Given) (s : Switch) (value : String) : Option Given :=
  if (given.lookup s.name).isSome || !s.accepts value then none
  else some (given ++ [(s.name, value)])

def find? (switches : List Switch) (word : String) : Option (Switch × Option String) :=
  match word.toList with
  | '-' :: '-' :: cs =>
    let (name, value) := splitEquals cs
    (switches.find? (·.name == name)).map (·, value)
  | '-' :: letter :: cs =>
    (switches.find? (·.letter == some letter)).map fun s =>
      (s, if s.takesValue then attached cs else if cs.isEmpty || s.isFinal then none else some "")
  | _ => none

/-- The switches at the front of a command line, and the words from the first one on that is
neither a switch nor the value of one. There is none where a switch is unknown, is given
twice, or has a value it cannot have. -/
def scan (switches : List Switch) (given : Given) : List String → Option (Given × List String)
  | [] => some (given, [])
  | word :: rest =>
    if !isDashed word then some (given, word :: rest)
    else if word = "--" then (if rest.isEmpty then some (given, []) else none)
    else
      match find? switches word with
      | none => none
      | some (s, value) =>
        match s.takesValue, value, rest with
        | false, none, rest =>
          if s.isFinal then (give given s "").map (·, [])
          else (give given s "").bind fun given => scan switches given rest
        | false, some _, _ => none
        | true, some value, rest =>
          (give given s value).bind fun given => scan switches given rest
        | true, none, value :: rest =>
          if isDashed value then none
          else (give given s value).bind fun given => scan switches given rest
        | true, none, [] => none

end RowExpr.CommandLine
