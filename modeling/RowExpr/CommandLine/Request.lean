import RowExpr.CommandLine.Switch
import RowExpr.Host.Lower
import RowExpr.Settings.Basic

/-!
# Requests

What a command line asks for.
-/

namespace RowExpr.CommandLine

inductive Source
  | inline (text : String)
  | file (path : String)
  | standardInput
  deriving DecidableEq, Repr, Inhabited

inductive Command
  /-- Writes the document as SQL. -/
  | render (source : Source) (dialect version : Option String)
  | lower (source : Source) (mode : Host.NullMode) (json : Bool)
  | eval (source : Source) (row : String) (mode : Host.NullMode)
  | dialects
  deriving DecidableEq, Repr, Inhabited

def Command.source? : Command → Option Source
  | render source _ _ | lower source _ _ | eval source _ _ => some source
  | dialects => none

inductive Request
  | version
  /-- What there is to say about a command, or about all of them. -/
  | help (topic : Option String)
  /-- A command, and the path of the settings. -/
  | command (settings : String) (command : Command)
  deriving DecidableEq, Repr, Inhabited

def Request.settings? : Request → Option String
  | command settings _ => some settings
  | version | help _ => none

def Request.source? : Request → Option Source
  | command _ c => c.source?
  | version | help _ => none

/-! ## Switches -/

def nullModeNames : List (String × Host.NullMode) :=
  [("null", .null), ("not-possible", .notPossible), ("false", .false), ("true", .true)]

def isPath (s : String) : Bool := !s.isEmpty

/-- The variable that names the settings where no switch does. -/
def settingsVariable : String := "SQLFORGE_CONFIG"

/-- Where the settings are looked for if nothing says where they are. -/
def settingsDefault : String := "sqlforge.yaml"

def settingsSwitch : Switch :=
  { name := "config", letter := some 'c', accepts := isPath
    summary := "Configuration file"
    variableName := some settingsVariable, fallback := some settingsDefault }

def helpSwitch : Switch :=
  { name := "help", letter := some 'h', takesValue := false, isFinal := true
    summary := "Print help" }

def versionSwitch : Switch :=
  { name := "version", letter := some 'V', takesValue := false, isFinal := true
    summary := "Print version" }

def sourceSwitches : List Switch :=
  [{ name := "expr", letter := some 'e'
     summary := "Expression document as inline JSON" },
   { name := "file", letter := some 'f', accepts := isPath
     summary := "File holding the expression document; stdin when neither is given" }]

def dialectSwitches : List Switch :=
  [{ name := "dialect", letter := some 'd'
     summary := "Target dialect, overriding the configuration" },
   { name := "dialect-version", summary := "Target dialect version, e.g. 2.1" }]

def nullModeSwitch : Switch :=
  { name := "null-as", accepts := fun s => (nullModeNames.lookup s).isSome
    fallback := some "null", choices := nullModeNames.map (·.1) }

def jsonSwitch : Switch :=
  { name := "json", takesValue := false, summary := "Print the lowered tree as JSON" }

def rowSwitch : Switch :=
  { name := "row", letter := some 'r', fallback := some "[]"
    summary := "Input row as a JSON array" }

def programSwitches : List Switch := [settingsSwitch, helpSwitch, versionSwitch]

def commandSummaries : List (String × String) :=
  [("render", "Render the expression as SQL"),
   ("lower", "Lower the expression to a host expression"),
   ("eval", "Lower and evaluate the expression against one row"),
   ("dialects", "List the built-in dialect profiles")]

def ownSwitches : String → List Switch
  | "render" => sourceSwitches ++ dialectSwitches
  | "lower" => sourceSwitches ++ [nullModeSwitch, jsonSwitch]
  | "eval" => sourceSwitches ++ [rowSwitch, nullModeSwitch]
  | _ => []

def switchesOf (name : String) : List Switch := settingsSwitch :: ownSwitches name ++ [helpSwitch]

/-! ## Reading -/

/-- A document is given in one place at most. -/
def sourceOf (given : Given) : Option Source :=
  match given.lookup "expr", given.lookup "file" with
  | some text, none => some (.inline text)
  | none, some path => some (.file path)
  | none, none => some .standardInput
  | some _, some _ => none

def modeOf (given : Given) : Host.NullMode :=
  ((given.lookup "null-as").bind fun s => nullModeNames.lookup s).getD .null

def commandOf (name : String) (given : Given) : Option Command :=
  match name with
  | "render" =>
    return .render (← sourceOf given) (given.lookup "dialect") (given.lookup "dialect-version")
  | "lower" =>
    return .lower (← sourceOf given) (modeOf given) (given.lookup "json").isSome
  | "eval" =>
    return .eval (← sourceOf given) ((given.lookup "row").getD "[]") (modeOf given)
  | "dialects" => some .dialects
  | _ => none

/-- The path of the settings. The switch may stand before the command or behind it, where it
counts more. The variable is looked at unless the switch stands in both places, and an empty
one is no path. -/
def settingsPath? (env : Environment) (outer inner : Given) : Option String :=
  match env.lookup settingsVariable, outer.lookup "config", inner.lookup "config" with
  | some "", some _, some path => some path
  | some "", _, _ => none
  | other, before, behind => behind <|> before <|> other <|> some settingsDefault

/-- A command that help is asked about. -/
def isTopic (name : String) : Bool := name = "help" || (commandSummaries.lookup name).isSome

/-- The request of a command line, where it is one. -/
def Request.parse (env : Environment) (args : List String) : Option Request := do
  let (outer, rest) ← scan programSwitches [] args
  if (outer.lookup "help").isSome then return help none
  if (outer.lookup "version").isSome then return version
  match rest with
  | [] => none
  | ["help"] => return help none
  | ["help", topic] => if isTopic topic then return help (some topic) else none
  | "help" :: _ => none
  | name :: words =>
    if (commandSummaries.lookup name).isNone then none
    else
      let (inner, extra) ← scan (switchesOf name) [] words
      if (inner.lookup "help").isSome then return help (some name)
      if !extra.isEmpty then none
      else return command (← settingsPath? env outer inner) (← commandOf name inner)

end RowExpr.CommandLine
