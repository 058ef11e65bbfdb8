import RowExpr.CommandLine.Request

/-!
# Help

What the program says about itself: its commands, and the switches of each.
-/

namespace RowExpr.CommandLine

def programName : String := "sqlforge"

def spaces (n : Nat) : String := String.ofList (List.replicate n ' ')

/-- Parts of a text, but for those that are empty. -/
def joinParts (separator : String) (parts : List String) : String :=
  separator.intercalate (parts.filter (!·.isEmpty))

/-! ## Switches -/

def Switch.usage (s : Switch) : String :=
  let letter := match s.letter with
    | some c => String.ofList ['-', c, ',', ' ']
    | none => spaces 4
  let valueName := s.name.map fun c => if c = '-' then '_' else c.toUpper
  letter ++ "--" ++ s.name ++ (if s.takesValue then " <" ++ valueName ++ ">" else "")

/-- Where the value of a switch comes from when it is not given, and which values there are. -/
def Switch.notes (env : Environment) (s : Switch) : String :=
  let variableNote := s.variableName.map fun name =>
    "[env: " ++ name ++ "=" ++ (env.lookup name).getD "" ++ "]"
  let fallbackNote := s.fallback.map fun value => "[default: " ++ value ++ "]"
  let choicesNote := "[possible values: " ++ ", ".intercalate s.choices ++ "]"
  joinParts " "
    [variableNote.getD "", fallbackNote.getD "", if s.choices.isEmpty then "" else choicesNote]

/-! ## Columns -/

/-- Names in one column, and what is said about them in another. -/
def columns (lines : List (String × String)) : List String :=
  let width := (lines.map (·.1.length)).foldl max 0
  lines.map fun (name, about) => "  " ++ name ++ spaces (width + 2 - name.length) ++ about

def stacked (lines : List (String × String)) : List String :=
  lines.map fun (name, about) => "  " ++ name ++ "\n" ++ spaces 10 ++ about

/-- Whether a column of names is so wide that what is said about one of them does not fit beside
it. A line has a hundred characters, and up to forty are not too many for the names. -/
def isCrowded (env : Environment) (switches : List Switch) : Bool :=
  let taken := (switches.map (·.usage.length)).foldl max 0 + 4
  decide (40 < taken) && switches.any fun s =>
    decide (100 < taken + s.summary.length + (s.notes env).length)

def switchLines (env : Environment) (switches : List Switch) : List String :=
  let lines := switches.map fun s => (s.usage, joinParts " " [s.summary, s.notes env])
  if isCrowded env switches then stacked lines else columns lines

/-! ## Texts -/

def programSummary : String := "Render and lower SQL operator calls"

def helpSummary : String := "Print this message or the help of the given subcommand(s)"

/-- A summary, how the command is written, and what there is to choose from. -/
def helpPage (summary usage : String) (sections : List (String × List String)) : String :=
  "\n\n".intercalate
    (summary :: ("Usage: " ++ programName ++ " " ++ usage)
      :: sections.map fun (title, lines) => "\n".intercalate ((title ++ ":") :: lines))

def helpText (env : Environment) : Option String → String
  | none =>
    helpPage programSummary "[OPTIONS] <COMMAND>"
      [("Commands", columns (commandSummaries ++ [("help", helpSummary)])),
       ("Options", switchLines env programSwitches)]
  | some "help" =>
    helpPage helpSummary "help [COMMAND]..."
      [("Arguments", columns [("[COMMAND]...", "Print help for the subcommand(s)")])]
  | some name =>
    helpPage ((commandSummaries.lookup name).getD "") (name ++ " [OPTIONS]")
      [("Options", switchLines env (switchesOf name))]

end RowExpr.CommandLine
