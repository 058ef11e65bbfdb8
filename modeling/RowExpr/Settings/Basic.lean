import RowExpr.Dialect.Profile

/-!
# Settings

Which dialect to write and how to log. Variables of the environment win over what a file
says, and both over the defaults.
-/

namespace RowExpr

structure DialectSettings where
  product : String := "ansi"
  version : Option String := none
  /-- Stands in for the collation of the profile. -/
  nullCollation : Option NullCollation := none
  deriving DecidableEq, Repr, Inhabited

structure LogSettings where
  level : String := "warn"
  format : String := "compact"
  output : String := "stderr"
  directory : String := "./logs"
  deriving DecidableEq, Repr, Inhabited

structure Settings where
  dialect : DialectSettings := {}
  logging : LogSettings := {}
  deriving DecidableEq, Repr, Inhabited

inductive SettingsError
  | unreadable
  /-- The file is not YAML, or not of the right shape. -/
  | malformed
  | unknownDialect (cause : TargetError)
  deriving DecidableEq, Repr

def SettingsError.message : SettingsError → String
  | unreadable => "Failed to read config file"
  | malformed => "Failed to parse YAML"
  | unknownDialect cause => "Unknown dialect: " ++ cause.message

/-! ## The dialect -/

def DialectSettings.target (s : DialectSettings) : Except TargetError (Product × Option Version) :=
  do
    let product ← Product.parse s.product
    let version ← s.version.mapM Version.parse
    return (product, version)

def DialectSettings.resolve (s : DialectSettings) : Except SettingsError Dialect :=
  match s.target with
  | .error e => .error (.unknownDialect e)
  | .ok (product, version) =>
    let d := Dialect.ofProduct product version
    .ok { d with nullCollation := s.nullCollation.getD d.nullCollation }

/-! ## The environment -/

/-- Variables and their values. The first of one name counts. -/
abbrev Environment := List (String × String)

def Settings.variables : List String :=
  ["SQLFORGE_DIALECT", "SQLFORGE_DIALECT_VERSION", "RUST_LOG", "LOG_FORMAT", "LOG_OUTPUT",
   "LOG_DIR"]

def Settings.override (s : Settings) (env : Environment) : Settings :=
  { dialect :=
      { s.dialect with
        product := (env.lookup "SQLFORGE_DIALECT").getD s.dialect.product
        version := env.lookup "SQLFORGE_DIALECT_VERSION" <|> s.dialect.version }
    logging :=
      { level := (env.lookup "RUST_LOG").getD s.logging.level
        format := (env.lookup "LOG_FORMAT").getD s.logging.format
        output := (env.lookup "LOG_OUTPUT").getD s.logging.output
        directory := (env.lookup "LOG_DIR").getD s.logging.directory } }

theorem Settings.override_nil (s : Settings) : s.override [] = s := rfl

/-! ## Logs -/

inductive LogFormat
  | pretty
  | json
  | compact
  deriving DecidableEq, Repr, Inhabited

/-- The format of a name; compact for any other. -/
def LogFormat.parse (s : String) : LogFormat :=
  if s = "json" then json else if s = "pretty" then pretty else compact

inductive LogOutput
  | stderr
  | file
  | both
  deriving DecidableEq, Repr, Inhabited

/-- The output of a name; the error stream for any other. -/
def LogOutput.parse (s : String) : LogOutput :=
  if s = "file" then file else if s = "both" then both else stderr

end RowExpr
