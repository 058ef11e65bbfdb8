import RowExpr.Codec.Host
import RowExpr.CommandLine.Help
import RowExpr.Dialect.Listing
import RowExpr.Document
import RowExpr.Host.Eval
import RowExpr.Json.Printer
import RowExpr.Settings.Reader
import RowExpr.Sql.Render

/-!
# Running a request

What a request prints, given what its files hold.
-/

namespace RowExpr.CommandLine

inductive CommandError
  | loading (path : String)
  | reading (path : String)
  | settings (cause : SettingsError)
  | document (cause : DocumentError)
  | lower (cause : Host.LowerError)
  | eval (cause : Host.EvalError)
  deriving Repr

def CommandError.message : CommandError → String
  | loading path => "loading " ++ path
  | reading path => "reading " ++ path
  | settings cause => cause.message
  | document cause => cause.message
  | lower cause => cause.message
  | eval cause => cause.message

/-- Settles what kind of error an error is. -/
def failing {α ε : Type} (kind : ε → CommandError) : Except ε α → Except CommandError α
  | .ok a => .ok a
  | .error e => .error (kind e)

def Source.text (content : FileContent) : Source → Except CommandError String
  | .inline text => .ok text
  | .file path =>
    match content with
    | .text s => .ok s
    | .missing | .unreadable => .error (.reading path)
  | .standardInput =>
    match content with
    | .text s => .ok s
    | .missing | .unreadable => .error (.reading "stdin")

def Source.node (content : FileContent) (source : Source) : Except CommandError Node := do
  let text ← source.text content
  let doc ← failing .document (Document.parse text)
  failing .document (doc.resolve .standard)

/-- The dialect to write. A product that is asked for comes without the version of another. -/
def dialectFor (settings : Settings) (product version : Option String) :
    Except CommandError Dialect :=
  let base : DialectSettings :=
    match product with
    | some product => { settings.dialect with product, version := none }
    | none => settings.dialect
  failing .settings { base with version := version <|> base.version }.resolve

def Command.run (settings : Settings) (content : FileContent) :
    Command → Except CommandError String
  | .render source product version => do
    let dialect ← dialectFor settings product version
    let node ← source.node content
    return Sql.text dialect node
  | .lower source mode json => do
    let node ← source.node content
    let expr ← failing .lower (Host.lower .standard node mode)
    return if json then (Codec.encodeExpr expr).pretty else expr.text
  | .eval source row mode => do
    let node ← source.node content
    let cells ← failing .document (parseRow row)
    let expr ← failing .lower (Host.lower .standard node mode)
    let v ← failing .eval (expr.eval .standard cells)
    return v.text
  | .dialects => return Dialect.listAll

def versionText : String := programName ++ " 0.1.0"

/-- What a request prints, given what the file of the settings and that of the document
hold. -/
def Request.run (env : Environment) (settings content : FileContent) :
    Request → Except CommandError String
  | .version => return versionText
  | .help topic => return helpText env topic
  | .command path c =>
    match Settings.loadOrDefault settings with
    | .error _ => .error (.loading path)
    | .ok s => c.run (s.override env) content

end RowExpr.CommandLine
