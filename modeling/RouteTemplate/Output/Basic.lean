import RouteTemplate.Decimal.Literal
import RouteTemplate.Environment
import RouteTemplate.Json.Writer
import RouteTemplate.Output.Grid
import RouteTemplate.Value.Literal

set_option autoImplicit false

namespace RouteTemplate

inductive OutputFormat where
  | json
  | plain
  | rich
deriving Repr, DecidableEq

/-- What is asked of an output. Without a format it is chosen by the terminal. -/
structure OutputOptions where
  format : Option OutputFormat := none
  noColor : Bool := false
  quiet : Bool := false
  verbose : Bool := false
deriving Repr, DecidableEq

/-- What the surroundings say: is colour unwanted, is the first stream a terminal, and how wide are the lines of data
and of diagnostics. -/
structure Surroundings where
  colorUnwanted : Bool
  interactive : Bool
  dataColumns : Nat
  columns : Nat
deriving Repr, DecidableEq

namespace Surroundings

/-- Reads the surroundings off environment variables. Lines have 80 columns where nothing else is said, and on a
terminal that can do nothing but has no full size given. -/
def ofEnvironment (environment : Environment) (interactive : Bool) : Surroundings :=
  let said (name : Text) : Option Nat :=
    let value := environment.getD name
    if Decimal.isDigits value then some (Decimal.digitsValue value) else none
  let terminal := (environment.getD "TERM").asciiLower
  let idle : Bool := terminal = Text.ofString "dumb" || terminal = Text.ofString "unknown"
  let columns := (said "COLUMNS").getD 80
  { colorUnwanted := (environment.get? "NO_COLOR").isSome || environment.get? "TERM" = some (Text.ofString "dumb")
    interactive, columns
    dataColumns := if idle && (said "LINES").isNone then 80 else columns }

end Surroundings

structure Output where
  format : OutputFormat
  noColor : Bool
  quiet : Bool
  verbose : Bool
  dataColumns : Nat
  columns : Nat
deriving Repr, DecidableEq

/-- What was written to the two streams. -/
structure Written where
  data : Text := []
  diagnostics : Text := []
deriving Repr, DecidableEq

namespace Written

def append (a b : Written) : Written := ⟨a.data ++ b.data, a.diagnostics ++ b.diagnostics⟩

instance : Append Written := ⟨append⟩

end Written

inductive Level where
  | debug
  | info
  | warning
  | error
deriving Repr, DecidableEq

namespace Level

def plainStart : Level → Text
  | debug => "[debug] "
  | info => ""
  | warning => "Warning: "
  | error => "Error: "

def styled (level : Level) (message : Text) : Text :=
  match level with
  | debug => List.flatten ["[dim]\\[debug] ", message, "[/dim]"]
  | info => message
  | warning => "[yellow]Warning:[/yellow] " ++ message
  | error => "[bold red]Error:[/bold red] " ++ message

end Level

namespace Json

mutual

def toValue : Json → Value
  | null => .absent
  | bool b => .bool b
  | int n => .int n
  | float x => .float x
  | text t => .text t
  | array items => .list (itemValues items)
  | object entries => .dict (entryValues entries)

def itemValues : List Json → List Value
  | [] => []
  | item :: items => item.toValue :: itemValues items

def entryValues : List (Text × Json) → List (Value × Value)
  | [] => []
  | (key, item) :: entries => (.text key, item.toValue) :: entryValues entries

end

/-- The text of a document in the plain format: a text as it stands, all else as a literal. -/
def plainText : Json → Text
  | text t => t
  | j => j.toValue.literal

def plainLines : Json → List Text
  | object entries => entries.map fun (key, item) => List.flatten [key, "\t", item.plainText]
  | array items => items.map fun item =>
    match item with
    | object entries => Text.joinWith "\t" (entries.map fun entry => entry.2.plainText)
    | other => other.plainText
  | j => [j.plainText]

end Json

namespace Output

def ofOptions (options : OutputOptions) (surroundings : Surroundings) : Output :=
  let noColor := options.noColor || surroundings.colorUnwanted
  { format := options.format.getD (if surroundings.interactive && !noColor then .rich else .plain),
    noColor, quiet := options.quiet, verbose := options.verbose,
    dataColumns := surroundings.dataColumns, columns := surroundings.columns }

def joinLines (lines : List Text) : Text := lines.flatMap fun line => line ++ [CodePoint.ofChar '\n']

/-- Writes a text and a line end as data. The stream takes every text without surrogates. -/
def printData (_ : Output) (t : Text) : Written := { data := joinLines [t] }

/-- Writes a document as data. In the rich format only its text is told, without the styles of a terminal. -/
def printDocument (output : Output) (document : Json) : Written :=
  match output.format with
  | .json => output.printData document.write
  | .plain => { data := joinLines document.plainLines }
  | .rich =>
    match document with
    | .object _ | .array _ =>
      { data := joinLines ((document.write.wrap output.dataColumns).map (Text.padRight output.dataColumns)) }
    | scalar => { data := joinLines (scalar.plainText.wrap output.dataColumns) }

/-- Writes a table as data. As a document it is an array with an object for each row, and as a grid it is without the
styles of a terminal. -/
def printTable (output : Output) (headers : List Text) (rows : List (List Text)) (title : Option Text) : Written :=
  match output.format with
  | .json =>
    output.printData (Json.array (rows.map fun row =>
      .object (Table.ofList (headers.zip (row.map .text))))).write
  | .plain => { data := joinLines ((headers :: rows).map (Text.joinWith "\t")) }
  | .rich => { data := joinLines (gridLines output.dataColumns headers rows title) }

def shows (output : Output) : Level → Bool
  | .debug => output.verbose
  | .info => !output.quiet
  | .warning => true
  | .error => true

def tell (output : Output) (level : Level) (message : Text) : Written :=
  if !output.shows level then {}
  else if output.noColor then { diagnostics := joinLines [level.plainStart ++ message] }
  else { diagnostics := joinLines ((Markup.shown (level.styled (Markup.escape message))).wrap output.columns) }

/-- A diagnostic is no data. -/
@[simp] theorem tell_data (output : Output) (level : Level) (message : Text) :
    (output.tell level message).data = [] := by
  unfold tell
  split
  · rfl
  · split <;> rfl

end Output

end RouteTemplate
