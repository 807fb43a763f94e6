import RouteTemplate.CommandLine.Confirmation
import RouteTemplate.CommandLine.Ending
import RouteTemplate.CommandLine.Request
import RouteTemplate.Configuration.Effective
import RouteTemplate.ParameterPairs
import RouteTemplate.RouteUrl

set_option autoImplicit false

namespace RouteTemplate.CommandLine

def versionText : Text := "httpbutler 0.1.0"

def Failure.ofRouteUrlError : RouteUrlError → Failure
  | .route e =>
    match Report.ofResolveError? e with
    | some report => ofReport report
    | none => unexpected e.message
  | .url e => unexpected e.message

def Failure.ofConfigurationError (e : ConfigurationError) : Failure :=
  e.report?.elim (unexpected e.message) ofReport

def tellTraces (output : Output) (traces : List Trace) : Written :=
  traces.foldl (fun written trace => written ++ output.tell .debug trace.message) {}

def bagOf (parameters : List (Text × Text)) : Bag :=
  .ofEntries "dict" (parameters.map fun (name, value) => (.text name, .text value))

/-- Resolves a template with the parameters, to a URL where there is a base that is not empty. -/
def resolveText (settings : Settings) (template : Text) (parameters : List (Text × Text)) (base : Option Text) :
    Outcome RouteUrlError Text :=
  match base with
  | none | some [] =>
    let outcome := resolveCached settings {} template (some (bagOf parameters))
    ⟨outcome.result.mapError .route, outcome.caches, outcome.traces⟩
  | some base =>
    let outcome := resolveUrlCached settings {} template (some (bagOf parameters)) (some base)
    ⟨outcome.result.map Url.text, outcome.caches, outcome.traces⟩

def resolutionDocument (template : Text) (parameters : List (Text × Text)) (uri : Text) : Json :=
  .object [("template", .text template),
    ("params", .object (parameters.map fun (name, value) => (name, .text value))), ("uri", .text uri)]

def runResolve (output : Output) (settings : Settings) (template : Text) (entries : List Text)
    (base : Option Text) : Ending :=
  match readPairs entries with
  | .error e => .failed output {} (.ofReport (.of .usage e.message none))
  | .ok parameters =>
    let outcome := resolveText settings template parameters base
    let before := tellTraces output outcome.traces
    match outcome.result with
    | .error e => .failed output before (.ofRouteUrlError e)
    | .ok uri =>
      .done 0 (before ++
        if output.format = .json then output.printDocument (resolutionDocument template parameters uri)
        else output.printData uri)

def kindName : PlaceholderKind → Text
  | .path => "path"
  | .query => "query"

/-- An offset as a document, with -1 for none. -/
def offsetDocument : Option Nat → Json
  | none => .int (-1)
  | some offset => .int offset

def templateDocument (t : Template) : Json :=
  .object [("template", .text t.source), ("query_marker_offset", offsetDocument t.queryMarker?),
    ("placeholders", .array (t.placeholders.map fun p =>
      .object [("name", .text p.name), ("kind", .text (kindName p.kind)), ("template_offset", .int p.offset)])),
    ("unterminated_offset", offsetDocument t.unterminated?)]

def placeholderRows (t : Template) : List (List Text) :=
  t.placeholders.map fun p => [p.name, kindName p.kind, Text.ofNat p.offset]

def markerMessage (t : Template) : Text :=
  match t.queryMarker? with
  | some offset => "Query marker at offset " ++ Text.ofNat offset
  | none => "No query marker"

def tellUnterminated (output : Output) (template : Text) (t : Template) : Written :=
  match t.unterminated? with
  | some offset =>
    output.tell .warning (malformedMessage template offset ++ Text.ofString "; the text will be copied verbatim")
  | none => {}

def runInspect (output : Output) (settings : Settings) (template : Text) : Ending :=
  let (t, _, traces) := ({} : TemplateCache).getOrParse template
  let before := tellTraces output traces
  match refused settings template t with
  | some e => .failed output before (.ofRouteUrlError (.route e))
  | none =>
    let before := before ++ tellUnterminated output template t
    if output.format = .json then .done 0 (before ++ output.printDocument (templateDocument t))
    else
      .done 0 (before ++ output.printTable ["Name", "Kind", "Offset"] (placeholderRows t) (some template) ++
        output.tell .info (markerMessage t))

/-- The command that shows the settings. It makes the directory of the user file. -/
def runShowSettings (output : Output) (settings : Settings) (host : Host) : Ending × Host :=
  match Configuration.makeUserDirectory host with
  | (.error fault, host) => (.failed output {} (.unexpected fault.message), host)
  | (.ok directory, host) =>
    (.done 0 (output.tell .info ("User config lives in " ++ directory.text) ++
      output.printDocument settings.document), host)

def truthText (b : Bool) : Text := if b then "true" else "false"

def saveThenTell (output : Output) (before : Written) (settings : Settings) (message : Path → Text) (host : Host) :
    Ending × Host :=
  match Configuration.save host settings with
  | (.error e, host) => (.failed output before (.unexpected e.message), host)
  | (.ok p, host) => (.done 0 (before ++ output.tell .info (message p)), host)

/-- The settings of the user file with one of them changed. The other entries of the file have to be settings
too. -/
def changedSettings (host : Host) (s : Setting) (value : Bool) : Except Failure Settings :=
  let refusal (reason : Text) : Failure :=
    ⟨"Cannot update the user config: " ++ reason, ErrorClass.configuration.exitCode⟩
  match Configuration.userLayer host with
  | .error e => .error (e.report?.elim (.unexpected e.message) fun report => refusal report.message)
  | .ok entries =>
    (Settings.ofEntries (Table.put s.key (.bool value) entries)).mapError fun issues => refusal (issueCount issues)

def runSet (output : Output) (key value : Text) (host : Host) : Ending × Host :=
  match Setting.ofKey? key with
  | none =>
    (.failed output {} ⟨List.flatten ["Unknown config key: ", key, " (expected one of: ",
      Text.joinWith ", " (Setting.all.map Setting.key), ")"], ErrorClass.usage.exitCode⟩, host)
  | some s =>
    match readTruth? value with
    | none =>
      (.failed output {}
        ⟨List.flatten ["Expected a boolean for ", key, ", got: ", value], ErrorClass.usage.exitCode⟩,
        host)
    | some b =>
      match changedSettings host s b with
      | .error failure => (.failed output {} failure, host)
      | .ok settings =>
        saveThenTell output {} settings
          (fun p => List.flatten ["Set ", key, " = ", truthText b, " in ", p.text]) host

def resetQuestion : Text := "Reset the user config to defaults? [y/N]: "

/-- The command that resets the user file to the defaults, after a question unless it is forced. -/
def runReset (output : Output) (force : Bool) (input : Text) (host : Host) : Ending × Host :=
  let (reply, before) := if force then (.yes, {}) else confirm resetQuestion (inputLines input)
  match reply with
  | .givenUp => (.aborted before, host)
  | .no => (.done 0 (before ++ output.tell .info "Cancelled."), host)
  | .yes =>
    saveThenTell output before {} (fun p => List.flatten ["Reset ", p.text, " to defaults."]) host

namespace Command

def run (output : Output) (settings : Settings) (input : Text) (host : Host) : Command → Ending × Host
  | resolve template parameters base => (runResolve output settings template parameters base, host)
  | inspect template => (runInspect output settings template, host)
  | showSettings => runShowSettings output settings host
  | set key value => runSet output key value host
  | reset force => runReset output force input host

end Command

namespace Globals

def outputOptions (globals : Globals) : OutputOptions where
  format := if globals.json then some .json else if globals.plain then some .plain else none
  noColor := globals.noColor
  quiet := globals.quiet
  verbose := globals.verbose

def layer (globals : Globals) : Layer :=
  match globals.strict with
  | some on => [(Setting.strictTemplates.key, .bool on)]
  | none => []

end Globals

def outputOf (host : Host) (interactive : Bool) (options : OutputOptions) : Output :=
  .ofOptions options (.ofEnvironment host.environment interactive)

/-- Runs the program with arguments and an input. The settings in effect are found before the arguments of the
command are looked at. -/
def run (host : Host) (interactive : Bool) (arguments : List Text) (input : Text) : Ending × Host :=
  match Request.read arguments with
  | .version => (.done 0 { data := versionText ++ Text.ofString "\n" }, host)
  | .help code => (.help code, host)
  | .misuse => (.misuse, host)
  | .start globals asked =>
    let output := outputOf host interactive globals.outputOptions
    match Configuration.effective host globals.layer none with
    | .error e => (.failed output {} (.ofConfigurationError e), host)
    | .ok settings =>
      match asked with
      | .help code => (.help code, host)
      | .misuse => (.misuse, host)
      | .command c => c.run output settings input host

end RouteTemplate.CommandLine
