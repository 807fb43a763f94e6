import RouteTemplate.Coercion
import RouteTemplate.Configuration.Location
import RouteTemplate.Configuration.Validation
import RouteTemplate.ErrorClass
import RouteTemplate.Json.Reader

set_option autoImplicit false

namespace RouteTemplate

/-- The entries of a layer. Those given explicitly, which a caller could make of any objects, are values of a document
here like all others. -/
abbrev Layer := List (Text × Json)

inductive FileLayer where
  | user
  | project
deriving Repr, DecidableEq

def FileLayer.title : FileLayer → Text
  | user => "user config"
  | project => "project config"

inductive LayerFault where
  | octets (e : Text.OctetError)
  | document (text : Text) (e : Json.ReadError)
  | notObject
deriving Repr, DecidableEq

def LayerFault.message : LayerFault → Text
  | octets e => e.message
  | document text e => e.message text
  | notObject => "expected a JSON object"

/-- Why there is no configuration: a layer or the outcome is at fault, the files cannot be looked for, or a document
is nested too deeply to be read. -/
inductive ConfigurationError where
  | file (layer : FileLayer) (path : Text) (fault : LayerFault)
  | badVariable (name value : Text)
  | invalid (issues : List Issue)
  | host (fault : HostFault)
  | tooDeep (container : Json.Container)
deriving Repr, DecidableEq

def issueCount (issues : List Issue) : Text :=
  List.flatten [Text.ofNat issues.length, if issues.length = 1 then " validation error" else " validation errors",
    " for ResolverConfig"]

/-- The error in words. Issues are counted and not listed. -/
def ConfigurationError.message : ConfigurationError → Text
  | file layer path fault => List.flatten ["Invalid ", layer.title, " at ", path, ": ", fault.message]
  | badVariable name value =>
    List.flatten ["Environment variable '", name, "' must be a boolean (true/false, 1/0, yes/no, on/off), got: ",
      value.quoted]
  | invalid issues => "Invalid resolver configuration: " ++ issueCount issues
  | host fault => fault.message
  | tooDeep container => (Json.Fault.tooDeep container).message

/-- The report of the error, if it has one: faults of the host and documents nested too deeply have none. -/
def ConfigurationError.report? (e : ConfigurationError) : Option Report :=
  match e with
  | .host _ | .tooDeep _ => none
  | e => some (.of .configuration e.message none)

namespace Configuration

def readLayer (octets : List UInt8) : Except LayerFault Layer :=
  match readTextFile octets with
  | .error e => .error (.octets e)
  | .ok text =>
    match Json.read text with
    | .error e => .error (.document text e)
    | .ok (.object entries) => .ok entries
    | .ok _ => .error .notObject

def faultyFile (layer : FileLayer) (p : Path) : LayerFault → ConfigurationError
  | .document _ ⟨.tooDeep container, _⟩ => .tooDeep container
  | fault => .file layer p.text fault

def fileLayer (host : Host) (layer : FileLayer) (p : Path) : Except ConfigurationError Layer :=
  match host.read p with
  | .error e => .error (.host (.file e))
  | .ok none => .ok []
  | .ok (some octets) => (readLayer octets).mapError (faultyFile layer p)

def userLayer (host : Host) : Except ConfigurationError Layer :=
  match userFile host with
  | .error fault => .error (.host fault)
  | .ok p => fileLayer host .user p

def projectLayer (host : Host) (directory : Option Path) : Except ConfigurationError Layer :=
  fileLayer host .project (projectFile host directory)

/-- The entry that the environment gives for a setting. -/
def fromVariable (environment : Environment) (s : Setting) : Except ConfigurationError (Option (Text × Json)) :=
  let value := environment.getD s.variableName
  if value.isBlank then .ok none
  else
    match readTruth? value with
    | some b => .ok (some (s.key, .bool b))
    | none => .error (.badVariable s.variableName value)

def environmentLayer (environment : Environment) : Except ConfigurationError Layer :=
  (Setting.all.mapM (fromVariable environment)).map fun entries => entries.filterMap id

/-- The layer of explicit values; an absent value counts as not given. -/
def explicitLayer (values : Layer) : Layer :=
  values.filter fun entry => match entry.2 with
    | .null => false
    | _ => true

end Configuration

end RouteTemplate
