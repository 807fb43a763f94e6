import RouteTemplate.Configuration.Layer
import RouteTemplate.Files.AtomicWrite
import RouteTemplate.Json.Writer

/-!
The settings in effect. Layers are laid over one another, lowest first: defaults, user file, project file,
environment, explicit values; only the outcome is validated, so a bad value below a good one does no harm.
Writing concerns the user file alone.
-/

set_option autoImplicit false

namespace RouteTemplate.Configuration

/-- Why settings cannot be saved: the user file cannot be looked for, or not be written. -/
inductive SaveError where
  | host (fault : HostFault)
  | write (e : WriteError)
deriving Repr, DecidableEq

def SaveError.message : SaveError → Text
  | host fault => fault.message
  | write e => e.message

/-- The layers under the explicit values, lowest first. -/
def layers (host : Host) (directory : Option Path) : Except ConfigurationError (List Layer) := do
  let user ← userLayer host
  let project ← projectLayer host directory
  let environment ← environmentLayer host.environment
  return [user, project, environment]

/-- Layers laid over one another, lowest first. -/
def overlay (layers : List Layer) : Layer := layers.foldl Table.merge []

/-- The settings in effect for a directory, or for the current one. -/
def effective (host : Host) (explicit : Layer) (directory : Option Path) : Except ConfigurationError Settings := do
  let below ← layers host directory
  (Settings.ofEntries (overlay (below ++ [explicitLayer explicit]))).mapError .invalid

def fileText (settings : Settings) : Text := settings.document.write ++ [CodePoint.ofChar '\n']

/-- Writes settings to the user file and names it. -/
def save (host : Host) (settings : Settings) : Except SaveError Path × Host :=
  match userFile host with
  | .error fault => (.error (.host fault), host)
  | .ok p =>
    match host.files.writeAtomically host.directory p (fileText settings) with
    | (.error e, files) => (.error (.write e), { host with files })
    | (.ok _, files) => (.ok p, { host with files })

end RouteTemplate.Configuration
