import RouteTemplate.Host

set_option autoImplicit false

namespace RouteTemplate.Configuration

def directoryName : Text := "httpbutler"

def userFileName : Text := "config.json"

def projectFileName : Text := "httpbutler.json"

/-- Does a system keep configuration in a directory of its own under the home directory? -/
def hasConfigHome (system : Text) : Bool := system = Text.ofString "Linux" || system.endsWith "BSD"

/-- The directory of the user file. A variable may name the directory above it; an empty one counts as none. -/
def userDirectory (host : Host) : Except HostFault Path :=
  if hasConfigHome host.system then
    let named := host.environment.getD "XDG_CONFIG_HOME"
    if named.isEmpty then
      host.home.map fun home => (home.join (Path.ofName ".config")).join (Path.ofName directoryName)
    else .ok ((Path.ofText named).join (Path.ofName directoryName))
  else host.home.map fun home => home.join (Path.ofName (CodePoint.ofChar '.' :: directoryName))

def userFile (host : Host) : Except HostFault Path :=
  (userDirectory host).map fun directory => directory.join (Path.ofName userFileName)

def projectFile (host : Host) (directory : Option Path) : Path :=
  (directory.getD host.currentPath).join (Path.ofName projectFileName)

def makeUserDirectory (host : Host) : Except HostFault Path × Host :=
  match userDirectory host with
  | .error fault => (.error fault, host)
  | .ok directory =>
    match host.makeDirectories directory with
    | (.error e, host) => (.error (.file e), host)
    | (.ok _, host) => (.ok directory, host)

end RouteTemplate.Configuration
