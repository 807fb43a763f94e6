import RouteTemplate.Environment
import RouteTemplate.Files.Tree
import RouteTemplate.Text.LineEnd
import RouteTemplate.Text.Utf8

set_option autoImplicit false

namespace RouteTemplate

/-- What keeps a process from finding its files: it has no home directory, or a path cannot be followed. -/
inductive HostFault where
  | noHome
  | file (e : FileError)
deriving Repr, DecidableEq

def HostFault.message : HostFault → Text
  | noHome => "Could not determine home directory."
  | file e => e.message

/-- What a process finds around it. The account has a home directory, which counts where the environment
names none. -/
structure Host where
  files : FileTree := {}
  directory : Place := []
  environment : Environment := []
  system : Text := "Linux"
  account : Text := "/root"
deriving Repr, DecidableEq

namespace Host

def read (host : Host) (p : Path) : Except FileError (Option (List UInt8)) := host.files.read host.directory p

def currentPath (host : Host) : Path := ⟨.root, host.directory⟩

/-- The home directory: as the environment has it, without slashes at its end. A tilde in front stands for a home
directory itself, so it names none. -/
def home (host : Host) : Except HostFault Path :=
  let named : Text := (host.environment.get? "HOME").getD host.account
  let bare : Text := (named.reverse.dropWhile fun (c : CodePoint) => c = '/').reverse
  if bare.startsWith "~" then .error .noHome else .ok (Path.ofText (if bare.isEmpty then "/" else bare))

def makeDirectories (host : Host) (p : Path) : Except FileError Unit × Host :=
  let (result, files) := host.files.makeDirectories host.directory p
  (result, { host with files })

/-- Goes to another directory, which has to be there. -/
def changeDirectory (host : Host) (p : Path) : Except FileError Host :=
  match host.files.locate host.directory p with
  | .error fault => .error ⟨fault, p.text, none⟩
  | .ok place =>
    match host.files.node? place with
    | none => .error ⟨.missing, p.text, none⟩
    | some (.file _) => .error ⟨.notDirectory, p.text, none⟩
    | some .directory => .ok { host with directory := place }

end Host

/-- Reads the octets of a text file; line ends are unified. -/
def readTextFile (octets : List UInt8) : Except Text.OctetError Text :=
  (Text.ofOctets octets).map Text.unifyLineEnds

end RouteTemplate
