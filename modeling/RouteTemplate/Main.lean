import RouteTemplate.CommandLine.Run

set_option autoImplicit false

namespace RouteTemplate.Main

/-- A text as a string; a surrogate becomes the replacement mark. -/
def stringOf (t : Text) : String := String.ofList (t.map fun c => Char.ofNat (if c.isSurrogate then 0xFFFD else c.val))

def variableNames : List String :=
  ["HOME", "XDG_CONFIG_HOME", "NO_COLOR", "TERM", "COLUMNS"] ++
    Setting.all.map fun s => stringOf s.variableName

def readEnvironment : IO Environment :=
  variableNames.filterMapM fun name => do
    return (← IO.getEnv name).map fun value => (Text.ofString name, Text.ofString value)

def look (directory : Place) (tree : FileTree) (p : Path) : IO FileTree := do
  match tree.locate directory p with
  | .error _ => return tree
  | .ok place =>
    let name := (← IO.currentDir) / stringOf p.text
    if ← name.isDir then return tree.put place .directory
    else if ← name.pathExists then return tree.put place (.file (← IO.FS.readBinFile name).toList)
    else return tree

/-- Enters what stands along a path into a tree. -/
def lookAlong (directory : Place) (tree : FileTree) (p : Path) : IO FileTree :=
  (List.range p.names.length).foldlM (fun tree i => look directory tree ⟨p.anchor, p.names.take (i + 1)⟩) tree

def readSystem : IO Text :=
  try
    return (Text.ofString (← IO.FS.readFile "/proc/sys/kernel/ostype")).trim
  catch _ => return []

def readHost : IO Host := do
  let current := Path.ofText (Text.ofString (← IO.currentDir).toString)
  let host : Host :=
    { directory := current.names, environment := ← readEnvironment, system := ← readSystem }
  let files ← ([current, Configuration.projectFile host none] ++ (Configuration.userFile host).toOption.toList).foldlM
    (lookAlong host.directory) {}
  return { host with files }

/-- Carries changes of a tree over. A file is written beside its place and then moved there. -/
def carryOver (before after : FileTree) : IO Unit :=
  for (place, node) in after.entries do
    if before.node? place = some node then continue
    let name := stringOf (Path.text ⟨.root, place⟩)
    match node with
    | .directory => IO.FS.createDirAll name
    | .file octets =>
      let temporary := name ++ ".tmp"
      IO.FS.writeBinFile temporary ⟨octets.toArray⟩
      IO.FS.rename temporary name

def helpText : String :=
  "Usage: httpbutler [OPTIONS] COMMAND [ARGS]...\n\n" ++
  "Commands:\n" ++
  "  resolve TEMPLATE [-p NAME=VALUE]... [-b URL]\n" ++
  "  inspect TEMPLATE\n" ++
  "  config show | set KEY VALUE | reset [-f]\n\n" ++
  "Options: --version --json --plain --no-color -q/--quiet -v/--verbose --strict/--lenient --help\n"

def finish (alreadyWritten : Nat) : CommandLine.Ending → IO UInt32
  | .help code => do
    IO.print helpText
    return UInt32.ofNat code.toNat
  | .misuse => do
    IO.eprint helpText
    return 2
  | .done code written => do
    IO.print (stringOf (written.data.drop alreadyWritten))
    IO.eprint (stringOf written.diagnostics)
    return UInt32.ofNat (code % 256).toNat

/-- Runs the program. While it gives a question up for want of input, a line is read and it runs anew on what
was read so far. -/
partial def loop (host : Host) (interactive : Bool) (arguments : List Text) (input : Text) (alreadyWritten : Nat) :
    IO UInt32 := do
  let (ending, after) := CommandLine.run host interactive arguments input
  let conclude : IO UInt32 := do
    carryOver host.files after.files
    finish alreadyWritten ending
  match ending with
  | .done _ written =>
    if written.diagnostics = CommandLine.Ending.abortMessage then
      let output ← IO.getStdout
      output.putStr (stringOf (written.data.drop alreadyWritten))
      output.flush
      let line ← (← IO.getStdin).getLine
      if line.isEmpty then finish written.data.length ending
      else loop host interactive arguments (input ++ Text.ofString line) written.data.length
    else conclude
  | _ => conclude

end RouteTemplate.Main

def main (arguments : List String) : IO UInt32 := do
  RouteTemplate.Main.loop (← RouteTemplate.Main.readHost) (← (← IO.getStdout).isTty)
    (arguments.map RouteTemplate.Text.ofString) [] 0
