import RouteTemplate.Files.Tree
import RouteTemplate.Text.Utf8

/-!
Writing a file in one step: the text goes to a temporary file in the directory of the target, which then
takes the place of the target. Whatever fails before that, the temporary file is taken away again, so the
target holds its old octets or the new ones and nothing else is left.
-/

set_option autoImplicit false

namespace RouteTemplate

inductive WriteError where
  | file (e : FileError)
  | surrogates (run : SurrogateRun)
deriving Repr, DecidableEq

def WriteError.message : WriteError → Text
  | .file e => e.message
  | .surrogates run => run.message

namespace FileTree

def longestName (tree : FileTree) : Nat :=
  tree.entries.foldl (fun longest entry => entry.1.foldl (fun longest name => max longest name.length) longest) 0

/-- A name for a temporary file next to a file; it is longer than any name in the tree, hence free. -/
def temporaryName (tree : FileTree) (name : Text) : Text :=
  List.flatten [".", name, ".", List.replicate (tree.longestName + 1) (CodePoint.ofChar '0'), ".tmp"]

/-- The number of octets by which the name of a temporary file is longer than the name of the file. -/
def temporaryMargin : Nat := 14

/-- Why no temporary file can be made next to a file of a name, if so. -/
def temporaryFault? (name : Text) : Option FileFault :=
  if Path.holdsNull name then some .embeddedNull
  else if Path.nameLimit < (Path.octets name).length + temporaryMargin then some .tooLong
  else none

/-- The path of a file in a folder, from the root on; two slashes in front of a path are kept. -/
def pathFrom (anchor : Anchor) (folder : Place) (name : Text) : Path :=
  ⟨if anchor = .doubled then .doubled else .root, folder ++ [name]⟩

/-- Why a path cannot be handed over that is to be written to, if so. The path of the temporary file is made from the
root on, and of the margin of its name the dot in front is there already. -/
def pathFault? (directory : Place) (p : Path) : Option WriteError :=
  let temporary := (pathFrom p.anchor (p.parent.place directory) (CodePoint.ofChar '.' :: p.name)).text
  match Path.surrogates? p.parent.text, Path.surrogates? temporary with
  | some run, _ | none, some run => some (.surrogates run)
  | none, none =>
    if Path.pathLimit ≤ (Path.octets temporary).length + (temporaryMargin - 1) then
      some (.file ⟨.tooLong, temporary, none⟩)
    else if p.isTooLong then some (.file ⟨.tooLong, temporary, some p.text⟩)
    else none

/-- Moves what stands at one place to another and puts it in the place of a file there; a directory is not
replaced. -/
def rename (tree : FileTree) (source target : Place) : Except FileFault FileTree :=
  match tree.node? source, tree.node? target with
  | none, _ => .error .missing
  | some _, some .directory => .error .isDirectory
  | some node, _ => .ok ((tree.remove source).put target node)

/-- Writes a text to a temporary file in a folder and lets it take the place of a path in that folder. What has
no name of its own cannot be replaced. -/
def replaceIn (tree : FileTree) (folder : Place) (p : Path) (content : Text) :
    Except WriteError Unit × FileTree :=
  let name := tree.temporaryName p.name
  let temporary := folder ++ [name]
  let written := (pathFrom p.anchor folder name).text
  match temporaryFault? p.name with
  | some fault => (.error (.file ⟨fault, written, none⟩), tree)
  | none =>
    let opened := tree.put temporary (.file [])
    match content.encode with
    | .error run => (.error (.surrogates run), opened.remove temporary)
    | .ok octets =>
      let filled := opened.put temporary (.file octets)
      let renamed :=
        if p.names.isEmpty || p.name = Text.ofString ".." then .error .busy
        else filled.rename temporary (folder ++ [p.name])
      match renamed with
      | .ok tree => (.ok (), tree)
      | .error fault =>
        (.error (.file ⟨fault, written, some p.text⟩), filled.remove temporary)

/-- Writes a text to a file in one step, making the directories above it. Where the whole path cannot be handed over,
directories that were made on the way are not shown. -/
def writeAtomically (tree : FileTree) (directory : Place) (p : Path) (content : Text) :
    Except WriteError Unit × FileTree :=
  match tree.makeDirectories directory p.parent with
  | (.error e, tree) => (.error (.file e), tree)
  | (.ok _, made) =>
    match pathFault? directory p with
    | some e => (.error e, tree)
    | none =>
      match made.locate directory p.parent with
      | .error fault => (.error (.file ⟨fault, p.parent.text, none⟩), made)
      | .ok folder => made.replaceIn folder p content

end FileTree

end RouteTemplate
