import RouteTemplate.Files.Path
import RouteTemplate.Table
import RouteTemplate.Text.Quoted

set_option autoImplicit false

namespace RouteTemplate

/-- A place in a tree: the names from the root down to it. -/
abbrev Place := List Text

inductive Node where
  | file (octets : List UInt8)
  | directory
deriving Repr, DecidableEq

/-- Why an operation on a tree of files fails, as an operating system says it. -/
inductive FileFault where
  | missing
  | busy
  | occupied
  | notDirectory
  | isDirectory
  | tooLong
  | embeddedNull
deriving Repr, DecidableEq

namespace FileFault

/-- The number that operating systems give to the fault. A path that cannot be handed over to one has none. -/
def number? : FileFault → Option Nat
  | missing => some 2
  | busy => some 16
  | occupied => some 17
  | notDirectory => some 20
  | isDirectory => some 21
  | tooLong => some 36
  | embeddedNull => none

def reason : FileFault → Text
  | missing => "No such file or directory"
  | busy => "Device or resource busy"
  | occupied => "File exists"
  | notDirectory => "Not a directory"
  | isDirectory => "Is a directory"
  | tooLong => "File name too long"
  | embeddedNull => "embedded null byte"

end FileFault

/-- A fault with the path it concerns, and the second path of an operation on two. -/
structure FileError where
  fault : FileFault
  path : Text
  target : Option Text := none
deriving Repr, DecidableEq

def FileError.message (e : FileError) : Text :=
  match e.fault.number? with
  | some number =>
    List.flatten ["[Errno ", Text.ofNat number, "] ", e.fault.reason, ": ", e.path.quoted,
      (e.target.map fun t => (" -> " : Text) ++ t.quoted).getD []]
  | none => e.fault.reason

/-- A tree of files and directories. -/
structure FileTree where
  entries : List (Place × Node) := []
deriving Repr, DecidableEq

namespace FileTree

/-- What stands at a place. -/
def node? (tree : FileTree) (place : Place) : Option Node :=
  if place.isEmpty then some .directory else Table.get? place tree.entries

def octets? (tree : FileTree) (place : Place) : Option (List UInt8) :=
  match tree.node? place with
  | some (.file octets) => some octets
  | _ => none

def isDirectory (tree : FileTree) (place : Place) : Bool := tree.node? place = some .directory

def put (tree : FileTree) (place : Place) (node : Node) : FileTree := ⟨Table.put place node tree.entries⟩

def remove (tree : FileTree) (place : Place) : FileTree := ⟨Table.erase place tree.entries⟩

def removeAll (tree : FileTree) (place : Place) : FileTree :=
  ⟨tree.entries.filter fun entry => !(place = entry.1.take place.length)⟩

/-- Goes on by one name, which needs a directory to go on from and must not be too long. -/
def enter (tree : FileTree) (place : Place) (name : Text) : Except FileFault Place :=
  match tree.node? place with
  | none => .error .missing
  | some (.file _) => .error .notDirectory
  | some .directory =>
    if Path.isTooLongName name then .error .tooLong
    else .ok (if name = Text.ofString ".." then place.dropLast else place ++ [name])

/-- Follows names from a place. The last of them need not be there. -/
def follow (tree : FileTree) : (place : Place) → List Text → Except FileFault Place
  | place, [] => .ok place
  | place, name :: names =>
    match tree.enter place name with
    | .error fault => .error fault
    | .ok next => tree.follow next names

/-- The place that a path names for someone in a directory. -/
def locate (tree : FileTree) (directory : Place) (p : Path) : Except FileFault Place :=
  if p.names.any Path.holdsNull then .error .embeddedNull
  else if p.isTooLong then .error .tooLong
  else tree.follow (if p.anchor = .here then directory else []) p.names

/-- The octets of the file that a path names, if it names one. A path that leads nowhere names none, but one that is
too long is an error. -/
def read (tree : FileTree) (directory : Place) (p : Path) : Except FileError (Option (List UInt8)) :=
  match tree.locate directory p with
  | .error fault => if fault = .tooLong then .error ⟨fault, p.text, none⟩ else .ok none
  | .ok place => .ok (tree.octets? place)

def namesDirectory (tree : FileTree) (directory : Place) (p : Path) : Bool :=
  match tree.locate directory p with
  | .error _ => false
  | .ok place => tree.isDirectory place

/-- Makes one directory, where nothing may stand. -/
def makeDirectory (tree : FileTree) (directory : Place) (p : Path) : Except FileError FileTree :=
  match tree.locate directory p with
  | .error fault => .error ⟨fault, p.text, none⟩
  | .ok place =>
    match tree.node? place with
    | some _ => .error ⟨.occupied, p.text, none⟩
    | none => .ok (tree.put place .directory)

def ensureDirectory (tree : FileTree) (directory : Place) (p : Path) : Except FileError FileTree :=
  match tree.makeDirectory directory p with
  | .ok tree => .ok tree
  | .error e => if tree.namesDirectory directory p then .ok tree else .error e

/-- Makes the directory of an anchor and names, last name first, with those above it that are missing. What
was made before a failure stays. -/
def ensureChain (tree : FileTree) (directory : Place) (anchor : Anchor) :
    (names : List Text) → Except FileError Unit × FileTree
  | [] =>
    match tree.ensureDirectory directory ⟨anchor, []⟩ with
    | .ok tree => (.ok (), tree)
    | .error e => (.error e, tree)
  | name :: above =>
    let p : Path := ⟨anchor, (name :: above).reverse⟩
    match tree.ensureDirectory directory p with
    | .ok tree => (.ok (), tree)
    | .error e =>
      if e.fault = .missing then
        match tree.ensureChain directory anchor above with
        | (.error e, tree) => (.error e, tree)
        | (.ok _, tree) =>
          match tree.ensureDirectory directory p with
          | .ok tree => (.ok (), tree)
          | .error e => (.error e, tree)
      else (.error e, tree)

def makeDirectories (tree : FileTree) (directory : Place) (p : Path) : Except FileError Unit × FileTree :=
  tree.ensureChain directory p.anchor p.names.reverse

theorem node?_put (tree : FileTree) (place other : Place) (node : Node) :
    (tree.put place node).node? other =
      if other.isEmpty then some .directory else if other = place then some node else tree.node? other := by
  unfold node? put
  split
  · rfl
  · exact Table.get?_put place other node tree.entries

end FileTree

end RouteTemplate
