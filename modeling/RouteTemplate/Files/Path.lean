import RouteTemplate.Text.Utf8

/-!
Paths as they are written: names to follow from the root or from the current directory. Empty names and
names of a single dot are dropped on reading, so a path has one written form; `..` is kept, for what it means
depends on the directories that are there.
-/

set_option autoImplicit false

namespace RouteTemplate

/-- Where a path starts. Two slashes in front are kept apart from one; three or more count as one. -/
inductive Anchor where
  | here
  | root
  | doubled
deriving Repr, DecidableEq

def Anchor.text : Anchor → Text
  | here => ""
  | root => "/"
  | doubled => "//"

structure Path where
  anchor : Anchor
  names : List Text
deriving Repr, DecidableEq

namespace Path

def anchorOf : Text → Anchor
  | [] => .here
  | a :: rest =>
    if a = '/' then
      match rest with
      | [] => .root
      | b :: rest =>
        if b = '/' then
          match rest with
          | [] => .doubled
          | c :: _ => if c = '/' then .root else .doubled
        else .root
    else .here

/-- Does a piece between slashes count as a name? -/
def isName (piece : Text) : Bool := !piece.isEmpty && !(piece = Text.ofString ".")

def ofText (t : Text) : Path := ⟨anchorOf t, (Text.splitOn '/' t).filter isName⟩

/-- The written form; a path without anything is a single dot. -/
def text (p : Path) : Text :=
  match p.anchor, p.names with
  | .here, [] => "."
  | anchor, names => anchor.text ++ Text.joinWith "/" names

/-- The names from the root down to where the path leads someone in a directory, if every name on it leads on. -/
def place (directory : List Text) (p : Path) : List Text :=
  p.names.foldl (fun place name => if name = Text.ofString ".." then place.dropLast else place ++ [name])
    (if p.anchor = .here then directory else [])

def ofName (name : Text) : Path := ⟨.here, [name]⟩

/-- A path followed from another; one with a start of its own takes its place. -/
def join (p next : Path) : Path :=
  match next.anchor with
  | .here => ⟨p.anchor, p.names ++ next.names⟩
  | _ => next

def parent (p : Path) : Path := ⟨p.anchor, p.names.dropLast⟩

/-- The last name, empty when there is none. -/
def name (p : Path) : Text := (p.names.getLast?).getD []

/-- Does the code point stand for an octet that is no text? Such octets may be in a path. -/
def standsForOctet (c : CodePoint) : Bool := 0xDC80 ≤ c.val && c.val ≤ 0xDCFF

/-- The octets of a text in a path. -/
def octets (t : Text) : List UInt8 :=
  t.flatMap fun c => if standsForOctet c then [UInt8.ofNat (c.val % 0x100)] else c.utf8

/-- The first run of surrogates that have no octets in a path; it goes on through those that have. -/
def surrogates? : Text → Option SurrogateRun
  | [] => none
  | c :: rest =>
    if c.isSurrogate && !standsForOctet c then some ⟨c, 0, (Text.span CodePoint.isSurrogate (c :: rest)).1.length⟩
    else (surrogates? rest).map fun run => { run with start := run.start + 1 }

def nameLimit : Nat := 255

/-- The number of octets that a path must stay below. -/
def pathLimit : Nat := 4096

def isTooLongName (name : Text) : Bool := nameLimit < (octets name).length

def isTooLong (p : Path) : Bool := pathLimit ≤ (octets p.text).length

/-- Does a name hold the code point zero, which ends paths? -/
def holdsNull (name : Text) : Bool := name.any fun c => c.val = 0

@[simp] theorem parent_join_ofName (p : Path) (n : Text) : (p.join (ofName n)).parent = p := by
  simp [join, ofName, parent]

@[simp] theorem name_join_ofName (p : Path) (n : Text) : (p.join (ofName n)).name = n := by
  simp [join, ofName, name]

end Path

end RouteTemplate
