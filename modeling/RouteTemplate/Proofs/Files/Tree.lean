import RouteTemplate.Files.Tree
import RouteTemplate.Proofs.Except
import RouteTemplate.Proofs.Table

set_option autoImplicit false

namespace RouteTemplate

theorem Text.exists_joinWith_append (between : Text) (pieces more : List Text) :
    ∃ rest, joinWith between (pieces ++ more) = joinWith between pieces ++ rest := by
  induction pieces with
  | nil => exact ⟨_, rfl⟩
  | cons piece pieces ih =>
    obtain ⟨rest, same⟩ := ih
    cases pieces with
    | cons next pieces =>
      refine ⟨rest, ?_⟩
      have outer : joinWith between (piece :: next :: pieces ++ more) =
          piece ++ between ++ joinWith between (next :: pieces ++ more) := rfl
      rw [outer, same, ← List.append_assoc]
      rfl
    | nil =>
      cases more with
      | nil => exact ⟨[], (List.append_nil _).symm⟩
      | cons next more => exact ⟨between ++ joinWith between (next :: more), List.append_assoc _ _ _⟩

namespace Path

theorem names_eq_append {p : Path} (named : p.names ≠ []) : p.names = p.parent.names ++ [p.name] := by
  have last : p.name = p.names.getLast named := by rw [name, List.getLast?_eq_some_getLast named, Option.getD_some]
  rw [last]
  exact (List.dropLast_concat_getLast named).symm

/-- The text of a path is at least as long as that of its parent. Only a path without names, a single dot, is written
differently from how it goes on. -/
theorem isTooLong_of_parent {p : Path} (named : p.names ≠ []) (long : p.parent.isTooLong = true) :
    p.isTooLong = true := by
  obtain ⟨rest, written⟩ := Text.exists_joinWith_append "/" p.parent.names [p.name]
  rw [← names_eq_append named] at written
  have own : p.text = p.anchor.text ++ (Text.joinWith "/" p.parent.names ++ rest) := by
    rw [← written, text]
    split
    · next none => exact absurd none named
    · rfl
  simp only [isTooLong, decide_eq_true_eq] at long ⊢
  rw [text] at long
  split at long
  · exact absurd long (by decide)
  · have more : octets p.text = octets (p.anchor.text ++ Text.joinWith "/" p.parent.names) ++ octets rest := by
      rw [own, ← List.append_assoc, octets, List.flatMap_append]
      rfl
    rw [more, List.length_append]
    exact Nat.le_trans long (Nat.le_add_right _ _)

end Path

namespace FileTree

variable {tree other : FileTree} {directory place next : Place} {p : Path} {name : Text} {names : List Text}

theorem node?_remove (tree : FileTree) (place another : Place) :
    (tree.remove place).node? another =
      if another.isEmpty then some .directory else if another = place then none else tree.node? another := by
  unfold node? remove
  split
  · rfl
  · exact Table.get?_erase place another tree.entries

theorem isDirectory_iff : tree.isDirectory place = true ↔ tree.node? place = some .directory := by
  simp [isDirectory]

/-- Every directory of a tree is one of another. -/
def KeepsDirectories (tree other : FileTree) : Prop :=
  ∀ place, tree.isDirectory place = true → other.isDirectory place = true

/-- What stands in a tree stands at the same place in another. -/
def Extends (tree other : FileTree) : Prop := ∀ place node, tree.node? place = some node → other.node? place = some node

theorem Extends.refl (tree : FileTree) : tree.Extends tree := fun _ _ there => there

theorem Extends.trans {third : FileTree} (first : tree.Extends other) (second : other.Extends third) :
    tree.Extends third := fun place node there => second place node (first place node there)

theorem Extends.keepsDirectories (grown : tree.Extends other) : tree.KeepsDirectories other := by
  intro place there
  rw [isDirectory_iff] at there ⊢
  exact grown place _ there

theorem extends_put (free : tree.node? place = none) (node : Node) : tree.Extends (tree.put place node) := by
  intro another stands there
  rw [node?_put]
  split
  · next atRoot => rw [← there, node?, if_pos atRoot]
  · split
    · next same =>
      subst same
      cases free.symm.trans there
    · exact there

/-- Another tree has what stands in this one, and directories besides. -/
structure GainsDirectories (tree other : FileTree) : Prop where
  stays : tree.Extends other
  files : ∀ place, other.octets? place = tree.octets? place

namespace GainsDirectories

theorem refl (tree : FileTree) : tree.GainsDirectories tree := ⟨.refl tree, fun _ => rfl⟩

theorem trans {third : FileTree} (first : tree.GainsDirectories other) (second : other.GainsDirectories third) :
    tree.GainsDirectories third :=
  ⟨first.stays.trans second.stays, fun place => (second.files place).trans (first.files place)⟩

theorem put (free : tree.node? place = none) : tree.GainsDirectories (tree.put place .directory) := by
  refine ⟨extends_put free .directory, fun another => ?_⟩
  rw [octets?, octets?, node?_put]
  by_cases atRoot : another.isEmpty = true
  · rw [if_pos atRoot, node?, if_pos atRoot]
  · rw [if_neg atRoot]
    by_cases same : another = place
    · rw [if_pos same, same, free]
    · rw [if_neg same]

end GainsDirectories

section Following

theorem enter_eq_ok_iff : tree.enter place name = .ok next ↔
    tree.isDirectory place = true ∧ Path.isTooLongName name = false ∧
      next = if name = Text.ofString ".." then place.dropLast else place ++ [name] := by
  unfold enter
  rw [isDirectory_iff]
  split
  · next absent => simp [absent]
  · next octets isFile => simp [isFile]
  · next there =>
    cases Path.isTooLongName name with
    | true => simp
    | false => simp [there, eq_comm]

theorem follow_append (tree : FileTree) (place : Place) (names more : List Text) :
    tree.follow place (names ++ more) = tree.follow place names >>= fun next => tree.follow next more := by
  induction names generalizing place with
  | nil => rfl
  | cons name names ih =>
    rw [List.cons_append, follow, follow]
    cases tree.enter place name with
    | error fault => rfl
    | ok next => exact ih next

theorem follow_of_keepsDirectories (kept : tree.KeepsDirectories other) (led : tree.follow place names = .ok next) :
    other.follow place names = .ok next := by
  induction names generalizing place with
  | nil => exact led
  | cons name names ih =>
    rw [follow] at led ⊢
    cases entered : tree.enter place name with
    | error fault =>
      rw [entered] at led
      cases led
    | ok further =>
      obtain ⟨there, short, same⟩ := enter_eq_ok_iff.mp entered
      rw [entered] at led
      rw [enter_eq_ok_iff.mpr ⟨kept place there, short, same⟩]
      exact ih led

theorem locate_eq_ok_iff : tree.locate directory p = .ok place ↔
    p.names.any Path.holdsNull = false ∧ p.isTooLong = false ∧
      tree.follow (if p.anchor = .here then directory else []) p.names = .ok place := by
  unfold locate
  cases p.names.any Path.holdsNull with
  | true => simp
  | false => cases p.isTooLong <;> simp

theorem locate_of_keepsDirectories (kept : tree.KeepsDirectories other) (found : tree.locate directory p = .ok place) :
    other.locate directory p = .ok place := by
  obtain ⟨plain, short, led⟩ := locate_eq_ok_iff.mp found
  exact locate_eq_ok_iff.mpr ⟨plain, short, follow_of_keepsDirectories kept led⟩

/-- A path is located by way of its parent, which names a directory. -/
theorem locate_eq_ok_iff_parent (named : p.names ≠ []) : tree.locate directory p = .ok place ↔
    Path.holdsNull p.name = false ∧ p.isTooLong = false ∧
      ∃ folder, tree.locate directory p.parent = .ok folder ∧ tree.enter folder p.name = .ok place := by
  have step (folder : Place) : tree.follow folder [p.name] = .ok place ↔ tree.enter folder p.name = .ok place := by
    rw [follow]
    cases tree.enter folder p.name <;> simp [follow]
  have plain : p.names.any Path.holdsNull = false ↔
      p.parent.names.any Path.holdsNull = false ∧ Path.holdsNull p.name = false := by
    conv => lhs; rw [Path.names_eq_append named]
    simp [List.any_append]
  rw [locate_eq_ok_iff, plain]
  conv => lhs; rw [Path.names_eq_append named]
  simp only [follow_append, bind_eq_ok, step, locate_eq_ok_iff]
  constructor
  · rintro ⟨⟨above, own⟩, short, folder, led, entered⟩
    have shorter : p.parent.isTooLong = false := by
      cases long : p.parent.isTooLong with
      | false => rfl
      | true => exact absurd (Path.isTooLong_of_parent named long) (by simp [short])
    exact ⟨own, short, folder, ⟨above, shorter, led⟩, entered⟩
  · rintro ⟨own, short, folder, ⟨above, _, led⟩, entered⟩
    exact ⟨⟨above, own⟩, short, folder, led, entered⟩

theorem namesDirectory_iff : tree.namesDirectory directory p = true ↔
    ∃ place, tree.locate directory p = .ok place ∧ tree.isDirectory place = true := by
  unfold namesDirectory
  cases tree.locate directory p <;> simp

theorem namesDirectory_parent (named : p.names ≠ []) (found : tree.locate directory p = .ok place) :
    tree.namesDirectory directory p.parent = true := by
  obtain ⟨_, _, folder, above, entered⟩ := (locate_eq_ok_iff_parent named).mp found
  exact namesDirectory_iff.mpr ⟨folder, above, (enter_eq_ok_iff.mp entered).1⟩

/-- Where what is above names no directory, nothing below it does. -/
theorem namesDirectory_eq_false (named : p.names ≠ []) (absent : tree.namesDirectory directory p.parent = false) :
    tree.namesDirectory directory p = false := by
  cases there : tree.namesDirectory directory p with
  | false => rfl
  | true =>
    obtain ⟨place, found, _⟩ := namesDirectory_iff.mp there
    cases absent.symm.trans (namesDirectory_parent named found)

end Following

section Making

/-- What an attempt at making a directory comes to. Whatever stood in the tree still stands there, with directories at
most besides, and the path names a directory unless the attempt failed. -/
structure Attempts (tree : FileTree) (directory : Place) (p : Path) (outcome : Except FileError Unit × FileTree) :
    Prop where
  grown : tree.GainsDirectories outcome.2
  named : outcome.1 = .ok () → outcome.2.namesDirectory directory p = true
  unnamed : ∀ e, outcome.1 = .error e → outcome.2.namesDirectory directory p = false

theorem Attempts.after {outcome : Except FileError Unit × FileTree} (first : tree.GainsDirectories other)
    (attempt : other.Attempts directory p outcome) : tree.Attempts directory p outcome :=
  { attempt with grown := first.trans attempt.grown }

def ensured (tree : FileTree) (directory : Place) (p : Path) : Except FileError Unit × FileTree :=
  match tree.ensureDirectory directory p with
  | .ok made => (.ok (), made)
  | .error e => (.error e, tree)

/-- What an attempt at one directory does: it makes the directory, or the directory is there, or it fails, either because
the path leads nowhere or because a file is there. -/
inductive Ensures (tree : FileTree) (directory : Place) (p : Path) : Except FileError Unit × FileTree → Prop
  | makes (place : Place) (found : tree.locate directory p = .ok place) (free : tree.node? place = none) :
      Ensures tree directory p (.ok (), tree.put place .directory)
  | there (named : tree.namesDirectory directory p = true) : Ensures tree directory p (.ok (), tree)
  | lost (fault : FileFault) (unfound : tree.locate directory p = .error fault) (e : FileError) (same : e.fault = fault) :
      Ensures tree directory p (.error e, tree)
  | occupied (place : Place) (octets : List UInt8) (found : tree.locate directory p = .ok place)
      (file : tree.node? place = some (.file octets)) (e : FileError) (same : e.fault = .occupied) :
      Ensures tree directory p (.error e, tree)

theorem ensures_ensured (tree : FileTree) (directory : Place) (p : Path) :
    tree.Ensures directory p (tree.ensured directory p) := by
  unfold ensured ensureDirectory makeDirectory
  cases named : tree.namesDirectory directory p with
  | true =>
    obtain ⟨place, found, isThere⟩ := namesDirectory_iff.mp named
    rw [found]
    dsimp only
    rw [isDirectory_iff.mp isThere]
    exact .there named
  | false =>
    cases found : tree.locate directory p with
    | error fault => exact .lost fault found _ rfl
    | ok place =>
      cases stands : tree.node? place with
      | none =>
        dsimp only
        rw [stands]
        exact .makes place found stands
      | some node =>
        dsimp only
        rw [stands]
        cases node with
        | file octets => exact .occupied place octets found stands _ rfl
        | directory =>
          have there := namesDirectory_iff.mpr ⟨place, found, isDirectory_iff.mpr stands⟩
          cases named.symm.trans there

theorem Ensures.attempts {outcome : Except FileError Unit × FileTree} (ensures : tree.Ensures directory p outcome) :
    tree.Attempts directory p outcome := by
  cases ensures with
  | makes place found free =>
    have grown := GainsDirectories.put free
    have found := locate_of_keepsDirectories grown.stays.keepsDirectories found
    have made : (tree.put place .directory).node? place = some .directory := by simp [node?_put]
    exact ⟨grown, fun _ => namesDirectory_iff.mpr ⟨place, found, isDirectory_iff.mpr made⟩, by simp⟩
  | there named => exact ⟨.refl tree, fun _ => named, by simp⟩
  | lost fault unfound e same =>
    have nowhere : tree.namesDirectory directory p = false := by rw [namesDirectory, unfound]
    exact ⟨.refl tree, by simp, fun _ _ => nowhere⟩
  | occupied place octets found file e same =>
    have other : tree.namesDirectory directory p = false := by simp [namesDirectory, found, isDirectory, file]
    exact ⟨.refl tree, by simp, fun _ _ => other⟩

/-- What is shown of a chain of attempts is shown of single attempts: the first is the only one unless what it lacks is the
directory above, and then the chain above either fails or leaves a tree for the last. -/
theorem ensureChain_induction (directory : Place) (anchor : Anchor)
    {motive : FileTree → List Text → Except FileError Unit × FileTree → Prop}
    (base : ∀ tree, motive tree [] (tree.ensured directory ⟨anchor, []⟩))
    (direct : ∀ tree name above,
      (∀ e, (tree.ensured directory ⟨anchor, (name :: above).reverse⟩).1 = .error e → e.fault ≠ .missing) →
        motive tree (name :: above) (tree.ensured directory ⟨anchor, (name :: above).reverse⟩))
    (stopped : ∀ tree name above e made, motive tree above (.error e, made) →
      motive tree (name :: above) (.error e, made))
    (resumed : ∀ tree name above made, tree.ensureChain directory anchor above = (.ok (), made) →
      motive tree above (.ok (), made) →
        motive tree (name :: above) (made.ensured directory ⟨anchor, (name :: above).reverse⟩))
    (tree : FileTree) (names : List Text) : motive tree names (tree.ensureChain directory anchor names) := by
  induction names generalizing tree with
  | nil => exact base tree
  | cons name above ih =>
    have alone := direct tree name above
    unfold ensured at alone
    unfold ensureChain
    dsimp only
    cases first : tree.ensureDirectory directory ⟨anchor, (name :: above).reverse⟩ with
    | ok made =>
      rw [first] at alone
      exact alone fun e impossible => by cases impossible
    | error e =>
      rw [first] at alone
      dsimp only
      by_cases missing : e.fault = .missing
      · rw [if_pos missing]
        have chain := ih tree
        cases chained : tree.ensureChain directory anchor above with
        | mk result made =>
          rw [chained] at chain
          cases result with
          | error e => exact stopped tree name above e made chain
          | ok _ => exact resumed tree name above made chained chain
      · rw [if_neg missing]
        refine alone fun e' same => ?_
        cases same
        exact missing

theorem attempts_ensureChain (tree : FileTree) (directory : Place) (anchor : Anchor) (names : List Text) :
    tree.Attempts directory ⟨anchor, names.reverse⟩ (tree.ensureChain directory anchor names) := by
  induction tree, names using ensureChain_induction directory anchor with
  | base tree => exact (ensures_ensured tree directory ⟨anchor, []⟩).attempts
  | direct tree name above _ => exact (ensures_ensured tree directory _).attempts
  | stopped tree name above e made chain =>
    have named : (name :: above).reverse ≠ [] := by simp
    have parent : (⟨anchor, (name :: above).reverse⟩ : Path).parent = ⟨anchor, above.reverse⟩ := by simp [Path.parent]
    refine ⟨chain.grown, by simp, fun _ _ => namesDirectory_eq_false named ?_⟩
    rw [parent]
    exact chain.unnamed e rfl
  | resumed tree name above made _ chain => exact (ensures_ensured made directory _).attempts.after chain.grown

theorem attempts_makeDirectories (tree : FileTree) (directory : Place) (p : Path) :
    tree.Attempts directory p (tree.makeDirectories directory p) := by
  have chain := attempts_ensureChain tree directory p.anchor p.names.reverse
  rw [List.reverse_reverse] at chain
  exact chain

/-- Where the directory is there, nothing is made. -/
theorem makeDirectories_of_namesDirectory (there : tree.namesDirectory directory p = true) :
    tree.makeDirectories directory p = (.ok (), tree) := by
  have ensured : tree.ensureDirectory directory p = .ok tree := by
    obtain ⟨place, found, isThere⟩ := namesDirectory_iff.mp there
    unfold ensureDirectory makeDirectory
    rw [found]
    dsimp only
    rw [isDirectory_iff.mp isThere]
    dsimp only
    rw [if_pos there]
  have whole : p = ⟨p.anchor, p.names.reverse.reverse⟩ := by rw [List.reverse_reverse]
  rw [whole] at ensured
  unfold makeDirectories
  cases last : p.names.reverse with
  | nil =>
    rw [last] at ensured
    have ensured : tree.ensureDirectory directory ⟨p.anchor, []⟩ = .ok tree := ensured
    rw [ensureChain, ensured]
  | cons name above =>
    rw [last] at ensured
    rw [ensureChain, ensured]

end Making

end FileTree

end RouteTemplate
