import RouteTemplate.Files.AtomicWrite
import RouteTemplate.Proofs.Files.Tree

set_option autoImplicit false

namespace RouteTemplate.FileTree

section Fresh

theorem le_foldl {α : Type} {f : Nat → α → Nat} (grows : ∀ n a, n ≤ f n a) (list : List α) (n : Nat) :
    n ≤ list.foldl f n := by
  induction list generalizing n with
  | nil => exact Nat.le_refl n
  | cons a list ih => exact Nat.le_trans (grows n a) (ih (f n a))

theorem le_foldl_of_mem {α : Type} {f : Nat → α → Nat} (grows : ∀ n a, n ≤ f n a) {list : List α} {a : α}
    (inside : a ∈ list) {bound : Nat} (reached : ∀ n, bound ≤ f n a) (n : Nat) : bound ≤ list.foldl f n := by
  induction list generalizing n with
  | nil => cases inside
  | cons b list ih =>
    rcases List.mem_cons.mp inside with rfl | later
    · exact Nat.le_trans (reached n) (le_foldl grows list (f n a))
    · exact ih later (f n b)

theorem length_le_longestName {tree : FileTree} {entry : Place × Node} {name : Text} (there : entry ∈ tree.entries)
    (inside : name ∈ entry.1) : name.length ≤ tree.longestName := by
  have longer (n : Nat) (name : Text) : n ≤ max n name.length := Nat.le_max_left n name.length
  have further (n : Nat) (entry : Place × Node) : n ≤ entry.1.foldl (fun longest name => max longest name.length) n :=
    le_foldl longer entry.1 n
  have reached (n : Nat) : name.length ≤ entry.1.foldl (fun longest name => max longest name.length) n :=
    le_foldl_of_mem longer inside (fun m => Nat.le_max_right m name.length) n
  exact le_foldl_of_mem further there reached 0

theorem longestName_lt_temporaryName (tree : FileTree) (name : Text) :
    tree.longestName < (tree.temporaryName name).length := by
  unfold temporaryName
  simp only [List.flatten_cons, List.length_append, List.length_replicate]
  omega

/-- Nothing stands where a temporary file goes. -/
theorem node?_temporary (tree : FileTree) (folder : Place) (name : Text) :
    tree.node? (folder ++ [tree.temporaryName name]) = none := by
  unfold node?
  rw [if_neg (by simp)]
  refine Table.get?_eq_none_iff.mpr fun inside => ?_
  obtain ⟨entry, there, same⟩ := List.mem_map.mp inside
  have short : (tree.temporaryName name).length ≤ tree.longestName := length_le_longestName there (by simp [same])
  exact absurd (longestName_lt_temporaryName tree name) (by omega)

end Fresh

section Replacing

variable {tree : FileTree} {temporary target folder : Place} {node : Node} {p : Path} {content : Text}

theorem node?_remove_put (free : tree.node? temporary = none) (place : Place) :
    ((tree.put temporary node).remove temporary).node? place = tree.node? place := by
  rw [node?_remove, node?_put]
  by_cases atRoot : place.isEmpty
  · rw [if_pos atRoot, node?, if_pos atRoot]
  · rw [if_neg atRoot, if_neg atRoot]
    by_cases same : place = temporary
    · rw [if_pos same, same, free]
    · rw [if_neg same, if_neg same]

theorem put_put (tree : FileTree) (place : Place) (first second : Node) :
    (tree.put place first).put place second = tree.put place second := by
  unfold put
  rw [Table.put_put]

theorem isDirectory_put_file {octets : List UInt8} (free : tree.node? temporary = none) (place : Place) :
    (tree.put temporary (.file octets)).isDirectory place = tree.isDirectory place := by
  rw [Bool.eq_iff_iff, isDirectory_iff, isDirectory_iff, node?_put]
  split
  · next atRoot => rw [node?, if_pos atRoot]
  · split
    · next same => simp [same, free]
    · rfl

theorem rename_eq {source : Place} (there : tree.node? source = some node) (target : Place) :
    tree.rename source target =
      if tree.isDirectory target then .error .isDirectory else .ok ((tree.remove source).put target node) := by
  unfold rename isDirectory
  rw [there]
  match tree.node? target with
  | none => rfl
  | some (.file octets) => rfl
  | some .directory => rfl

theorem node?_renamed {octets : List UInt8} (free : tree.node? temporary = none) (below : target ≠ [])
    (place : Place) :
    (((tree.put temporary (.file octets)).remove temporary).put target (.file octets)).node? place =
      if place = target then some (.file octets) else tree.node? place := by
  rw [node?_put, node?_remove_put free]
  by_cases atRoot : place.isEmpty = true
  · have apart : place ≠ target := by
      rintro rfl
      exact below (List.isEmpty_iff.mp atRoot)
    rw [if_pos atRoot, if_neg apart, node?, if_pos atRoot]
  · rw [if_neg atRoot]

/-- Why a text cannot take the place of what a path names in a folder. -/
inductive Irreplaceable (tree : FileTree) (folder : Place) (p : Path) (content : Text) : Prop
  | name (fault : FileFault) (bad : temporaryFault? p.name = some fault)
  | surrogates (run : SurrogateRun) (broken : content.encode = .error run)
  | busy (unnamed : p.names = [] ∨ p.name = Text.ofString "..")
  | directory (there : tree.isDirectory (folder ++ [p.name]) = true)

/-- What writing to a file in a folder comes to: the file has the octets of the text and all else is as it was, or
nothing has changed. -/
inductive Replaces (tree : FileTree) (folder : Place) (p : Path) (content : Text) :
    Except WriteError Unit × FileTree → Prop
  | written (octets : List UInt8) (after : FileTree) (encoded : content.encode = .ok octets)
      (free : tree.isDirectory (folder ++ [p.name]) = false)
      (same : ∀ place, after.node? place = if place = folder ++ [p.name] then some (.file octets) else tree.node? place) :
      Replaces tree folder p content (.ok (), after)
  | refused (e : WriteError) (after : FileTree) (reason : Irreplaceable tree folder p content)
      (same : ∀ place, after.node? place = tree.node? place) : Replaces tree folder p content (.error e, after)

theorem replaces_replaceIn (tree : FileTree) (folder : Place) (p : Path) (content : Text) :
    Replaces tree folder p content (tree.replaceIn folder p content) := by
  have free := node?_temporary tree folder p.name
  unfold replaceIn
  dsimp only
  split
  · next fault bad => exact .refused _ _ (.name fault bad) fun _ => rfl
  · split
    · next run broken => exact .refused _ _ (.surrogates run broken) (node?_remove_put free)
    · next octets encoded =>
      rw [put_put]
      by_cases unnamed : p.names = [] ∨ p.name = Text.ofString ".."
      · have blocked : (p.names.isEmpty || decide (p.name = Text.ofString "..")) = true := by simpa using unnamed
        rw [if_pos blocked]
        exact .refused _ _ (.busy unnamed) (node?_remove_put free)
      · have fine : ¬(p.names.isEmpty || decide (p.name = Text.ofString "..")) = true := by simpa using unnamed
        rw [if_neg fine]
        have source : (tree.put (folder ++ [tree.temporaryName p.name]) (.file octets)).node?
            (folder ++ [tree.temporaryName p.name]) = some (.file octets) := by
          simp [node?_put]
        rw [rename_eq source, isDirectory_put_file free]
        cases there : tree.isDirectory (folder ++ [p.name]) with
        | true => exact .refused _ _ (.directory there) (node?_remove_put free)
        | false => exact .written octets _ encoded there (node?_renamed free (by simp))

end Replacing

section Writing

variable {tree other made : FileTree} {directory place folder : Place} {p : Path} {content : Text}
  {outcome : Except WriteError Unit × FileTree} {octets : List UInt8}

/-- The octets of the file that a path names, none when it leads to no file. -/
def content? (tree : FileTree) (directory : Place) (p : Path) : Option (List UInt8) :=
  (tree.read directory p).toOption.join

theorem content?_eq_some_iff : tree.content? directory p = some octets ↔
    ∃ place, tree.locate directory p = .ok place ∧ tree.node? place = some (.file octets) := by
  unfold content? read
  cases tree.locate directory p with
  | error fault => by_cases long : fault = .tooLong <;> simp [long, Except.toOption]
  | ok place =>
    simp only [Except.toOption, Option.join_some, Except.ok.injEq, exists_eq_left', octets?]
    split
    · next found there => simp [there]
    · next none =>
      constructor
      · intro same
        cases same
      · intro there
        exact absurd there (none octets)

theorem read_of_content? (there : tree.content? directory p = some octets) :
    tree.read directory p = .ok (some octets) := by
  obtain ⟨place, found, stands⟩ := content?_eq_some_iff.mp there
  rw [read, found]
  dsimp only
  rw [octets?, stands]

/-- What growing did not make a file was none before. -/
theorem Extends.content?_eq_none (grown : tree.Extends other) (absent : other.content? directory p = none) :
    tree.content? directory p = none := by
  cases before : tree.content? directory p with
  | none => rfl
  | some octets =>
    obtain ⟨place, found, there⟩ := content?_eq_some_iff.mp before
    have later := content?_eq_some_iff.mpr
      ⟨place, locate_of_keepsDirectories grown.keepsDirectories found, grown place _ there⟩
    cases absent.symm.trans later

/-- A path whose last name a file may have, with room for the name of its temporary file. -/
structure NamesFile (p : Path) : Prop where
  named : p.names ≠ []
  plain : p.name ≠ Text.ofString ".."
  fits : temporaryFault? p.name = none

theorem NamesFile.enter_eq_ok_iff (file : NamesFile p) :
    tree.enter folder p.name = .ok place ↔ tree.isDirectory folder = true ∧ place = folder ++ [p.name] := by
  have short : Path.isTooLongName p.name = false := by
    have fits := file.fits
    unfold temporaryFault? at fits
    split at fits
    · cases fits
    · split at fits
      · cases fits
      · next small =>
        simp only [Path.isTooLongName, decide_eq_false_iff_not]
        omega
  rw [FileTree.enter_eq_ok_iff, if_neg file.plain]
  simp [short]

theorem NamesFile.holdsNull (file : NamesFile p) : Path.holdsNull p.name = false := by
  have fits := file.fits
  unfold temporaryFault? at fits
  split at fits
  · cases fits
  · next free => simpa using free

theorem NamesFile.locate_eq_ok_iff (file : NamesFile p) (short : p.isTooLong = false) :
    tree.locate directory p = .ok place ↔ ∃ folder, tree.locate directory p.parent = .ok folder ∧
      tree.isDirectory folder = true ∧ place = folder ++ [p.name] := by
  simp only [locate_eq_ok_iff_parent file.named, file.holdsNull, short, file.enter_eq_ok_iff, true_and]

/-- What writing to a file comes to, directories being made first: its path cannot be handed over, the way to it cannot be
made, or it was and then the file is written or not. -/
inductive Writes (tree : FileTree) (directory : Place) (p : Path) (content : Text) :
    Except WriteError Unit × FileTree → Prop
  | unfit (e : WriteError) (bad : pathFault? directory p = some e) : Writes tree directory p content (.error e, tree)
  | blocked (e : WriteError) (made : FileTree) (grown : tree.GainsDirectories made)
      (nowhere : made.namesDirectory directory p.parent = false) : Writes tree directory p content (.error e, made)
  | reached (made : FileTree) (folder : Place) (outcome : Except WriteError Unit × FileTree)
      (grown : tree.GainsDirectories made) (found : made.locate directory p.parent = .ok folder)
      (there : made.isDirectory folder = true) (replaces : made.Replaces folder p content outcome) :
      Writes tree directory p content outcome

theorem writes_writeAtomically (tree : FileTree) (directory : Place) (p : Path) (content : Text) :
    Writes tree directory p content (tree.writeAtomically directory p content) := by
  have attempt := attempts_makeDirectories tree directory p.parent
  unfold writeAtomically
  split
  · next e made failed =>
    rw [failed] at attempt
    exact .blocked _ made attempt.grown (attempt.unnamed e rfl)
  · next made done =>
    rw [done] at attempt
    obtain ⟨folder, found, there⟩ := namesDirectory_iff.mp (attempt.named rfl)
    dsimp only at found
    rw [found]
    split
    · next e bad => exact .unfit e bad
    · exact .reached made folder _ attempt.grown found there (replaces_replaceIn made folder p content)

/-- Only a directory in its place keeps a file from being written. -/
theorem Irreplaceable.isDirectory (file : NamesFile p) (encoded : content.encode = .ok octets)
    (reason : Irreplaceable tree folder p content) : tree.isDirectory (folder ++ [p.name]) = true := by
  cases reason with
  | name fault bad => cases file.fits.symm.trans bad
  | surrogates run broken => cases encoded.symm.trans broken
  | busy unnamed => exact absurd unnamed (by simp [file.named, file.plain])
  | directory there => exact there

/-- A path that can be read, whatever is there, is not too long to be followed once its names are free of zeros. -/
theorem isTooLong_of_read {read : Option (List UInt8)} (readable : tree.read directory p = .ok read)
    (plain : p.names.any Path.holdsNull = false) : p.isTooLong = false := by
  cases long : p.isTooLong with
  | false => rfl
  | true =>
    have stuck : tree.locate directory p = .error .tooLong := by simp [locate, plain, long]
    simp [FileTree.read, stuck] at readable

theorem NamesFile.isTooLong_eq_false {read : Option (List UInt8)} (file : NamesFile p)
    (readable : tree.read directory p = .ok read) (found : other.locate directory p.parent = .ok folder) :
    p.isTooLong = false := by
  refine isTooLong_of_read readable ?_
  rw [Path.names_eq_append file.named, List.any_append, (FileTree.locate_eq_ok_iff.mp found).1]
  simp [file.holdsNull]

/-- What is written to a file makes no directory another thing. -/
theorem Replaces.keepsDirectories (written : tree.Replaces folder p content (.ok (), other)) :
    tree.KeepsDirectories other := by
  cases written with
  | written octets _ _ free same =>
    intro place there
    have apart : place ≠ folder ++ [p.name] := by
      rintro rfl
      cases free.symm.trans there
    rw [isDirectory_iff] at there ⊢
    rw [same, if_neg apart, there]

/-- A text that was written is what is read, where reading was possible before. -/
theorem content?_of_written {before : Option (List UInt8)} (file : NamesFile p)
    (readable : tree.read directory p = .ok before) (encoded : content.encode = .ok octets)
    (written : Writes tree directory p content (.ok (), other)) : other.content? directory p = some octets := by
  cases written with
  | reached made folder _ grown found there replaces =>
    have short := file.isTooLong_eq_false readable found
    have kept := replaces.keepsDirectories
    cases replaces with
    | written octets' _ encoded' free same =>
      cases encoded.symm.trans encoded'
      refine content?_eq_some_iff.mpr ⟨folder ++ [p.name], ?_, by rw [same, if_pos rfl]⟩
      exact locate_of_keepsDirectories kept ((file.locate_eq_ok_iff short).mpr ⟨folder, found, there, rfl⟩)

/-- Writing to a file leaves a path of another name as it is. -/
theorem octets?_of_written {another : Path} (file : NamesFile another) (apart : another.name ≠ p.name)
    (found : tree.locate directory another = .ok place) (written : Writes tree directory p content (.ok (), other)) :
    other.locate directory another = .ok place ∧ other.octets? place = tree.octets? place := by
  cases written with
  | reached made folder _ grown _ _ replaces =>
    have kept := replaces.keepsDirectories
    have beside : place ≠ folder ++ [p.name] := by
      obtain ⟨_, _, above, _, entered⟩ := (locate_eq_ok_iff_parent file.named).mp found
      obtain ⟨_, rfl⟩ := file.enter_eq_ok_iff.mp entered
      intro same
      have names := (List.append_inj' same rfl).2
      exact apart (List.singleton_inj.mp names)
    cases replaces with
    | written octets' _ _ _ same =>
      refine ⟨locate_of_keepsDirectories (fun at' there => kept at' (grown.stays.keepsDirectories at' there)) found, ?_⟩
      rw [← grown.files, octets?, octets?, same, if_neg beside]

/-- The directory of a file is there or can be made, no directory stands in the place of the file, and its path can be
handed over. -/
def Writable (tree : FileTree) (directory : Place) (p : Path) : Prop :=
  ∃ made, tree.makeDirectories directory p.parent = (.ok (), made) ∧ made.namesDirectory directory p = false ∧
    pathFault? directory p = none

theorem Writable.writeAtomically {before : Option (List UInt8)} (writable : tree.Writable directory p)
    (file : NamesFile p) (readable : tree.read directory p = .ok before) (encoded : content.encode = .ok octets) :
    ∃ after, tree.writeAtomically directory p content = (.ok (), after) := by
  obtain ⟨made, done, free, fit⟩ := writable
  have attempt := attempts_makeDirectories tree directory p.parent
  rw [done] at attempt
  obtain ⟨folder, found, there⟩ := namesDirectory_iff.mp (attempt.named rfl)
  dsimp only at found there
  have replaces := replaces_replaceIn made folder p content
  have reached : tree.writeAtomically directory p content = made.replaceIn folder p content := by
    rw [FileTree.writeAtomically, done]
    dsimp only
    rw [fit, found]
  rw [reached]
  generalize made.replaceIn folder p content = outcome at replaces
  cases replaces with
  | written octets' after _ _ _ => exact ⟨after, rfl⟩
  | refused e after reason _ =>
    have located := (file.locate_eq_ok_iff (file.isTooLong_eq_false readable found)).mpr ⟨folder, found, there, rfl⟩
    cases free.symm.trans (namesDirectory_iff.mpr ⟨_, located, reason.isDirectory file encoded⟩)

/-- When a text with octets cannot be written, the path leads to the file it led to before. -/
theorem content?_of_refused {e : WriteError} (file : NamesFile p) (encoded : content.encode = .ok octets)
    (refused : Writes tree directory p content (.error e, other)) :
    other.content? directory p = tree.content? directory p := by
  cases refused with
  | unfit => rfl
  | blocked _ _ grown nowhere =>
    have after : other.content? directory p = none := by
      cases read : other.content? directory p with
      | none => rfl
      | some octets =>
        obtain ⟨place, found, _⟩ := content?_eq_some_iff.mp read
        cases nowhere.symm.trans (namesDirectory_parent file.named found)
    rw [after, grown.stays.content?_eq_none after]
  | reached made folder _ grown found there replaces =>
    cases replaces with
    | refused _ _ reason same =>
      have occupied := reason.isDirectory file encoded
      have grownAfter : made.Extends other := fun place node stands => (same place).trans stands
      have after : other.content? directory p = none := by
        cases read : other.content? directory p with
        | none => rfl
        | some octets =>
          obtain ⟨place, located, stands⟩ := content?_eq_some_iff.mp read
          obtain ⟨_, _, folder', found', entered⟩ := (locate_eq_ok_iff_parent file.named).mp located
          have led := locate_of_keepsDirectories grownAfter.keepsDirectories found
          cases led.symm.trans found'
          obtain ⟨_, rfl⟩ := file.enter_eq_ok_iff.mp entered
          rw [same, isDirectory_iff.mp occupied] at stands
          cases stands
      rw [after, (grown.stays.trans grownAfter).content?_eq_none after]

end Writing

end RouteTemplate.FileTree
