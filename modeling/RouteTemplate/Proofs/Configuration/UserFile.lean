import RouteTemplate.Proofs.Configuration.Layering
import RouteTemplate.Proofs.Files.AtomicWrite
import RouteTemplate.Proofs.Json.ReadBack
import RouteTemplate.Proofs.Text.Utf8

set_option autoImplicit false

namespace RouteTemplate

def Settings.entries (settings : Settings) : Layer := Setting.all.map fun s => (s.key, .bool (settings.get s))

namespace Configuration

variable {host after : Host} {p : Path} {settings : Settings}

/-- The octets of the user file, none when there is none. -/
def userContent (host : Host) : Option (List UInt8) :=
  match userFile host with
  | .error _ => none
  | .ok p => host.files.content? host.directory p

/-- The layer that a user file gives, which is none when the file is at fault. A file that is not there gives no
entries. -/
def layer? : Option (List UInt8) → Option Layer
  | none => some []
  | some octets => (readLayer octets).toOption

theorem userContent_of_userFile (place : userFile host = .ok p) :
    userContent host = host.files.content? host.directory p := by
  rw [userContent, place]

theorem namesFile_of_userFile (place : userFile host = .ok p) : FileTree.NamesFile p := by
  obtain ⟨directory, _, rfl⟩ := map_eq_ok.mp place
  have last : (directory.join (Path.ofName userFileName)).name = userFileName := Path.name_join_ofName _ _
  constructor
  · simp [Path.join, Path.ofName]
  · rw [last]
    decide
  · rw [last]
    decide

theorem namesFile_projectFile (host : Host) (directory : Option Path) :
    FileTree.NamesFile (projectFile host directory) := by
  have last : (projectFile host directory).name = projectFileName := Path.name_join_ofName _ _
  constructor
  · simp [projectFile, Path.join, Path.ofName]
  · rw [last]
    decide
  · rw [last]
    decide

theorem layer?_of_userLayer {entries : Layer} (found : userLayer host = .ok entries) :
    layer? (userContent host) = some entries ∧
      ∃ p read, userFile host = .ok p ∧ host.files.read host.directory p = .ok read := by
  cases place : userFile host with
  | error fault =>
    rw [userLayer, place] at found
    cases found
  | ok p =>
    rw [userLayer_eq place, fileLayer] at found
    rw [userContent_of_userFile place, FileTree.content?]
    cases read : host.read p with
    | error e =>
      rw [read] at found
      cases found
    | ok content =>
      have same : host.files.read host.directory p = .ok content := read
      rw [read] at found
      rw [same]
      refine ⟨?_, p, content, rfl, same⟩
      cases content with
      | none =>
        cases found
        rfl
      | some octets =>
        cases layer : readLayer octets with
        | error fault =>
          simp only [layer] at found
          cases found
        | ok given =>
          simp only [layer] at found
          cases found
          simp [Except.toOption, layer?, layer]

/-- The text of settings is plain: nothing in it is a surrogate or a carriage return. -/
theorem plain_of_mem_fileText {c : CodePoint} (inside : c ∈ fileText settings) :
    c.isSurrogate = false ∧ c ≠ CodePoint.ofChar '\r' := by
  have plain : (fileText settings).all (fun c => !c.isSurrogate && !(c = CodePoint.ofChar '\r')) = true := by
    obtain ⟨_ | _, _ | _, _ | _⟩ := settings <;> rfl
  simpa using List.all_eq_true.mp plain c inside

theorem readLayer_fileText (settings : Settings) : readLayer (fileText settings).octets = .ok settings.entries := by
  have plain (c : CodePoint) (inside : c ∈ fileText settings) : c.isSurrogate = false :=
    (plain_of_mem_fileText inside).1
  have unified : (fileText settings).unifyLineEnds = fileText settings :=
    Text.unifyLineEnds_eq_self fun inside => (plain_of_mem_fileText inside).2 rfl
  have back : Json.ReadsBack 1 settings.document := by
    refine Json.readsBack_object ?_ ?_
    · have keys : Table.keys settings.entries = Setting.all.map Setting.key := List.map_map
      exact keys ▸ by decide
    · intro entry inside
      obtain ⟨s, _, rfl⟩ := List.mem_map.mp inside
      exact Json.readsBack_bool (settings.get s)
  rw [readLayer_eq_ok_iff]
  refine ⟨fileText settings, Text.ofOctets_octets plain, ?_⟩
  rw [unified]
  exact Json.read_write back (by decide)

theorem encode_fileText (settings : Settings) : (fileText settings).encode = .ok (fileText settings).octets :=
  Text.encode_eq_ok fun _ inside => (plain_of_mem_fileText inside).1

theorem exists_files_of_saved {q : Path} (place : userFile host = .ok p)
    (saved : save host settings = (.ok q, after)) :
    ∃ files, after = { host with files } ∧
      FileTree.Writes host.files host.directory p (fileText settings) (.ok (), files) := by
  have writes := FileTree.writes_writeAtomically host.files host.directory p (fileText settings)
  unfold save at saved
  rw [place] at saved
  dsimp only at saved
  split at saved
  · cases saved
  · next files written =>
    cases saved
    rw [written] at writes
    exact ⟨files, rfl, writes⟩

/-- Settings that were saved are what the user file holds. -/
theorem userContent_of_saved {q : Path} {before : Option (List UInt8)} (place : userFile host = .ok p)
    (readable : host.files.read host.directory p = .ok before) (saved : save host settings = (.ok q, after)) :
    userContent after = some (fileText settings).octets := by
  have file := namesFile_of_userFile place
  obtain ⟨files, rfl, writes⟩ := exists_files_of_saved place saved
  have samePlace : userFile { host with files } = .ok p := place
  rw [userContent_of_userFile samePlace]
  exact FileTree.content?_of_written file readable (encode_fileText settings) writes

/-- Nothing but a directory that cannot be made, one in the place of the user file, or a path that cannot be handed over
keeps settings from being saved. -/
theorem save_of_writable {before : Option (List UInt8)} (place : userFile host = .ok p)
    (readable : host.files.read host.directory p = .ok before) (writable : host.files.Writable host.directory p)
    (settings : Settings) : ∃ after, save host settings = (.ok p, after) := by
  obtain ⟨files, written⟩ := writable.writeAtomically (namesFile_of_userFile place) readable (encode_fileText settings)
  refine ⟨{ host with files }, ?_⟩
  rw [save, place]
  dsimp only
  rw [written]

/-- Settings that cannot be saved leave the user file as it was. -/
theorem userContent_of_unsaved {e : SaveError} (failed : save host settings = (.error e, after)) :
    userContent after = userContent host := by
  unfold save at failed
  cases place : userFile host with
  | error fault =>
    rw [place] at failed
    cases failed
    rfl
  | ok p =>
    have writes := FileTree.writes_writeAtomically host.files host.directory p (fileText settings)
    rw [place] at failed
    dsimp only at failed
    split at failed
    · next files refused =>
      cases failed
      rw [refused] at writes
      have samePlace : userFile { host with files } = .ok p := place
      rw [userContent_of_userFile samePlace, userContent_of_userFile place]
      exact FileTree.content?_of_refused (namesFile_of_userFile place) (encode_fileText settings) writes
    · cases failed

section Alone

variable {before : Option (List UInt8)} {q : Path} (place : userFile host = .ok p)
  (readable : host.files.read host.directory p = .ok before) (saved : save host settings = (.ok q, after))

include place saved

/-- Saving makes no project file. -/
theorem projectRead_of_saved (here : host.files.namesDirectory host.directory host.currentPath = true)
    (absent : host.read (projectFile host none) = .ok none) : after.read (projectFile after none) = .ok none := by
  have file := namesFile_projectFile host none
  have parent : (projectFile host none).parent = host.currentPath := Path.parent_join_ofName _ _
  have apart : (projectFile host none).name ≠ p.name := by
    obtain ⟨directory, _, rfl⟩ := map_eq_ok.mp place
    rw [projectFile, Path.name_join_ofName, Path.name_join_ofName]
    decide
  obtain ⟨folder, led, there⟩ := FileTree.namesDirectory_iff.mp here
  rw [← parent] at led
  have found := (file.locate_eq_ok_iff (file.isTooLong_eq_false absent led)).mpr ⟨folder, led, there, rfl⟩
  rw [Host.read, FileTree.read, found, Except.ok.injEq] at absent
  obtain ⟨files, rfl, writes⟩ := exists_files_of_saved place saved
  obtain ⟨still, same⟩ := FileTree.octets?_of_written file apart found writes
  have located : files.locate host.directory (projectFile { host with files } none) = _ := still
  rw [Host.read, FileTree.read, located]
  exact congrArg Except.ok (same.trans absent)

include readable

/-- Settings that were saved are in effect where nothing else gives any. -/
theorem effective_of_saved (here : host.files.namesDirectory host.directory host.currentPath = true)
    (absent : host.read (projectFile host none) = .ok none)
    (blank : ∀ s : Setting, (host.environment.getD s.variableName).isBlank = true) :
    effective after [] none = .ok settings := by
  have content := userContent_of_saved place readable saved
  have project := projectRead_of_saved place saved here absent
  obtain ⟨files, rfl, _⟩ := exists_files_of_saved place saved
  have samePlace : userFile { host with files } = .ok p := place
  rw [userContent_of_userFile samePlace] at content
  have userLayer_ok : userLayer { host with files } = .ok settings.entries := by
    rw [userLayer_eq samePlace, fileLayer, Host.read, FileTree.read_of_content? content]
    exact congrArg (Except.mapError (faultyFile .user p)) (readLayer_fileText settings)
  have projectLayer_ok : projectLayer { host with files } none = .ok [] := by
    rw [projectLayer, fileLayer, project]
  rw [effective_of_layers [] userLayer_ok projectLayer_ok (environmentLayer_of_blank blank)]
  obtain ⟨_ | _, _ | _, _ | _⟩ := settings <;> rfl

end Alone

end Configuration

end RouteTemplate
