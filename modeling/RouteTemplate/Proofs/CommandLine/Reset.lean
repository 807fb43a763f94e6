import RouteTemplate.Proofs.CommandLine.UserFile

set_option autoImplicit false

namespace RouteTemplate.CommandLine

open RouteTemplate.Configuration

/-- A forced reset succeeds wherever the user file can be written. -/
theorem saved_of_runReset {host : Host} {p : Path} {before : Option (List UInt8)} (output : Output) (input : Text)
    (place : userFile host = .ok p) (readable : host.read p = .ok before)
    (writable : host.files.Writable host.directory p) :
    let outcome := runReset output true input host
    outcome.1.exitCode = 0 ∧ save host {} = (.ok p, outcome.2) := by
  obtain ⟨after, saved⟩ := save_of_writable place readable writable {}
  have told : runReset output true input host =
      saveThenTell output {} {} (fun p => List.flatten ["Reset ", p.text, " to defaults."]) host := rfl
  dsimp only
  rw [told, saveThenTell, saved]
  exact ⟨rfl, rfl⟩

/-- A forced reset where the user file can be written. If a source of the settings is at fault, be it the user file
itself, the process fails and nothing has changed; otherwise the user file holds the defaults, and they are in effect
where neither a project file nor the environment gives a setting. -/
theorem forcedReset_of_sources {host : Host} {arguments : List Text} {globals : Globals} {p : Path}
    {user project : Option (List UInt8)} (interactive : Bool) (input : Text)
    (request : Request.read arguments = .start globals (.command (.reset true)))
    (place : userFile host = .ok p) (userRead : host.read p = .ok user)
    (projectRead : host.read (projectFile host none) = .ok project)
    (writable : host.files.Writable host.directory p) :
    let i : Invocation := { host, interactive, arguments, input }
    let sources : Sources := ⟨user, project, host.environment, globals.layer⟩
    (sources.Faulty → i.exitCode = 1 ∧ i.outcome.2 = host) ∧
      (¬sources.Faulty → i.exitCode = 0 ∧ HoldsSettings i.after {} ∧
        (host.files.namesDirectory host.directory host.currentPath = true → project = none →
          (∀ s : Setting, (host.environment.getD s.variableName).isBlank = true) →
            effective i.outcome.2 [] none = .ok {})) := by
  intro i sources
  have started : (∃ settings, effective host globals.layer none = .ok settings) ↔ ¬sources.Faulty :=
    exists_effective_iff place userRead projectRead
  constructor
  · intro faulty
    cases found : effective host globals.layer none with
    | ok settings => exact absurd faulty (started.mp ⟨settings, found⟩)
    | error e =>
      have stopped := Invocation.outcome_of_error (i := i) request found
      rw [Invocation.exitCode, stopped]
      exact ⟨code_of_configurationError e, rfl⟩
  · intro clean
    obtain ⟨settings, found⟩ := started.mpr clean
    have ran : i.outcome = runReset (outputOf host interactive globals.outputOptions) true input host :=
      Invocation.outcome_of_command (i := i) request found
    obtain ⟨done, saved⟩ :=
      saved_of_runReset (outputOf host interactive globals.outputOptions) input place userRead writable
    rw [← ran] at done saved
    refine ⟨done, ?_, fun here absent blank => ?_⟩
    · rw [Invocation.after, userContent_of_saved place userRead saved]
      exact holdsSettings_fileText {}
    · exact effective_of_saved place userRead saved here (absent ▸ projectRead) blank

/-- A user file with a word for a truth value, which gives a setting. -/
theorem forcedReset_of_sources_word :
    let content : Text := "\x7b\"strict_templates\": \"YES\"\x7d"
    let host : Host :=
      { files := ⟨[(["c"], .directory), (["c", "httpbutler"], .directory),
          (["c", "httpbutler", "config.json"], .file content.octets)]⟩
        environment := [("XDG_CONFIG_HOME", "/c")] }
    let p : Path := ⟨.root, ["c", "httpbutler", "config.json"]⟩
    let i : Invocation := { host, arguments := ["config", "reset", "--force"] }
    Request.read i.arguments = .start {} (.command (.reset true)) ∧ userFile host = .ok p ∧
      host.read p = .ok (some content.octets) ∧ host.read (projectFile host none) = .ok none ∧
      host.files.Writable host.directory p ∧ effective host [] none = .ok { strictTemplates := true } ∧
      i.exitCode = 0 ∧ HoldsSettings i.after {} ∧ effective i.outcome.2 [] none = .ok {} := by
  intro content host p i
  have request : Request.read i.arguments = .start {} (.command (.reset true)) := by rfl
  have place : userFile host = .ok p := by rfl
  have userRead : host.read p = .ok (some content.octets) := by rfl
  have projectRead : host.read (projectFile host none) = .ok none := by rfl
  have writable : host.files.Writable host.directory p := ⟨host.files, by rfl, by rfl, by rfl⟩
  have found : effective host [] none = .ok { strictTemplates := true } := by decide +kernel +zetaReduce
  have clean := (exists_effective_iff place userRead projectRead).mp ⟨_, found⟩
  obtain ⟨done, holds, inEffect⟩ :=
    (forcedReset_of_sources false [] request place userRead projectRead writable).2 clean
  have blank (s : Setting) : (host.environment.getD s.variableName).isBlank = true := by cases s <;> rfl
  exact ⟨request, place, userRead, projectRead, writable, found, done, holds, inEffect (by rfl) rfl blank⟩

/-- A user file whose document is no object is not reset, though nothing else gives a setting and the file can be
written. -/
theorem forcedReset_of_broken_file :
    let content : Text := "[]"
    let host : Host :=
      { files := ⟨[(["c"], .directory), (["c", "httpbutler"], .directory),
          (["c", "httpbutler", "config.json"], .file content.octets)]⟩
        environment := [("XDG_CONFIG_HOME", "/c")] }
    let p : Path := ⟨.root, ["c", "httpbutler", "config.json"]⟩
    let i : Invocation := { host, arguments := ["config", "reset", "--force"] }
    Request.read i.arguments = .start {} (.command (.reset true)) ∧ userFile host = .ok p ∧
      host.read p = .ok (some content.octets) ∧ host.read (projectFile host none) = .ok none ∧
      (∀ s : Setting, host.environment.get? s.variableName = none) ∧ host.files.Writable host.directory p ∧
      i.exitCode = 1 ∧ i.after = some content.octets ∧
      effective i.outcome.2 [] none = .error (.file .user "/c/httpbutler/config.json" .notObject) := by
  intro content host p i
  have unset (s : Setting) : host.environment.get? s.variableName = none := by cases s <;> rfl
  have writable : host.files.Writable host.directory p := ⟨host.files, by rfl, by rfl, by rfl⟩
  have failed : i.exitCode = 1 ∧ i.after = some content.octets ∧
      effective i.outcome.2 [] none = .error (.file .user "/c/httpbutler/config.json" .notObject) := by
    decide +kernel +zetaReduce
  exact ⟨by rfl, by rfl, by rfl, by rfl, unset, writable, failed⟩

end RouteTemplate.CommandLine
