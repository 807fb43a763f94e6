import Mathlib.Data.List.Permutation
import RouteTemplate.Configuration.Effective
import RouteTemplate.Proofs.Configuration.Validation
import RouteTemplate.Proofs.Except
import RouteTemplate.Proofs.Table

set_option autoImplicit false

namespace RouteTemplate

def ConfigurationError.IsReported (e : ConfigurationError) : Prop :=
  ∃ report, e.report? = some report ∧ report.kind = .configuration

namespace Configuration

/-- The octets are the text of a document that is an object with entries. -/
def HoldsObject (octets : List UInt8) (entries : Layer) : Prop :=
  ∃ text, Text.ofOctets octets = .ok text ∧ Json.read text.unifyLineEnds = .ok (.object entries)

/-- The octets are a text nested too deeply to be read as a document. -/
def NestsTooDeep (octets : List UInt8) : Prop :=
  ∃ text container position,
    Text.ofOctets octets = .ok text ∧ Json.read text.unifyLineEnds = .error ⟨.tooDeep container, position⟩

theorem readLayer_eq_ok_iff {octets : List UInt8} {entries : Layer} :
    readLayer octets = .ok entries ↔ HoldsObject octets entries := by
  unfold readLayer readTextFile HoldsObject
  cases decoded : Text.ofOctets octets with
  | error e => simp [Except.map]
  | ok text =>
    simp only [Except.map, Except.ok.injEq, exists_eq_left']
    split
    · next e failed => simp [failed]
    · next read => simp [read]
    · next value other read =>
      rw [read]
      constructor
      · intro done
        cases done
      · intro same
        cases same
        exact (other entries rfl).elim

theorem isReported_of_readLayer {octets : List UInt8} {fault : LayerFault} {layer : FileLayer} {p : Path}
    (shallow : ¬NestsTooDeep octets) (failed : readLayer octets = .error fault) :
    (faultyFile layer p fault).IsReported := by
  have reported (fault : LayerFault) : (ConfigurationError.file layer p.text fault).IsReported := ⟨_, rfl, rfl⟩
  unfold faultyFile
  split
  · next text container position =>
    unfold readLayer readTextFile at failed
    cases decoded : Text.ofOctets octets with
    | error e =>
      rw [decoded] at failed
      cases failed
    | ok text =>
      rw [decoded] at failed
      simp only [Except.map] at failed
      split at failed
      · next e read =>
        cases failed
        exact absurd ⟨text, container, position, decoded, read⟩ shallow
      · cases failed
      · cases failed
  · exact reported fault

theorem HoldsObject.not_nestsTooDeep {octets : List UInt8} {entries : Layer} (holds : HoldsObject octets entries) :
    ¬NestsTooDeep octets := by
  obtain ⟨text, decoded, read⟩ := holds
  rintro ⟨other, container, position, again, failed⟩
  cases decoded.symm.trans again
  cases read.symm.trans failed

def entriesOf : Option (List UInt8) → Layer
  | none => []
  | some octets => (readLayer octets).toOption.getD []

/-- The file is not there or gives entries. -/
def IsSound (content : Option (List UInt8)) : Prop := ∀ octets ∈ content, ∃ entries, HoldsObject octets entries

section Files

variable {host : Host} {layer : FileLayer} {p : Path} {content : Option (List UInt8)}

theorem fileLayer_of_isSound (found : host.read p = .ok content) (sound : IsSound content) :
    fileLayer host layer p = .ok (entriesOf content) := by
  unfold fileLayer
  rw [found]
  cases content with
  | none => rfl
  | some octets =>
    obtain ⟨entries, holds⟩ := sound octets rfl
    have read := readLayer_eq_ok_iff.mpr holds
    simp only [read, entriesOf]
    rfl

theorem fileLayer_of_not_isSound (found : host.read p = .ok content) (unsound : ¬IsSound content)
    (shallow : ∀ octets ∈ content, ¬NestsTooDeep octets) :
    ∃ e, fileLayer host layer p = .error e ∧ e.IsReported := by
  unfold fileLayer
  rw [found]
  cases content with
  | none => exact absurd (by simp [IsSound]) unsound
  | some octets =>
    cases read : readLayer octets with
    | ok entries =>
      have holds : IsSound (some octets) := by
        rintro _ ⟨⟩
        exact ⟨entries, readLayer_eq_ok_iff.mp read⟩
      exact absurd holds unsound
    | error fault =>
      refine ⟨faultyFile layer p fault, ?_, isReported_of_readLayer (shallow octets rfl) read⟩
      simp only [read]
      rfl

theorem isSound_of_fileLayer {entries : Layer} (found : host.read p = .ok content)
    (given : fileLayer host layer p = .ok entries) : IsSound content := by
  rintro octets ⟨⟩
  unfold fileLayer at given
  rw [found] at given
  cases read : readLayer octets with
  | error fault =>
    simp only [read] at given
    cases given
  | ok object => exact ⟨object, readLayer_eq_ok_iff.mp read⟩

end Files

/-- The value that the environment gives for a setting: none when its variable is blank. -/
def environmentValue? (environment : Environment) (s : Setting) : Option Json :=
  let value := environment.getD s.variableName
  if value.isBlank then none else (readTruth? value).map .bool

/-- The variable of a setting is neither blank nor a truth value. -/
def IsUnreadable (environment : Environment) (s : Setting) : Prop :=
  (environment.getD s.variableName).isBlank = false ∧ readTruth? (environment.getD s.variableName) = none

theorem fromVariable_eq_ok {environment : Environment} {s : Setting} (readable : ¬IsUnreadable environment s) :
    fromVariable environment s = .ok ((environmentValue? environment s).map (s.key, ·)) := by
  unfold fromVariable environmentValue?
  dsimp only
  split
  · rfl
  · next set =>
    cases read : readTruth? (environment.getD s.variableName) with
    | some b => rfl
    | none => exact absurd ⟨by simpa using set, read⟩ readable

theorem fromVariable_eq_error {environment : Environment} {s : Setting} (unreadable : IsUnreadable environment s) :
    fromVariable environment s = .error (.badVariable s.variableName (environment.getD s.variableName)) := by
  obtain ⟨set, unread⟩ := unreadable
  simp [fromVariable, set, unread]

/-- The layer of an environment in which every variable is blank or a truth value. -/
def environmentEntries (environment : Environment) : Layer :=
  Setting.all.filterMap fun s => (environmentValue? environment s).map (s.key, ·)

theorem environmentLayer_eq_ok {environment : Environment} (readable : ∀ s, ¬IsUnreadable environment s) :
    environmentLayer environment = .ok (environmentEntries environment) := by
  unfold environmentLayer
  rw [mapM_eq_ok_of_forall fun s _ => fromVariable_eq_ok (readable s)]
  simp [Except.map, environmentEntries, List.filterMap_map]

theorem environmentLayer_of_blank {environment : Environment}
    (blank : ∀ s : Setting, (environment.getD s.variableName).isBlank = true) : environmentLayer environment = .ok [] := by
  have readable (s : Setting) : ¬IsUnreadable environment s := by
    rintro ⟨set, _⟩
    cases set.symm.trans (blank s)
  have silent (s : Setting) : environmentValue? environment s = none := by
    rw [environmentValue?, blank s]
    rfl
  rw [environmentLayer_eq_ok readable, environmentEntries, List.filterMap_eq_nil_iff.mpr]
  intro s _
  rw [silent]
  rfl

theorem environmentLayer_eq_error {environment : Environment} {s : Setting}
    (unreadable : IsUnreadable environment s) :
    ∃ e, environmentLayer environment = .error e ∧ e.IsReported := by
  unfold environmentLayer
  cases read : Setting.all.mapM (fromVariable environment) with
  | ok entries =>
    obtain ⟨entry, done⟩ := forall_of_mapM_eq_ok read s s.mem_all
    rw [fromVariable_eq_error unreadable] at done
    cases done
  | error e =>
    obtain ⟨t, _, failed⟩ := exists_of_mapM_eq_error read
    refine ⟨e, rfl, ?_⟩
    by_cases other : IsUnreadable environment t
    · rw [fromVariable_eq_error other] at failed
      cases failed
      exact ⟨_, rfl, rfl⟩
    · rw [fromVariable_eq_ok other] at failed
      cases failed

theorem last?_filterMap_key (value? : Setting → Option Json) (settings : List Setting) (s : Setting) :
    Table.last? s.key (settings.filterMap fun t => (value? t).map (t.key, ·)) =
      if s ∈ settings then value? s else none := by
  induction settings with
  | nil => rfl
  | cons t settings ih =>
    rw [List.filterMap_cons]
    by_cases same : s = t
    · subst same
      cases given : value? s with
      | none => simp [ih, given]
      | some value => by_cases later : s ∈ settings <;> simp [Table.last?_cons, ih, given, later]
    · have keys : ¬t.key = s.key := fun equal => same (Setting.key_injective equal).symm
      cases value? t with
      | none => simp [ih, same]
      | some value => simp [Table.last?_cons, ih, same, keys]

theorem last?_environmentEntries (environment : Environment) (s : Setting) :
    Table.last? s.key (environmentEntries environment) = environmentValue? environment s := by
  rw [environmentEntries, last?_filterMap_key, if_pos s.mem_all]

/-- What the settings in effect are made from: the octets of the two files, the environment, the explicit values. -/
structure Sources where
  user : Option (List UInt8)
  project : Option (List UInt8)
  environment : Environment
  explicit : Layer

namespace Sources

/-- The value that counts for a setting: that of the highest layer that gives one. An explicit value that is absent
gives none, and neither does a blank variable. -/
def given? (sources : Sources) (s : Setting) : Option Json :=
  (Table.last? s.key (explicitLayer sources.explicit)).or <| (environmentValue? sources.environment s).or <|
    (Table.last? s.key (entriesOf sources.project)).or (Table.last? s.key (entriesOf sources.user))

/-- The keys that files and explicit values give. -/
def keys (sources : Sources) : List Text :=
  Table.keys (entriesOf sources.user) ++ Table.keys (entriesOf sources.project) ++
    Table.keys (explicitLayer sources.explicit)

/-- What keeps sources from giving settings. -/
inductive Faulty (sources : Sources) : Prop
  | file (octets : List UInt8) (present : sources.user = some octets ∨ sources.project = some octets)
      (broken : ¬∃ entries, HoldsObject octets entries)
  | setting (s : Setting) (unreadable : IsUnreadable sources.environment s)
  | unknown (key : Text) (given : key ∈ sources.keys) (unknown : ∀ s : Setting, s.key ≠ key)
  | value (s : Setting) (value : Json) (kind : IssueKind) (given : sources.given? s = some value)
      (refused : value.readTruth = .error kind)

def merged (sources : Sources) : Layer :=
  overlay [entriesOf sources.user, entriesOf sources.project, environmentEntries sources.environment,
    explicitLayer sources.explicit]

theorem get?_merged (sources : Sources) (s : Setting) : Table.get? s.key sources.merged = sources.given? s := by
  simp only [merged, overlay, List.foldl_cons, List.foldl_nil, Table.get?_merge, last?_environmentEntries, Table.get?_nil,
    Option.or_none, given?]

theorem mem_keys_environmentEntries {environment : Environment} {key : Text}
    (inside : key ∈ Table.keys (environmentEntries environment)) : ∃ s : Setting, s.key = key := by
  obtain ⟨entry, member, rfl⟩ := List.mem_map.mp inside
  obtain ⟨s, _, made⟩ := List.mem_filterMap.mp member
  obtain ⟨value, _, rfl⟩ := Option.map_eq_some_iff.mp made
  exact ⟨s, rfl⟩

theorem issues_merged_iff {sources : Sources} :
    Settings.issues sources.merged = [] ↔
      (∀ s value, sources.given? s = some value → ∃ b, value.readTruth = .ok b) ∧
        ∀ key ∈ sources.keys, ∃ s : Setting, s.key = key := by
  have members (key : Text) : key ∈ Table.keys sources.merged ↔
      key ∈ sources.keys ∨ key ∈ Table.keys (environmentEntries sources.environment) := by
    simp only [merged, overlay, List.foldl_cons, List.foldl_nil, Table.mem_keys_merge, keys, List.mem_append]
    simp only [Table.keys, List.map_nil, List.not_mem_nil, false_or]
    rw [or_right_comm]
  simp only [Settings.issues_eq_nil_iff, get?_merged, members]
  refine and_congr_right fun _ => ⟨fun known key given => known key (.inl given), fun known key given => ?_⟩
  rcases given with direct | set
  · exact known key direct
  · exact mem_keys_environmentEntries set

end Sources

section Effective

variable {host : Host} {directory : Option Path} {p : Path} {user project : Option (List UInt8)}

theorem userLayer_eq (place : userFile host = .ok p) : userLayer host = fileLayer host .user p := by
  rw [userLayer, place]

theorem effective_of_layers {first second third : Layer} (explicit : Layer) (userRead : userLayer host = .ok first)
    (projectRead : projectLayer host directory = .ok second)
    (environmentRead : environmentLayer host.environment = .ok third) :
    effective host explicit directory =
      (Settings.ofEntries (overlay [first, second, third, explicitLayer explicit])).mapError .invalid := by
  rw [effective, layers, userRead, projectRead, environmentRead]
  rfl

theorem exists_layers_of_effective {explicit : Layer} {settings : Settings}
    (found : effective host explicit directory = .ok settings) :
    ∃ first second third, userLayer host = .ok first ∧ projectLayer host directory = .ok second ∧
      environmentLayer host.environment = .ok third := by
  obtain ⟨below, layered, _⟩ := bind_eq_ok.mp found
  obtain ⟨first, userLayer_ok, layered⟩ := bind_eq_ok.mp layered
  obtain ⟨second, projectLayer_ok, layered⟩ := bind_eq_ok.mp layered
  obtain ⟨third, environmentLayer_ok, _⟩ := bind_eq_ok.mp layered
  exact ⟨first, second, third, userLayer_ok, projectLayer_ok, environmentLayer_ok⟩

theorem exists_error_of_layers {explicit : Layer} {e : ConfigurationError}
    (failed : layers host directory = .error e) : effective host explicit directory = .error e := by
  rw [effective, failed]
  rfl

theorem effective_of_faulty {explicit : Layer} (place : userFile host = .ok p) (userRead : host.read p = .ok user)
    (projectRead : host.read (projectFile host directory) = .ok project)
    (shallow : ∀ octets, user = some octets ∨ project = some octets → ¬NestsTooDeep octets)
    (faulty : Sources.Faulty ⟨user, project, host.environment, explicit⟩) :
    ∃ e, effective host explicit directory = .error e ∧ e.IsReported := by
  -- The layers are read one after another; the first that fails decides, whatever else is wrong.
  by_cases userSound : IsSound user
  · have userLayer_ok : userLayer host = .ok (entriesOf user) :=
      (userLayer_eq place).trans (fileLayer_of_isSound userRead userSound)
    by_cases projectSound : IsSound project
    · have projectLayer_ok : projectLayer host directory = .ok (entriesOf project) :=
        fileLayer_of_isSound projectRead projectSound
      by_cases readable : ∀ s, ¬IsUnreadable host.environment s
      · have outcome := effective_of_layers explicit userLayer_ok projectLayer_ok (environmentLayer_eq_ok readable)
        have dirty : Settings.issues (Sources.merged ⟨user, project, host.environment, explicit⟩) ≠ [] := by
          rw [ne_eq, Sources.issues_merged_iff]
          rintro ⟨values, keys⟩
          cases faulty with
          | file octets present broken =>
            rcases present with inUser | inProject
            · exact broken (userSound octets inUser)
            · exact broken (projectSound octets inProject)
          | setting s unreadable => exact readable s unreadable
          | unknown key given unknown =>
            obtain ⟨s, same⟩ := keys key given
            exact unknown s same
          | value s value kind given refused =>
            obtain ⟨b, accepted⟩ := values s value given
            rw [accepted] at refused
            cases refused
        cases found : Settings.ofEntries (Sources.merged ⟨user, project, host.environment, explicit⟩) with
        | ok settings => exact absurd (Settings.ofEntries_eq_ok_iff.mp found).1 dirty
        | error issues =>
          refine ⟨.invalid issues, ?_, _, rfl, rfl⟩
          rw [outcome]
          exact congrArg (Except.mapError ConfigurationError.invalid) found
      · obtain ⟨s, unreadable⟩ := Classical.not_forall.mp readable
        obtain ⟨e, failed, reported⟩ := environmentLayer_eq_error (Classical.not_not.mp unreadable)
        refine ⟨e, exists_error_of_layers ?_, reported⟩
        rw [layers, userLayer_ok, projectLayer_ok, failed]
        rfl
    · obtain ⟨e, failed, reported⟩ : ∃ e, projectLayer host directory = .error e ∧ e.IsReported :=
        fileLayer_of_not_isSound projectRead projectSound fun octets present => shallow octets (.inr present)
      refine ⟨e, exists_error_of_layers ?_, reported⟩
      rw [layers, userLayer_ok, failed]
      rfl
  · obtain ⟨e, failed, reported⟩ : ∃ e, fileLayer host .user p = .error e ∧ e.IsReported :=
      fileLayer_of_not_isSound userRead userSound fun octets present => shallow octets (.inl present)
    refine ⟨e, exists_error_of_layers ?_, reported⟩
    rw [layers, userLayer_eq place, failed]
    rfl

theorem effective_of_not_faulty {explicit : Layer} (place : userFile host = .ok p) (userRead : host.read p = .ok user)
    (projectRead : host.read (projectFile host directory) = .ok project)
    (clean : ¬Sources.Faulty ⟨user, project, host.environment, explicit⟩) :
    ∃ settings, effective host explicit directory = .ok settings ∧
      settings = .ofValues (Settings.valueOf (Sources.merged ⟨user, project, host.environment, explicit⟩)) := by
  have userSound : IsSound user := by
    intro octets present
    exact Classical.not_not.mp fun broken => clean (.file octets (.inl present) broken)
  have projectSound : IsSound project := by
    intro octets present
    exact Classical.not_not.mp fun broken => clean (.file octets (.inr present) broken)
  have readable (s : Setting) : ¬IsUnreadable host.environment s := fun unreadable => clean (.setting s unreadable)
  have userLayer_ok : userLayer host = .ok (entriesOf user) :=
    (userLayer_eq place).trans (fileLayer_of_isSound userRead userSound)
  have outcome := effective_of_layers explicit userLayer_ok (fileLayer_of_isSound projectRead projectSound)
    (environmentLayer_eq_ok readable)
  have clear : Settings.issues (Sources.merged ⟨user, project, host.environment, explicit⟩) = [] := by
    rw [Sources.issues_merged_iff]
    constructor
    · intro s value given
      cases read : value.readTruth with
      | ok b => exact ⟨b, rfl⟩
      | error kind => exact absurd (.value s value kind given read) clean
    · intro key given
      exact Classical.not_not.mp fun none => clean (.unknown key given fun s same => none ⟨s, same⟩)
  refine ⟨_, outcome.trans ?_, rfl⟩
  exact congrArg (Except.mapError ConfigurationError.invalid) (Settings.ofEntries_eq_ok_iff.mpr ⟨clear, rfl⟩)

/-- Settings come out exactly if the sources are not at fault, also where a file is nested too deeply. -/
theorem exists_effective_iff {explicit : Layer} (place : userFile host = .ok p) (userRead : host.read p = .ok user)
    (projectRead : host.read (projectFile host directory) = .ok project) :
    (∃ settings, effective host explicit directory = .ok settings) ↔
      ¬Sources.Faulty ⟨user, project, host.environment, explicit⟩ := by
  constructor
  · rintro ⟨settings, done⟩ faulty
    obtain ⟨first, second, _, userLayer_ok, projectLayer_ok, _⟩ := exists_layers_of_effective done
    rw [userLayer_eq place] at userLayer_ok
    have shallow (octets : List UInt8) (present : user = some octets ∨ project = some octets) : ¬NestsTooDeep octets := by
      rcases present with inUser | inProject
      · obtain ⟨_, holds⟩ := isSound_of_fileLayer userRead userLayer_ok octets inUser
        exact holds.not_nestsTooDeep
      · obtain ⟨_, holds⟩ := isSound_of_fileLayer projectRead projectLayer_ok octets inProject
        exact holds.not_nestsTooDeep
    obtain ⟨e, failed, _⟩ := effective_of_faulty place userRead projectRead shallow faulty
    cases done.symm.trans failed
  · intro clean
    obtain ⟨settings, done, _⟩ := effective_of_not_faulty place userRead projectRead clean
    exact ⟨settings, done⟩

/-- Settings come out unless the sources are at fault. Each has the value that counts for it, or its default. -/
theorem effective_of_sources (explicit : Layer) (place : userFile host = .ok p) (userRead : host.read p = .ok user)
    (projectRead : host.read (projectFile host directory) = .ok project)
    (shallow : ∀ octets, user = some octets ∨ project = some octets → ¬NestsTooDeep octets) :
    let sources : Sources := ⟨user, project, host.environment, explicit⟩
    ((∃ e, effective host explicit directory = .error e ∧ e.IsReported) ↔ sources.Faulty) ∧
      (¬sources.Faulty → ∃ settings, effective host explicit directory = .ok settings ∧
        ∀ s, (∀ value, sources.given? s = some value → value.readTruth = .ok (settings.get s)) ∧
          (sources.given? s = none → settings.get s = ({} : Settings).get s)) := by
  intro sources
  constructor
  · constructor
    · rintro ⟨e, failed, _⟩
      refine Classical.not_not.mp fun clean => ?_
      obtain ⟨settings, done, _⟩ := effective_of_not_faulty place userRead projectRead clean
      cases failed.symm.trans done
    · exact effective_of_faulty place userRead projectRead shallow
  · intro clean
    obtain ⟨settings, done, rfl⟩ := effective_of_not_faulty place userRead projectRead clean
    refine ⟨_, done, fun s => ?_⟩
    have merged := sources.get?_merged s
    rw [Settings.get_ofValues]
    constructor
    · intro value given
      obtain ⟨b, accepted⟩ : ∃ b, value.readTruth = .ok b := by
        cases read : value.readTruth with
        | ok b => exact ⟨b, rfl⟩
        | error kind => exact absurd (.value s value kind given read) clean
      rw [Settings.valueOf_of_some (merged.trans given) accepted, accepted]
    · intro absent
      exact Settings.valueOf_of_none (merged.trans absent)

/-- A value of the user file that no setting could have under a good one of the project file, a word with blanks around
it in the environment, and an explicit value that is absent. -/
theorem effective_of_sources_covered_value :
    let userText : Text := "\x7b\"strict_templates\": [], \"append_unconsumed\": \"OFF\"\x7d"
    let projectText : Text := "\x7b\"strict_templates\": 1\x7d"
    let environment : Environment :=
      [("XDG_CONFIG_HOME", "/c"), ("HTTPBUTLER_LOWERCASE_BOOLEANS", " No "), ("HTTPBUTLER_STRICT_TEMPLATES", " ")]
    let host : Host :=
      { files := ⟨[(["c"], .directory), (["c", "httpbutler"], .directory),
          (["c", "httpbutler", "config.json"], .file userText.octets), (["w"], .directory),
          (["w", "httpbutler.json"], .file projectText.octets)]⟩
        directory := ["w"]
        environment }
    let explicit : Layer := [("append_unconsumed", .null)]
    let p : Path := ⟨.root, ["c", "httpbutler", "config.json"]⟩
    let sources : Sources := ⟨some userText.octets, some projectText.octets, environment, explicit⟩
    userFile host = .ok p ∧ host.read p = .ok sources.user ∧ host.read (projectFile host none) = .ok sources.project ∧
      (∀ octets, sources.user = some octets ∨ sources.project = some octets → ¬NestsTooDeep octets) ∧
      effective host explicit none = .ok ⟨true, false, false⟩ ∧
      ((∃ e, effective host explicit none = .error e ∧ e.IsReported) ↔ sources.Faulty) ∧
      (¬sources.Faulty → ∃ settings, effective host explicit none = .ok settings ∧
        ∀ s, (∀ value, sources.given? s = some value → value.readTruth = .ok (settings.get s)) ∧
          (sources.given? s = none → settings.get s = ({} : Settings).get s)) := by
  intro userText projectText environment host explicit p sources
  have place : userFile host = .ok p := by rfl
  have userRead : host.read p = .ok sources.user := by rfl
  have projectRead : host.read (projectFile host none) = .ok sources.project := by rfl
  have userHolds : HoldsObject userText.octets
      [("strict_templates", .array []), ("append_unconsumed", .text "OFF")] := by
    subst userText
    exact ⟨_, by cbv, by cbv⟩
  have projectHolds : HoldsObject projectText.octets [("strict_templates", .int 1)] := by
    subst projectText
    exact ⟨_, by cbv, by cbv⟩
  have shallow (octets : List UInt8) (present : sources.user = some octets ∨ sources.project = some octets) :
      ¬NestsTooDeep octets := by
    rcases present with ⟨⟨⟩⟩ | ⟨⟨⟩⟩
    · exact userHolds.not_nestsTooDeep
    · exact projectHolds.not_nestsTooDeep
  have userLayer_ok : userLayer host = .ok [("strict_templates", .array []), ("append_unconsumed", .text "OFF")] := by
    rw [userLayer_eq place, fileLayer, userRead]
    exact congrArg (Except.mapError (faultyFile .user p)) (readLayer_eq_ok_iff.mpr userHolds)
  have projectLayer_ok : projectLayer host none = .ok [("strict_templates", .int 1)] := by
    rw [projectLayer, fileLayer, projectRead]
    exact congrArg (Except.mapError (faultyFile .project _)) (readLayer_eq_ok_iff.mpr projectHolds)
  have environmentLayer_ok : environmentLayer host.environment = .ok [("lowercase_booleans", .bool false)] := by rfl
  have done : effective host explicit none = .ok ⟨true, false, false⟩ :=
    (effective_of_layers explicit userLayer_ok projectLayer_ok environmentLayer_ok).trans (by rfl)
  exact ⟨place, userRead, projectRead, shallow, done, effective_of_sources explicit place userRead projectRead shallow⟩

end Effective

end Configuration

end RouteTemplate
