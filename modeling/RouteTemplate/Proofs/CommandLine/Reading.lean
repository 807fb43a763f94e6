import RouteTemplate.Proofs.CommandLine.Invocation
import RouteTemplate.Proofs.Files.Tree

set_option autoImplicit false

namespace RouteTemplate

namespace Configuration

variable {host : Host} {directory : Path}

/-- The directory of the user file is named only once it is there. -/
theorem namesDirectory_of_makeUserDirectory (made : (makeUserDirectory host).1 = .ok directory) :
    userDirectory host = .ok directory ∧
      (makeUserDirectory host).2.files.namesDirectory host.directory directory = true := by
  cases place : userDirectory host with
  | error fault =>
    rw [makeUserDirectory, place] at made
    cases made
  | ok d =>
    have attempt := FileTree.attempts_makeDirectories host.files host.directory d
    rw [makeUserDirectory, place] at made ⊢
    dsimp only [Host.makeDirectories] at made ⊢
    generalize host.files.makeDirectories host.directory d = outcome at attempt made
    obtain ⟨_ | ⟨⟨⟩⟩, files⟩ := outcome
    · cases made
    · cases made
      exact ⟨rfl, attempt.named rfl⟩

theorem makeUserDirectory_grown (host : Host) :
    ∃ files, (makeUserDirectory host).2 = { host with files } ∧ host.files.GainsDirectories files := by
  rw [makeUserDirectory]
  cases userDirectory host with
  | error fault => exact ⟨host.files, rfl, .refl _⟩
  | ok d =>
    have attempt := FileTree.attempts_makeDirectories host.files host.directory d
    dsimp only [Host.makeDirectories]
    generalize host.files.makeDirectories host.directory d = outcome at attempt
    obtain ⟨_ | _, files⟩ := outcome
    · exact ⟨files, rfl, attempt.grown⟩
    · exact ⟨files, rfl, attempt.grown⟩

/-- Where the directory is there, nothing is made to name it. -/
theorem makeUserDirectory_of_there
    (there : ∀ d, userDirectory host = .ok d → host.files.namesDirectory host.directory d = true) :
    (makeUserDirectory host).2 = host := by
  rw [makeUserDirectory]
  cases place : userDirectory host with
  | error fault => rfl
  | ok d =>
    dsimp only [Host.makeDirectories]
    rw [FileTree.makeDirectories_of_namesDirectory (there d place)]

end Configuration

namespace CommandLine

open RouteTemplate.Configuration

/-- The command is one that changes settings of the user file. -/
def Command.changesSettings : Command → Bool
  | set _ _ | reset _ => true
  | resolve _ _ _ | inspect _ | showSettings => false

theorem runShowSettings_host (output : Output) (settings : Settings) (host : Host) :
    (runShowSettings output settings host).2 = (makeUserDirectory host).2 := by
  unfold runShowSettings
  generalize makeUserDirectory host = outcome
  obtain ⟨_ | _, after⟩ := outcome <;> rfl

theorem makeUserDirectory_of_runShowSettings {output : Output} {settings : Settings} {host : Host}
    (done : (runShowSettings output settings host).1.exitCode = 0) : ∃ d, (makeUserDirectory host).1 = .ok d := by
  unfold runShowSettings at done
  generalize makeUserDirectory host = outcome at done
  obtain ⟨_ | d, after⟩ := outcome
  · cases done
  · exact ⟨d, rfl⟩

/-- A process leaves all files. It leaves everything as it is unless it shows the settings while the directory of the user
file is missing; if it has shown them, the directory is there afterwards. -/
structure Invocation.LeavesFiles (i : Invocation) : Prop where
  files : ∃ files, i.outcome.2 = { i.host with files } ∧ i.host.files.GainsDirectories files
  unchanged : (i.command? = some .showSettings →
    ∀ d, userDirectory i.host = .ok d → i.host.files.namesDirectory i.host.directory d = true) → i.outcome.2 = i.host
  made : i.command? = some .showSettings → i.exitCode = 0 →
    ∃ d, userDirectory i.host = .ok d ∧ i.outcome.2.files.namesDirectory i.host.directory d = true

namespace Invocation.LeavesFiles

variable {i : Invocation}

theorem of_unchanged (left : i.outcome.2 = i.host) (failed : i.command? = some .showSettings → i.exitCode ≠ 0) :
    i.LeavesFiles :=
  ⟨⟨i.host.files, left, .refl _⟩, fun _ => left, fun asked done => absurd done (failed asked)⟩

theorem of_runShowSettings {output : Output} {settings : Settings}
    (asked : i.command? = some .showSettings) (same : i.outcome = runShowSettings output settings i.host) :
    i.LeavesFiles := by
  have left : i.outcome.2 = (makeUserDirectory i.host).2 := by
    rw [same]
    exact runShowSettings_host output settings i.host
  refine ⟨?_, fun there => left.trans (makeUserDirectory_of_there (there asked)), fun _ done => ?_⟩
  · rw [left]
    exact makeUserDirectory_grown i.host
  · rw [Invocation.exitCode, same] at done
    obtain ⟨d, made⟩ := makeUserDirectory_of_runShowSettings done
    rw [left]
    exact ⟨d, namesDirectory_of_makeUserDirectory made⟩

end Invocation.LeavesFiles

/-- No file is touched by a process that is not asked to change settings, whatever else it is asked for and however it
ends. -/
theorem run_leaves_files (i : Invocation) (reading : ∀ c, i.command? = some c → c.changesSettings = false) :
    i.LeavesFiles := by
  cases i.course with
  | idle none left =>
    refine .of_unchanged left fun asked => ?_
    cases none.symm.trans asked
  | unsettled code left => exact .of_unchanged left fun _ => by rw [code]; exact Int.one_ne_zero
  | ran c globals settings asked found same =>
    have other (idle : c ≠ .showSettings) : i.command? = some .showSettings → i.exitCode ≠ 0 := by
      intro shown
      cases asked.symm.trans shown
      exact absurd rfl idle
    have unchanging := reading c asked
    cases c with
    | resolve template parameters base => exact .of_unchanged (congrArg Prod.snd same) (other (by simp))
    | inspect template => exact .of_unchanged (congrArg Prod.snd same) (other (by simp))
    | showSettings => exact .of_runShowSettings asked same
    | set key value => cases unchanging
    | reset force => cases unchanging

/-- Settings that are shown where the directory of the user file is there, and a template that lacks a value. -/
theorem run_leaves_files_unchanged :
    let host : Host :=
      { files := ⟨[(["c"], .directory), (["c", "httpbutler"], .directory)]⟩, environment := [("XDG_CONFIG_HOME", "/c")] }
    let shown : Invocation := { host, arguments := ["--json", "config", "show"] }
    let failing : Invocation := { host := { host with files := {} }, arguments := ["resolve", "/\x7bid\x7d"] }
    shown.command? = some .showSettings ∧ failing.command? = some (.resolve "/\x7bid\x7d" [] none) ∧
      shown.exitCode = 0 ∧ failing.exitCode ≠ 0 ∧ shown.outcome.2 = shown.host ∧ failing.outcome.2 = failing.host := by
  intro host shown failing
  have asked : shown.command? = some .showSettings := by rfl
  have asked' : failing.command? = some (.resolve "/\x7bid\x7d" [] none) := by rfl
  have reading (c : Command) (same : shown.command? = some c) : c.changesSettings = false := by
    cases asked.symm.trans same
    rfl
  have reading' (c : Command) (same : failing.command? = some c) : c.changesSettings = false := by
    cases asked'.symm.trans same
    rfl
  have codes : shown.exitCode = 0 ∧ failing.exitCode ≠ 0 := by decide +kernel +zetaReduce
  refine ⟨asked, asked', codes.1, codes.2, (run_leaves_files shown reading).unchanged fun _ d place => ?_,
    (run_leaves_files failing reading').unchanged fun shows => ?_⟩
  · have known : userDirectory host = .ok ⟨.root, ["c", "httpbutler"]⟩ := by rfl
    cases known.symm.trans place
    rfl
  · cases asked'.symm.trans shows

/-- Settings that are shown where there are no files leave two directories behind. -/
theorem run_makes_directories :
    let host : Host := { environment := [("XDG_CONFIG_HOME", "/c")] }
    let i : Invocation := { host, arguments := ["config", "show"] }
    i.command? = some .showSettings ∧ i.exitCode = 0 ∧ i.outcome.2 ≠ i.host ∧
      i.outcome.2.files = ⟨[(["c"], .directory), (["c", "httpbutler"], .directory)]⟩ := by
  decide +kernel +zetaReduce

end CommandLine

end RouteTemplate
