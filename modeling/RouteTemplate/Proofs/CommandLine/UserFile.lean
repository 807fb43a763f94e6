import RouteTemplate.Proofs.CommandLine.Invocation
import RouteTemplate.Proofs.Configuration.UserFile

set_option autoImplicit false

namespace RouteTemplate

open RouteTemplate.Configuration

/-- A setting is as the entries of a document say, or as it is by default where they say nothing. -/
def Settings.Keeps (settings : Settings) (entries : Layer) (s : Setting) : Prop :=
  (∀ value, Table.get? s.key entries = some value → value.readTruth = .ok (settings.get s)) ∧
    (Table.get? s.key entries = none → settings.get s = ({} : Settings).get s)

/-- The octets of a file are a document that is an object of settings, all of them and nothing else. -/
def HoldsSettings (content : Option (List UInt8)) (settings : Settings) : Prop :=
  ∃ octets, content = some octets ∧ HoldsObject octets settings.entries

theorem holdsSettings_fileText (settings : Settings) : HoldsSettings (some (fileText settings).octets) settings :=
  ⟨_, rfl, readLayer_eq_ok_iff.mp (readLayer_fileText settings)⟩

theorem layer?_of_holdsSettings {content : Option (List UInt8)} {settings : Settings}
    (holds : HoldsSettings content settings) : layer? content = some settings.entries := by
  obtain ⟨octets, rfl, object⟩ := holds
  rw [layer?, readLayer_eq_ok_iff.mpr object]
  rfl

namespace CommandLine

/-- What a command does to the settings of the user file. -/
inductive Change where
  | set (s : Setting) (value : Bool)
  | reset
deriving Repr, DecidableEq

/-- The layer that a change makes of another. A layer that is at fault can only be reset. -/
def Change.apply (layer : Option Layer) : Change → Option Layer
  | set s value =>
    layer.map fun entries => (Settings.ofValues fun t => if t = s then value else Settings.valueOf entries t).entries
  | reset => some ({} : Settings).entries

namespace Invocation

def before (i : Invocation) : Option (List UInt8) := userContent i.host

def after (i : Invocation) : Option (List UInt8) := userContent i.outcome.2

/-- Does a reset wait for an answer, and is that no? -/
def isDeclined (i : Invocation) : Bool :=
  i.command? = some (.reset false) && (confirm resetQuestion (inputLines i.input)).1 = .no

/-- What the process did to the settings of the user file, nothing unless it succeeded and was not declined. -/
def change? (i : Invocation) : Option Change :=
  if i.exitCode ≠ 0 || i.isDeclined then none
  else
    match i.command? with
    | some (.set key value) => (Setting.ofKey? key).bind fun s => (readTruth? value).map (.set s)
    | some (.reset _) => some .reset
    | _ => none

end Invocation

section Commands

variable (output : Output) {host : Host}

/-- Saving succeeds with the settings in the user file, or it fails and leaves the file. -/
theorem saveThenTell_cases (before : Written) (settings : Settings) (message : Path → Text) {entries : Layer}
    (readable : userLayer host = .ok entries) :
    let outcome := saveThenTell output before settings message host
    (outcome.1.exitCode = 0 ∧ userContent outcome.2 = some (fileText settings).octets) ∨
      (outcome.1.exitCode ≠ 0 ∧ userContent outcome.2 = userContent host) := by
  obtain ⟨_, p, read, place, found⟩ := layer?_of_userLayer readable
  unfold saveThenTell
  dsimp only
  split
  · next e after failed => exact .inr ⟨code_unexpected _, userContent_of_unsaved failed⟩
  · next q after saved => exact .inl ⟨rfl, userContent_of_saved place found saved⟩

theorem changedSettings_eq_ok {s : Setting} {b : Bool} {settings : Settings} {entries : Layer}
    (readable : userLayer host = .ok entries) (changed : changedSettings host s b = .ok settings) :
    Settings.ofEntries (Table.put s.key (.bool b) entries) = .ok settings := by
  unfold changedSettings at changed
  rw [readable] at changed
  dsimp only at changed
  cases read : Settings.ofEntries (Table.put s.key (.bool b) entries) with
  | error issues =>
    rw [read] at changed
    cases changed
  | ok settings' =>
    rw [read] at changed
    cases changed
    rfl

theorem code_of_changedSettings {s : Setting} {b : Bool} {failure : Failure} {entries : Layer}
    (readable : userLayer host = .ok entries) (failed : changedSettings host s b = .error failure) : failure.code ≠ 0 := by
  unfold changedSettings at failed
  rw [readable] at failed
  dsimp only at failed
  cases read : Settings.ofEntries (Table.put s.key (.bool b) entries) with
  | error issues =>
    rw [read] at failed
    cases failed
    exact exitCode_ne_zero .configuration
  | ok settings =>
    rw [read] at failed
    cases failed

/-- What setting a key comes to: nothing has changed, or the file holds the settings with that key changed. -/
theorem runSet_cases (key value : Text) {entries : Layer} (readable : userLayer host = .ok entries) :
    let outcome := runSet output key value host
    (outcome.1.exitCode ≠ 0 ∧ userContent outcome.2 = userContent host) ∨
      ∃ s b settings, Setting.ofKey? key = some s ∧ readTruth? value = some b ∧
        Settings.ofEntries (Table.put s.key (.bool b) entries) = .ok settings ∧
          outcome.1.exitCode = 0 ∧ userContent outcome.2 = some (fileText settings).octets := by
  unfold runSet
  dsimp only
  split
  · exact .inl ⟨exitCode_ne_zero .usage, rfl⟩
  · next s known =>
    split
    · exact .inl ⟨exitCode_ne_zero .usage, rfl⟩
    · next b truth =>
      split
      · next failure failed => exact .inl ⟨code_of_changedSettings readable failed, rfl⟩
      · next settings changed =>
        rcases saveThenTell_cases output {} settings _ readable with ⟨done, saved⟩ | ⟨failed, kept⟩
        · exact .inr ⟨s, b, settings, known, truth, changedSettings_eq_ok readable changed, done, saved⟩
        · exact .inl ⟨failed, kept⟩

/-- What a reset comes to: it failed or was declined and nothing has changed, or the file holds the defaults. -/
theorem runReset_cases (force : Bool) (input : Text) {entries : Layer} (readable : userLayer host = .ok entries) :
    let outcome := runReset output force input host
    let declined := force = false ∧ (confirm resetQuestion (inputLines input)).1 = .no
    ((outcome.1.exitCode ≠ 0 ∨ declined) ∧ userContent outcome.2 = userContent host) ∨
      (¬declined ∧ outcome.1.exitCode = 0 ∧ userContent outcome.2 = some (fileText {}).octets) := by
  unfold runReset
  dsimp only
  generalize answered : (if force = true then (Reply.yes, ({} : Written)) else confirm resetQuestion (inputLines input)) = reply
  obtain ⟨reply, before⟩ := reply
  cases reply with
  | givenUp => exact .inl ⟨.inl Int.one_ne_zero, rfl⟩
  | no =>
    cases force with
    | true => cases answered
    | false => exact .inl ⟨.inr ⟨rfl, congrArg Prod.fst answered⟩, rfl⟩
  | yes =>
    have agreed : ¬(force = false ∧ (confirm resetQuestion (inputLines input)).1 = .no) := by
      rintro ⟨rfl, no⟩
      have same : Reply.yes = Reply.no := (congrArg Prod.fst answered).symm.trans no
      cases same
    rcases saveThenTell_cases output before {} (fun p => List.flatten ["Reset ", p.text, " to defaults."])
      readable with ⟨done, saved⟩ | ⟨failed, kept⟩
    · exact .inr ⟨agreed, done, saved⟩
    · exact .inl ⟨.inl failed, kept⟩

end Commands

namespace Invocation

/-- What a process comes to that does not show the settings: it leaves the user file, having failed, been declined or had
nothing to do with it, or it was asked for a change and made it. -/
inductive Effect (i : Invocation) : Prop
  | kept (reason : i.exitCode ≠ 0 ∨ i.isDeclined = true ∨
        ∀ c, i.command? = some c → (∀ key value, c ≠ .set key value) ∧ ∀ force, c ≠ .reset force)
      (same : i.after = i.before)
  | set (key value : Text) (s : Setting) (b : Bool) (entries : Layer) (settings : Settings)
      (asked : i.command? = some (.set key value)) (known : Setting.ofKey? key = some s) (truth : readTruth? value = some b)
      (done : i.exitCode = 0) (readable : layer? i.before = some entries)
      (accepted : Settings.ofEntries (Table.put s.key (.bool b) entries) = .ok settings)
      (written : i.after = some (fileText settings).octets)
  | reset (force : Bool) (asked : i.command? = some (.reset force)) (agreed : i.isDeclined = false)
      (done : i.exitCode = 0) (written : i.after = some (fileText {}).octets)

theorem isDeclined_of_reset {i : Invocation} {force : Bool} (asked : i.command? = some (.reset force)) :
    i.isDeclined = true ↔ force = false ∧ (confirm resetQuestion (inputLines i.input)).1 = .no := by
  simp [isDeclined, asked]

theorem after_eq_before {i : Invocation} (left : i.outcome.2 = i.host) : i.after = i.before := congrArg userContent left

/-- The effect of a command, once the settings in effect are found. -/
theorem effect_of_command {i : Invocation} {output : Output} {settings : Settings} {entries : Layer} {c : Command}
    (asked : i.command? = some c) (noShow : c ≠ .showSettings) (readable : userLayer i.host = .ok entries)
    (ran : i.outcome = c.run output settings i.input i.host) : i.Effect := by
  have other (reading : (∀ key value, c ≠ .set key value) ∧ ∀ force, c ≠ .reset force) (left : i.outcome.2 = i.host) :
      i.Effect := by
    refine .kept (.inr (.inr fun c' asked' => ?_)) (after_eq_before left)
    cases asked.symm.trans asked'
    exact reading
  cases c with
  | resolve template parameters base => exact other (by simp) (congrArg Prod.snd ran)
  | inspect template => exact other (by simp) (congrArg Prod.snd ran)
  | showSettings => exact absurd rfl noShow
  | set key value =>
    have cases := runSet_cases output key value readable
    dsimp only at cases
    rw [show runSet output key value i.host = i.outcome from ran.symm] at cases
    rcases cases with ⟨failed, kept⟩ | ⟨s, b, new, known, truth, accepted, done, written⟩
    · exact .kept (.inl failed) kept
    · exact .set key value s b entries new asked known truth done (layer?_of_userLayer readable).1 accepted written
  | reset force =>
    have cases := runReset_cases output force i.input readable
    dsimp only at cases
    rw [show runReset output force i.input i.host = i.outcome from ran.symm, ← isDeclined_of_reset asked] at cases
    rcases cases with ⟨reason, kept⟩ | ⟨agreed, done, written⟩
    · exact .kept (reason.imp_right .inl) kept
    · exact .reset force asked (by simpa using agreed) done written

theorem effect (i : Invocation) (noShow : i.command? ≠ some .showSettings) : i.Effect := by
  cases i.course with
  | idle none left =>
    refine .kept (.inr (.inr fun c asked => ?_)) (after_eq_before left)
    cases none.symm.trans asked
  | unsettled code left => exact .kept (.inl (by rw [code]; exact Int.one_ne_zero)) (after_eq_before left)
  | ran c globals settings asked found same =>
    obtain ⟨entries, _, _, readable, _⟩ := exists_layers_of_effective found
    refine effect_of_command asked ?_ readable same
    rintro rfl
    exact noShow asked

/-- What a process made of the layer of the user file, as the changes tell. -/
theorem layer?_after {i : Invocation} (effect : i.Effect) :
    layer? i.after = i.change?.elim (layer? i.before) (Change.apply (layer? i.before)) := by
  cases effect with
  | kept reason same =>
    have none : i.change? = none := by
      unfold change?
      split
      · rfl
      · next succeeded =>
        rcases reason with failed | declined | other
        · simp [failed] at succeeded
        · simp [declined] at succeeded
        · split
          · next key value asked => exact absurd rfl ((other _ asked).1 key value)
          · next force asked => exact absurd rfl ((other _ asked).2 force)
          · rfl
    rw [none, same]
    rfl
  | set key value s b entries settings asked known truth done readable accepted written =>
    have made : i.change? = some (.set s b) := by
      simp [change?, isDeclined, asked, done, known, truth]
    obtain ⟨_, rfl⟩ := Settings.ofEntries_eq_ok_iff.mp accepted
    rw [made, written, readable, layer?_of_holdsSettings (holdsSettings_fileText _)]
    simp only [Option.elim, Change.apply, Option.map_some, funext (Settings.valueOf_put entries s · b)]
  | reset force asked agreed done written =>
    have made : i.change? = some .reset := by simp [change?, agreed, asked, done]
    rw [made, written, layer?_of_holdsSettings (holdsSettings_fileText _)]
    rfl

/-- Setting a key keeps the other settings of the entries, which are all in order. -/
theorem keeps_of_ofEntries {entries : Layer} {s : Setting} {b : Bool} {settings : Settings}
    (accepted : Settings.ofEntries (Table.put s.key (.bool b) entries) = .ok settings) :
    settings.get s = b ∧ ∀ t, t ≠ s → settings.Keeps entries t := by
  obtain ⟨clean, rfl⟩ := Settings.ofEntries_eq_ok_iff.mp accepted
  simp only [Settings.Keeps, Settings.get_ofValues, Settings.valueOf_put]
  refine ⟨if_pos trivial, fun t other => ?_⟩
  rw [if_neg other]
  constructor
  · intro value given
    have apart : t.key ≠ s.key := fun equal => other (Setting.key_injective equal)
    have put : Table.get? t.key (Table.put s.key (.bool b) entries) = some value :=
      (Table.get?_put_of_ne apart _ _).trans given
    obtain ⟨c, read⟩ := (Settings.issues_eq_nil_iff.mp clean).1 t value put
    rw [Settings.valueOf_of_some given read, read]
  · exact Settings.valueOf_of_none

end Invocation

/-- Processes one after another. Whatever changes between two of them, the second finds the user file that the first
left. -/
inductive Runs : Option (List UInt8) → List Invocation → Option (List UInt8) → Prop
  | nil (content : Option (List UInt8)) : Runs content [] content
  | cons {first last : Option (List UInt8)} {i : Invocation} {rest : List Invocation} (found : i.before = first)
      (later : Runs i.after rest last) : Runs first (i :: rest) last

theorem layer?_of_runs {first last : Option (List UInt8)} {invocations : List Invocation}
    (runs : Runs first invocations last) (effects : ∀ i ∈ invocations, i.Effect) :
    layer? last = (invocations.filterMap Invocation.change?).foldl Change.apply (layer? first) := by
  induction runs with
  | nil content => rfl
  | @cons _ _ i _ found later ih =>
    have own := Invocation.layer?_after (effects i List.mem_cons_self)
    rw [ih fun j inside => effects j (List.mem_cons_of_mem i inside), own, found, List.filterMap_cons]
    cases i.change? <;> rfl

/-- The user file under any number of processes that do not show the settings. One that fails or is declined leaves the
file as it was; setting a key writes all settings, that one as given and the others as the file had them; a reset
writes the defaults. So the layer of the file in the end is what the changes make of the layer at the beginning. -/
theorem runs_userFile {first last : Option (List UInt8)} {invocations : List Invocation}
    (runs : Runs first invocations last) (noShow : ∀ i ∈ invocations, i.command? ≠ some .showSettings) :
    (∀ i ∈ invocations,
      (i.exitCode ≠ 0 ∨ i.isDeclined = true → i.after = i.before) ∧
      (∀ key value, i.command? = some (.set key value) → i.exitCode = 0 →
        ∃ s b entries settings, Setting.ofKey? key = some s ∧ readTruth? value = some b ∧
          layer? i.before = some entries ∧ HoldsSettings i.after settings ∧ settings.get s = b ∧
            ∀ t, t ≠ s → settings.Keeps entries t) ∧
      (∀ force, i.command? = some (.reset force) → i.exitCode = 0 → i.isDeclined = false → HoldsSettings i.after {})) ∧
    layer? last = (invocations.filterMap Invocation.change?).foldl Change.apply (layer? first) := by
  have effects (i : Invocation) (inside : i ∈ invocations) : i.Effect := i.effect (noShow i inside)
  refine ⟨fun i inside => ?_, layer?_of_runs runs effects⟩
  cases effects i inside with
  | kept reason same =>
    refine ⟨fun _ => same, fun key value asked done => ?_, fun force asked done agreed => ?_⟩
    · rcases reason with failed | declined | other
      · exact absurd done failed
      · simp [Invocation.isDeclined, asked] at declined
      · exact absurd rfl ((other _ asked).1 key value)
    · rcases reason with failed | declined | other
      · exact absurd done failed
      · exact absurd declined (by simp [agreed])
      · exact absurd rfl ((other _ asked).2 force)
  | set key value s b entries settings asked known truth done readable accepted written =>
    refine ⟨fun reason => ?_, fun key' value' asked' _ => ?_, fun force asked' _ _ => ?_⟩
    · simp [Invocation.isDeclined, asked, done] at reason
    · cases asked.symm.trans asked'
      obtain ⟨changed, others⟩ := Invocation.keeps_of_ofEntries accepted
      exact ⟨s, b, entries, settings, known, truth, readable, written ▸ holdsSettings_fileText settings, changed, others⟩
    · cases asked.symm.trans asked'
  | reset force asked agreed done written =>
    refine ⟨fun reason => ?_, fun key value asked' _ => ?_, fun _ _ _ _ => ?_⟩
    · simp [agreed, done] at reason
    · cases asked.symm.trans asked'
    · exact written ▸ holdsSettings_fileText {}

/-- A setting is written where there was no file, a reset fails on the environment it finds, another is declined, and
then another setting is written. -/
theorem runs_userFile_four_processes :
    let environment : Environment := [("XDG_CONFIG_HOME", "/c")]
    let bad : Environment := ("HTTPBUTLER_STRICT_TEMPLATES", "maybe") :: environment
    let first : Invocation :=
      { host := { files := ⟨[(["c"], .directory)]⟩, environment }
        arguments := ["config", "set", "strict_templates", "Yes"] }
    let second : Invocation :=
      { host := { first.outcome.2 with environment := bad }, arguments := ["-q", "config", "reset", "--force"] }
    let third : Invocation :=
      { host := { second.outcome.2 with environment }, arguments := ["config", "reset"], input := "what\nn\n" }
    let fourth : Invocation :=
      { host := third.outcome.2, arguments := ["config", "set", "append_unconsumed", "0"] }
    let all := [first, second, third, fourth]
    Runs none all fourth.after ∧ (∀ i ∈ all, i.command? ≠ some .showSettings) ∧
      all.map Invocation.exitCode = [0, 1, 0, 0] ∧ second.after = second.before ∧ third.after = third.before ∧
      layer? fourth.after = some (Settings.entries ⟨true, false, true⟩) := by
  intro environment bad first second third fourth all
  have runs : Runs none all fourth.after := by
    refine .cons ?_ (.cons ?_ (.cons ?_ (.cons ?_ (.nil _))))
    all_goals decide +kernel +zetaReduce
  have noShow : ∀ i ∈ all, i.command? ≠ some .showSettings := by decide +kernel +zetaReduce
  have codes : all.map Invocation.exitCode = [0, 1, 0, 0] := by decide +kernel +zetaReduce
  have declined : third.isDeclined = true := by decide +kernel +zetaReduce
  have changes : all.filterMap Invocation.change? = [.set .strictTemplates true, .set .appendUnconsumed false] := by
    decide +kernel +zetaReduce
  obtain ⟨each, whole⟩ := runs_userFile runs noShow
  have code : second.exitCode = 1 := (List.cons.inj (List.cons.inj codes).2).1
  have failed : second.exitCode ≠ 0 := by rw [code]; decide
  refine ⟨runs, noShow, codes, (each second (by simp [all])).1 (.inl failed),
    (each third (by simp [all])).1 (.inr declined), ?_⟩
  rw [whole, changes]
  rfl

end CommandLine

end RouteTemplate
