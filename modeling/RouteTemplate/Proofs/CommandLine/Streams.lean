import RouteTemplate.Proofs.CommandLine.UserFile

/-!
Which stream a command writes to. A command that fails writes no data and tells why on the second stream; one that
succeeds writes the route, the placeholders or the settings on the first stream and nothing else, and none of these if it
changes settings. A reset that is not forced is the exception: its questions go to the first stream, however it ends.
-/

set_option autoImplicit false

namespace RouteTemplate.CommandLine

open RouteTemplate.Configuration

/-- What a command writes as data when it succeeds: the route, the placeholders of the template, or the settings, each as
text or as a document. Commands that change settings write none. -/
inductive Command.Data (output : Output) (settings : Settings) : Command → Text → Prop
  | route {template : Text} {entries : List Text} {base : Option Text} {parameters : List (Text × Text)} {uri : Text}
      (read : readPairs entries = .ok parameters)
      (resolved : (resolveText settings template parameters base).result = .ok uri) (printed : output.format ≠ .json) :
      Data output settings (.resolve template entries base) (uri ++ Text.ofString "\n")
  | routeDocument {template : Text} {entries : List Text} {base : Option Text} {parameters : List (Text × Text)}
      {uri : Text} (read : readPairs entries = .ok parameters)
      (resolved : (resolveText settings template parameters base).result = .ok uri) (document : output.format = .json) :
      Data output settings (.resolve template entries base)
        ((resolutionDocument template parameters uri).write ++ Text.ofString "\n")
  | placeholders (template : Text) (printed : output.format ≠ .json) :
      Data output settings (.inspect template)
        (output.printTable ["Name", "Kind", "Offset"] (placeholderRows (Template.parse template)) (some template)).data
  | templateDocument (template : Text) (document : output.format = .json) :
      Data output settings (.inspect template)
        ((CommandLine.templateDocument (Template.parse template)).write ++ Text.ofString "\n")
  | settings : Data output settings .showSettings (output.printDocument settings.document).data
  | set (key value : Text) : Data output settings (.set key value) []
  | reset (force : Bool) : Data output settings (.reset force) []

/-- The program told why it fails and wrote no data, or it succeeded and wrote data of a kind. -/
inductive Ending.Splits (output : Output) (kind : Text → Prop) : Ending → Prop
  | failed (before : Written) (failure : Failure) (silent : before.data = []) (code : failure.code ≠ 0) :
      Splits output kind (.failed output before failure)
  | succeeded (written : Written) (own : kind written.data) : Splits output kind (.done 0 written)

theorem Ending.Splits.imp {output : Output} {kind other : Text → Prop} {ending : Ending}
    (splits : ending.Splits output kind) (weaker : ∀ data, kind data → other data) : ending.Splits output other := by
  cases splits with
  | failed before failure silent code => exact .failed before failure silent code
  | succeeded written own => exact .succeeded written (weaker _ own)

theorem Ending.Splits.exists_written {output : Output} {kind : Text → Prop} {ending : Ending}
    (splits : ending.Splits output kind) :
    ∃ code written, ending = .done code written ∧
      (code ≠ 0 → written.data = [] ∧
        ∃ told message, written.diagnostics = told ++ (output.tell .error message).diagnostics) ∧
      (code = 0 → kind written.data) := by
  cases splits with
  | failed before failure silent code =>
    refine ⟨failure.code, _, rfl, fun _ => ⟨?_, before.diagnostics, failure.message, rfl⟩, fun done => absurd done code⟩
    rw [data_append, silent, Output.tell_data]
    rfl
  | succeeded written own => exact ⟨0, written, rfl, fun failed => absurd rfl failed, fun _ => own⟩

section Data

variable (output : Output)

theorem printData_data (t : Text) : (output.printData t).data = t ++ Text.ofString "\n" := List.append_nil _

theorem printDocument_data (document : Json) (format : output.format = .json) :
    (output.printDocument document).data = document.write ++ Text.ofString "\n" := by
  unfold Output.printDocument
  rw [format]
  exact printData_data output document.write

end Data

section Commands

variable (output : Output) (settings : Settings)

theorem code_ofRouteUrlError (e : RouteUrlError) : (Failure.ofRouteUrlError e).code ≠ 0 := by
  unfold Failure.ofRouteUrlError
  split
  · next e =>
    split
    · next report known =>
      unfold Report.ofResolveError? at known
      split at known
      · cases known
        exact exitCode_ne_zero .missing
      · cases known
        exact exitCode_ne_zero .malformed
      · cases known
    · exact code_unexpected _
  · exact code_unexpected _

theorem runResolve_splits (template : Text) (entries : List Text) (base : Option Text) :
    (runResolve output settings template entries base).Splits output
      (Command.Data output settings (.resolve template entries base)) := by
  unfold runResolve
  cases read : readPairs entries with
  | error e => exact .failed {} _ rfl (exitCode_ne_zero .usage)
  | ok parameters =>
    have silent := tellTraces_data output (resolveText settings template parameters base).traces
    dsimp only
    cases resolved : (resolveText settings template parameters base).result with
    | error e => exact .failed _ _ silent (code_ofRouteUrlError e)
    | ok uri =>
      refine .succeeded _ ?_
      rw [data_append, silent, List.nil_append]
      split
      · next document =>
        rw [printDocument_data output _ document]
        exact .routeDocument read resolved document
      · next printed =>
        rw [printData_data]
        exact .route read resolved printed

theorem tellUnterminated_data (template : Text) (t : Template) : (tellUnterminated output template t).data = [] := by
  unfold tellUnterminated
  split
  · exact Output.tell_data _ _ _
  · rfl

theorem runInspect_splits (template : Text) :
    (runInspect output settings template).Splits output (Command.Data output settings (.inspect template)) := by
  have parsed : ({} : TemplateCache).getOrParse template =
      (Template.parse template, ⟨[(template, Template.parse template)]⟩,
        [.parsed template (Template.parse template).placeholders.length]) := rfl
  have silent := tellTraces_data output [.parsed template (Template.parse template).placeholders.length]
  unfold runInspect
  rw [parsed]
  dsimp only
  cases refused settings template (Template.parse template) with
  | some e => exact .failed _ _ silent (code_ofRouteUrlError _)
  | none =>
    dsimp only
    split
    · next document =>
      refine .succeeded _ ?_
      rw [data_append, data_append, silent, tellUnterminated_data, printDocument_data output _ document]
      exact .templateDocument template document
    · next printed =>
      refine .succeeded _ ?_
      rw [data_append, data_append, data_append, silent, tellUnterminated_data, Output.tell_data, List.append_nil]
      exact .placeholders template printed

theorem runShowSettings_splits (host : Host) :
    (runShowSettings output settings host).1.Splits output (Command.Data output settings .showSettings) := by
  unfold runShowSettings
  split
  · exact .failed {} _ rfl (code_unexpected _)
  · refine .succeeded _ ?_
    rw [data_append, Output.tell_data, List.nil_append]
    exact .settings

theorem saveThenTell_splits (message : Path → Text) (host : Host) :
    (saveThenTell output {} settings message host).1.Splits output (· = []) := by
  unfold saveThenTell
  split
  · exact .failed {} _ rfl (code_unexpected _)
  · refine .succeeded _ ?_
    rw [data_append, Output.tell_data]
    rfl

theorem runSet_splits (key value : Text) {host : Host} {entries : Layer} (readable : userLayer host = .ok entries) :
    (runSet output key value host).1.Splits output (· = []) := by
  unfold runSet
  split
  · exact .failed {} _ rfl (exitCode_ne_zero .usage)
  · split
    · exact .failed {} _ rfl (exitCode_ne_zero .usage)
    · split
      · next failure failed => exact .failed {} _ rfl (code_of_changedSettings readable failed)
      · exact saveThenTell_splits output _ _ host

/-- Whatever comes of a reset that asks, its questions are what it writes as data. -/
theorem runReset_shows (input : Text) (host : Host) :
    ∃ code, (runReset output false input host).1.Shows code (confirm resetQuestion (inputLines input)).2.data := by
  unfold runReset
  rw [if_neg Bool.false_ne_true]
  generalize confirm resetQuestion (inputLines input) = answered
  obtain ⟨_ | _ | _, before⟩ := answered
  · dsimp only
    unfold saveThenTell
    split
    · exact ⟨_, told_shows output _ before .error _⟩
    · exact ⟨_, told_shows output 0 before .info _⟩
  · exact ⟨_, told_shows output 0 before .info _⟩
  · exact ⟨_, _, rfl, List.append_nil _⟩

/-- Unless it asks before a reset, a command either fails and tells why, or writes its own data. -/
theorem run_command_splits {c : Command} (answered : c ≠ .reset false) (input : Text) {host : Host} {entries : Layer}
    (readable : userLayer host = .ok entries) :
    (c.run output settings input host).1.Splits output (c.Data output settings) := by
  cases c with
  | resolve template entries base => exact runResolve_splits output settings template entries base
  | inspect template => exact runInspect_splits output settings template
  | showSettings => exact runShowSettings_splits output settings host
  | set key value =>
    refine (runSet_splits output key value readable).imp fun data none => ?_
    rw [none]
    exact .set key value
  | reset force =>
    cases force with
    | false => exact absurd rfl answered
    | true =>
      refine (saveThenTell_splits output {} _ host).imp fun data none => ?_
      rw [none]
      exact .reset true

end Commands

section Processes

variable {i : Invocation} {globals : Globals}

/-- A process that is not to ask before a reset either fails and tells why, or writes the data of its command. -/
theorem outcome_splits {c : Command} (asked : Request.read i.arguments = .start globals (.command c))
    (answered : c ≠ .reset false) :
    let output := outputOf i.host i.interactive globals.outputOptions
    i.outcome.1.Splits output fun data =>
      ∃ settings, effective i.host globals.layer none = .ok settings ∧ c.Data output settings data := by
  intro output
  cases found : effective i.host globals.layer none with
  | error e =>
    rw [Invocation.outcome_of_error asked found]
    refine .failed {} _ rfl ?_
    rw [code_of_configurationError]
    exact Int.one_ne_zero
  | ok settings =>
    obtain ⟨entries, _, _, readable, _⟩ := exists_layers_of_effective found
    rw [Invocation.outcome_of_command asked found]
    exact (run_command_splits output settings answered i.input readable).imp fun data own => ⟨settings, rfl, own⟩

/-- A process that is to ask before a reset writes its questions as data, once it has found settings. -/
theorem outcome_shows_questions (asked : Request.read i.arguments = .start globals (.command (.reset false))) :
    ∃ code, i.outcome.1.Shows code ((effective i.host globals.layer none).toOption.elim [] fun _ =>
      (confirm resetQuestion (inputLines i.input)).2.data) := by
  cases found : effective i.host globals.layer none with
  | error e =>
    rw [Invocation.outcome_of_error asked found]
    exact ⟨_, failed_shows _ rfl _⟩
  | ok settings =>
    rw [Invocation.outcome_of_command asked found]
    exact runReset_shows _ i.input i.host

end Processes

/-- A command that was asked for ends with an exit code. If that is not 0, no data was written, and why it failed is told
at the end of the diagnostics; if it is 0, the data is that of the command and nothing else. Only a reset that asks goes
another way: once settings are found, its questions are its data. -/
theorem run_splits_streams (host : Host) (interactive : Bool) (arguments : List Text) (input : Text) {globals : Globals}
    {c : Command} (asked : Request.read arguments = .start globals (.command c)) :
    let output := outputOf host interactive globals.outputOptions
    let found := effective host globals.layer none
    ∃ code written, (run host interactive arguments input).1 = .done code written ∧
      (c ≠ .reset false →
        (code ≠ 0 → written.data = [] ∧
          ∃ told message, written.diagnostics = told ++ (output.tell .error message).diagnostics) ∧
        (code = 0 → ∃ settings, found = .ok settings ∧ c.Data output settings written.data)) ∧
      (c = .reset false →
        written.data = found.toOption.elim [] fun _ => (confirm resetQuestion (inputLines input)).2.data) := by
  intro output found
  let i : Invocation := { host, interactive, arguments, input }
  by_cases unanswered : c = .reset false
  · subst unanswered
    obtain ⟨code, written, same, data⟩ := outcome_shows_questions (i := i) asked
    exact ⟨code, written, same, fun answered => absurd rfl answered, fun _ => data⟩
  · obtain ⟨code, written, same, failed, done⟩ := (outcome_splits (i := i) asked unanswered).exists_written
    exact ⟨code, written, same, fun _ => ⟨failed, done⟩, fun asks => absurd asks unanswered⟩

/-- A value that is no truth value, and a template as a document with traces on the second stream. -/
theorem run_splits_streams_document :
    let host : Host := { environment := [("XDG_CONFIG_HOME", "/c"), ("TERM", "dumb")] }
    let failing : List Text := ["config", "set", "strict_templates", "maybe"]
    let arguments : List Text := ["--json", "-v", "resolve", "/\x7bid\x7d", "-p", "id=a b"]
    let c : Command := .resolve "/\x7bid\x7d" ["id=a b"] none
    let globals : Globals := { json := true, verbose := true }
    Request.read failing = .start {} (.command (.set "strict_templates" "maybe")) ∧
      Request.read arguments = .start globals (.command c) ∧
      (∃ written, (run host false failing []).1 = .done 2 written ∧ written.data = []) ∧
      ∃ written, (run host false arguments []).1 = .done 0 written ∧
        c.Data (outputOf host false globals.outputOptions) {} written.data := by
  intro host failing arguments c globals
  have refused : Request.read failing = .start {} (.command (.set "strict_templates" "maybe")) := by rfl
  have asked : Request.read arguments = .start globals (.command c) := by rfl
  have codes : (run host false failing []).1.exitCode = 2 ∧ (run host false arguments []).1.exitCode = 0 := by
    decide +kernel +zetaReduce
  have found : effective host globals.layer none = .ok {} := by rfl
  obtain ⟨code, written, same, silent, _⟩ := run_splits_streams host false failing [] refused
  obtain ⟨code', written', same', split, _⟩ := run_splits_streams host false arguments [] asked
  rw [same, same'] at codes
  obtain ⟨rfl, rfl⟩ : code = 2 ∧ code' = 0 := codes
  obtain ⟨settings, own, data⟩ := (split (by decide +zetaReduce)).2 rfl
  cases found.symm.trans own
  exact ⟨refused, asked, ⟨written, same, ((silent (by decide)).1 (by decide)).1⟩, written', same', data⟩

/-- The question before a reset is data, whether it is declined or given up. -/
theorem run_splits_streams_question :
    let host : Host := { environment := [("XDG_CONFIG_HOME", "/c"), ("TERM", "dumb")] }
    (run host false ["config", "reset"] "n\n").1 = .done 0 ⟨resetQuestion, "Cancelled.\n"⟩ ∧
      (run host false ["config", "reset"] []).1 = .done 1 ⟨resetQuestion, "Aborted.\n"⟩ := by
  decide +kernel +zetaReduce

end RouteTemplate.CommandLine
