import RouteTemplate.Proofs.CommandLine.Invocation
import RouteTemplate.Proofs.Route.Failure
import RouteTemplate.Proofs.Table
import RouteTemplate.Proofs.Cache.Transparency
import RouteTemplate.Resolver

set_option autoImplicit false

namespace RouteTemplate.CommandLine

/-- Arguments that ask for a template to be resolved with entries, whatever the template and the entries look like. -/
def resolveArguments (template : Text) (entries : List Text) : List Text :=
  Text.ofString "resolve" :: ((entries.flatMap fun entry => [Text.ofString "-p", entry]) ++ [Text.ofString "--", template])

theorem scan_entries (template : Text) (entries : List Text) :
    resolveSwitches.scan true none
        ((entries.flatMap fun entry => [Text.ofString "-p", entry]) ++ [Text.ofString "--", template]) =
      some (entries.map .parameter, [template]) := by
  induction entries with
  | nil => rfl
  | cons entry entries ih =>
    -- The letter is an option whose value is the next argument.
    have step (rest : List Text) :
        resolveSwitches.scan true none (Text.ofString "-p" :: entry :: rest) =
          (resolveSwitches.scan true none rest).map fun (options, others) => (.parameter entry :: options, others) := by
      change ((resolveSwitches.scan true none rest).map _).map _ = _
      rw [Option.map_map]
      rfl
    rw [List.flatMap_cons, List.append_assoc, List.cons_append, List.cons_append, List.nil_append, step, ih]
    rfl

theorem parameters_map_parameter (entries : List Text) :
    Asked.parameters (entries.map ResolveOption.parameter) = entries := by
  induction entries with
  | nil => rfl
  | cons entry entries ih =>
    rw [Asked.parameters, List.map_cons, List.filterMap_cons]
    exact congrArg (entry :: ·) ih

theorem base?_map_parameter (entries : List Text) : Asked.base? (entries.map ResolveOption.parameter) = none := by
  rw [Asked.base?, List.filterMap_map, List.filterMap_eq_nil_iff.mpr]
  · rfl
  · exact fun _ _ => rfl

/-- Every template can be asked for with all entries. -/
theorem read_resolveArguments (template : Text) (entries : List Text) :
    Request.read (resolveArguments template entries) = .start {} (.command (.resolve template entries none)) := by
  have asked : Asked.resolve ((entries.flatMap fun entry => [Text.ofString "-p", entry]) ++
      [Text.ofString "--", template]) = .command (.resolve template entries none) := by
    rw [Asked.resolve, Asked.ofCommand, Switches.read, scan_entries]
    have noHelp : ResolveOption.help ∉ entries.map ResolveOption.parameter := by simp
    dsimp only
    rw [if_neg noHelp, parameters_map_parameter, base?_map_parameter]
  exact congrArg (Request.start {}) asked

theorem isPlain_of_readPair {entry name value : Text} (plain : entry.IsPlain) (read : readPair entry = .ok (name, value)) :
    name.IsPlain ∧ value.IsPlain := by
  unfold readPair at read
  split at read
  · next first rest right cut =>
    cases read
    obtain ⟨whole, _⟩ := Text.splitFirst_append cut
    subst whole
    exact ⟨fun c inside => plain c (List.mem_append_left _ inside),
      fun c inside => plain c (List.mem_append_right _ (List.mem_cons_of_mem _ inside))⟩
  · cases read

/-- The parameters are made of what the entries hold, so they have surrogates only where these do. -/
theorem isPlain_of_readPairs {entries : List Text} {parameters : List (Text × Text)}
    (plain : ∀ entry ∈ entries, entry.IsPlain) (read : readPairs entries = .ok parameters) :
    ∀ parameter ∈ parameters, parameter.1.IsPlain ∧ parameter.2.IsPlain := by
  obtain ⟨pairs, cut, rfl⟩ := map_eq_ok.mp read
  intro parameter inside
  obtain ⟨entry, given, own⟩ := exists_of_mem_mapM cut (Table.mem_of_mem_ofList inside)
  exact isPlain_of_readPair (plain entry given) own

theorem isPlainEntry_of_parameters {parameters : List (Text × Text)}
    (plain : ∀ parameter ∈ parameters, parameter.1.IsPlain ∧ parameter.2.IsPlain) :
    ∀ entry ∈ Value.entriesOf (parameters.map fun (name, value) => (.text name, .text value)), IsPlainEntry entry := by
  apply isPlainEntry_of_mem_entriesOf
  intro pair inside
  obtain ⟨⟨name, value⟩, given, rfl⟩ := List.mem_map.mp inside
  exact ⟨name, value, rfl, plain (name, value) given⟩

/-- A failed resolution of parameters is one that is reported. -/
theorem report_of_resolveCached {settings : Settings} {template : Text} {parameters : List (Text × Text)}
    (plain : ∀ parameter ∈ parameters, parameter.1.IsPlain ∧ parameter.2.IsPlain) {e : ResolveError}
    (failed : (resolveCached settings {} template (some (bagOf parameters))).result = .error e) :
    ∃ report, Report.ofResolveError? e = some report := by
  have entries := isPlainEntry_of_parameters plain
  have regular : ∀ bag ∈ some (bagOf parameters), bag.Regular := by
    intro bag own
    cases own
    exact regular_of_plain entries
  rw [resolveCached_result settings Caches.empty_sound template regular] at failed
  rcases resolve_error_of_plain entries failed with ⟨name, _, rfl⟩ | ⟨offset, rfl⟩
  · exact ⟨_, rfl⟩
  · exact ⟨_, rfl⟩

theorem format_outputOf_ne_json (host : Host) (interactive : Bool) {globals : Globals} (data : globals.json = false) :
    (outputOf host interactive globals.outputOptions).format ≠ .json := by
  unfold outputOf Output.ofOptions Globals.outputOptions
  dsimp only
  rw [data, if_neg Bool.false_ne_true]
  cases globals.plain with
  | true =>
    rw [if_pos rfl, Option.getD_some]
    decide
  | false =>
    rw [if_neg Bool.false_ne_true, Option.getD_none]
    split <;> decide

/-- The call that resolves, on a resolver that a process makes for itself. -/
theorem call_resolve {host : Host} {settings : Settings} (found : Configuration.effective host [] none = .ok settings)
    (template : Text) (bag : Bag) :
    (Resolver.call host none (.resolve template (some bag))).1 =
      ((((resolveCached settings {} template (some bag)).result.map Answer.route).mapError .route).mapError .route) := by
  unfold Resolver.call Resolver.obtain
  rw [found]
  rfl

section Run

variable (output : Output) {settings : Settings} {template : Text} {entries : List Text}

theorem runResolve_of_badPair {e : BadPair} (read : readPairs entries = .error e) :
    (runResolve output settings template entries none).Shows 2 [] := by
  unfold runResolve
  rw [read]
  exact failed_shows output rfl _

variable {parameters : List (Text × Text)} (read : readPairs entries = .ok parameters)

include read

theorem runResolve_of_text {base : Option Text} (printed : output.format ≠ .json) {uri : Text}
    (resolved : (resolveText settings template parameters base).result = .ok uri) :
    (runResolve output settings template entries base).Shows 0 (uri ++ Text.ofString "\n") := by
  have silent := tellTraces_data output (resolveText settings template parameters base).traces
  unfold runResolve
  rw [read]
  dsimp only
  rw [resolved]
  dsimp only
  rw [if_neg printed]
  refine ⟨_, rfl, ?_⟩
  rw [data_append, silent]
  exact List.append_nil _

theorem runResolve_of_route (printed : output.format ≠ .json) {uri : Text}
    (resolved : (resolveCached settings {} template (some (bagOf parameters))).result = .ok uri) :
    (runResolve output settings template entries none).Shows 0 (uri ++ Text.ofString "\n") := by
  refine runResolve_of_text output read printed ?_
  dsimp only [resolveText]
  rw [resolved]
  rfl

theorem runResolve_of_error {e : ResolveError} {report : Report} (known : Report.ofResolveError? e = some report)
    (resolved : (resolveCached settings {} template (some (bagOf parameters))).result = .error e) :
    (runResolve output settings template entries none).Shows report.exitCode [] := by
  have silent := tellTraces_data output (resolveCached settings {} template (some (bagOf parameters))).traces
  have failure : Failure.ofRouteUrlError (.route e) = .ofReport report := by rw [Failure.ofRouteUrlError, known]
  unfold runResolve
  rw [read]
  dsimp only [resolveText]
  rw [resolved]
  dsimp only [Except.mapError]
  rw [failure]
  exact failed_shows output silent _

end Run

/-- What the program shows for a template and entries is what a call on the resolver of a process gives. Without
settings in effect it ends with 1, with an entry that is no pair it ends with 2, and else it shows the route, or
ends with the exit code of the error that the call reports. Data is written only where there is a route. -/
theorem run_shows_call (host : Host) (arguments : List Text) (input : Text) {globals : Globals} {template : Text}
    {entries : List Text} (asked : Request.read arguments = .start globals (.command (.resolve template entries none)))
    (data : globals.json = false) (unset : globals.strict = none)
    (plain : ∀ t ∈ template :: entries, t.IsPlain) :
    let ending := (run host false arguments input).1
    (∀ e, Configuration.effective host [] none = .error e → ending.Shows 1 []) ∧
      ∀ settings, Configuration.effective host [] none = .ok settings →
        (∀ e, readPairs entries = .error e → ending.Shows 2 []) ∧
        ∀ parameters, readPairs entries = .ok parameters →
          let called := (Resolver.call host none (.resolve template (some (bagOf parameters)))).1
          (∃ uri, called = .ok (.route uri) ∧ ending.Shows 0 (uri ++ Text.ofString "\n")) ∨
            ∃ e report, called = .error (.route (.route e)) ∧ Report.ofResolveError? e = some report ∧
              ending.Shows report.exitCode [] := by
  have layer : globals.layer = [] := by rw [Globals.layer, unset]
  have printed := format_outputOf_ne_json host false data
  dsimp only
  unfold run
  rw [asked]
  dsimp only
  rw [layer]
  refine ⟨fun e failed => ?_, fun settings found => ⟨fun e bad => ?_, fun parameters read => ?_⟩⟩
  · rw [failed]
    exact code_of_configurationError e ▸ failed_shows _ rfl (.ofConfigurationError e)
  · rw [found]
    exact runResolve_of_badPair _ bad
  · rw [call_resolve found, found]
    have own := isPlain_of_readPairs (fun entry inside => plain entry (List.mem_cons_of_mem template inside)) read
    cases resolved : (resolveCached settings {} template (some (bagOf parameters))).result with
    | ok uri => exact .inl ⟨uri, rfl, runResolve_of_route _ read printed resolved⟩
    | error e =>
      obtain ⟨report, known⟩ := report_of_resolveCached own resolved
      exact .inr ⟨e, report, rfl, known, runResolve_of_error _ read known resolved⟩

/-- A value with a space and a parameter that no placeholder takes, in surroundings that ask for strictness. -/
theorem run_shows_call_verbose :
    let host : Host := { environment := [("HTTPBUTLER_STRICT_TEMPLATES", "1")] }
    let arguments : List Text := ["-v", "resolve", "/u/\x7bid\x7d", "-p", "id=a b", "-p", "z=\x7b"]
    let parameters : List (Text × Text) := [("id", "a b"), ("z", "\x7b")]
    Request.read arguments = .start { verbose := true } (.command (.resolve "/u/\x7bid\x7d" ["id=a b", "z=\x7b"] none)) ∧
      (Resolver.call host none (.resolve "/u/\x7bid\x7d" (some (bagOf parameters)))).1 =
        .ok (.route "/u/a%20b?z=%7B") ∧
      (run host false arguments []).1.Shows 0 "/u/a%20b?z=%7B\n" := by
  intro host arguments parameters
  have asked : Request.read arguments =
      .start { verbose := true } (.command (.resolve "/u/\x7bid\x7d" ["id=a b", "z=\x7b"] none)) := by rfl
  have found : Configuration.effective host [] none = .ok { strictTemplates := true } := by rfl
  have read : readPairs [Text.ofString "id=a b", Text.ofString "z=\x7b"] = .ok parameters := by rfl
  have called : (Resolver.call host none (.resolve "/u/\x7bid\x7d" (some (bagOf parameters)))).1 =
      .ok (.route "/u/a%20b?z=%7B") := by
    rw [call_resolve found]
    rfl
  have plain : ∀ t ∈ ([("/u/\x7bid\x7d" : Text), "id=a b", "z=\x7b"] : List Text), t.IsPlain := by
    decide
  rcases ((run_shows_call host arguments [] asked rfl rfl plain).2 _ found).2 _ read with
    ⟨uri, same, shown⟩ | ⟨e, report, other, _, _⟩
  · cases called.symm.trans same
    exact ⟨asked, called, shown⟩
  · cases called.symm.trans other

end RouteTemplate.CommandLine
