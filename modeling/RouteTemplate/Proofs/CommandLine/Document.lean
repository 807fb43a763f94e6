import RouteTemplate.Proofs.CommandLine.Resolve
import RouteTemplate.Proofs.CommandLine.Streams
import RouteTemplate.Proofs.Json.Document
import RouteTemplate.Proofs.Template.Marker

set_option autoImplicit false

namespace RouteTemplate.CommandLine

open RouteTemplate.Configuration
open RouteTemplate.Json (ReadsBack)

section Requests

theorem notice?_ne_start (options : List GlobalOption) (globals : Globals) (asked : Asked) :
    Request.notice? options ≠ some (.start globals asked) := by
  induction options with
  | nil => simp [Request.notice?]
  | cons option options ih => cases option <;> first | exact ih | simp [Request.notice?]

/-- A command is started by options that ask for nothing else, by its name and by what stands behind it. -/
theorem read_eq_start_iff {arguments : List Text} {globals : Globals} {asked : Asked} :
    Request.read arguments = .start globals asked ↔
      ∃ options name others reader, globalSwitches.read false arguments = some (options, name :: others) ∧
        Request.notice? options = none ∧ Table.get? name Asked.readers = some reader ∧
        globals = Globals.ofOptions options ∧ asked = reader others := by
  unfold Request.read
  constructor
  · intro read
    split at read
    · cases read
    · split at read
      · cases read
      · next options rest scanned =>
        split at read
        · next notice noticed =>
          subst read
          exact absurd noticed (notice?_ne_start options globals asked)
        · cases read
        · next name others unnoticed =>
          split at read
          · next reader known =>
            cases read
            exact ⟨options, name, others, reader, scanned, unnoticed, known, rfl, rfl⟩
          · split at read
            · next late _ _ =>
              cases noticed : Request.notice? late with
              | none =>
                rw [noticed] at read
                cases read
              | some notice =>
                rw [noticed] at read
                cases read
                exact absurd noticed (notice?_ne_start late globals asked)
            · cases read
  · rintro ⟨options, name, others, reader, scanned, unnoticed, known, rfl, rfl⟩
    have some : ¬arguments.isEmpty = true := by
      rw [List.isEmpty_iff]
      rintro rfl
      cases scanned
    rw [if_neg some, scanned]
    dsimp only
    rw [unnoticed]
    dsimp only
    rw [known]

theorem foldl_add_json (globals : Globals) (options : List GlobalOption) :
    options.foldl Globals.add { globals with json := true } = { options.foldl Globals.add globals with json := true } := by
  induction options generalizing globals with
  | nil => rfl
  | cons option options ih =>
    have kept : Globals.add { globals with json := true } option = { globals.add option with json := true } := by
      cases option <;> rfl
    rw [List.foldl_cons, kept, ih, List.foldl_cons]

/-- Asking for documents in front of the other arguments asks for nothing else. -/
theorem read_json_cons {bare : List Text} {globals : Globals} {asked : Asked}
    (read : Request.read bare = .start globals asked) :
    Request.read (Text.ofString "--json" :: bare) = .start { globals with json := true } asked := by
  obtain ⟨options, name, others, reader, scanned, unnoticed, known, rfl, rfl⟩ := read_eq_start_iff.mp read
  have first : globalSwitches.read false (Text.ofString "--json" :: bare) =
      (globalSwitches.read false bare).map fun (options, others) => (.json :: options, others) := rfl
  rw [scanned] at first
  exact read_eq_start_iff.mpr
    ⟨.json :: options, name, others, reader, first, unnoticed, known, (foldl_add_json {} options).symm, rfl⟩

end Requests

section Documents

/-- The parameters of entries have different names. -/
theorem nodup_keys_of_readPairs {entries : List Text} {parameters : List (Text × Text)}
    (read : readPairs entries = .ok parameters) : (Table.keys parameters).Nodup := by
  obtain ⟨pairs, _, rfl⟩ := map_eq_ok.mp read
  exact Table.nodup_keys_ofList pairs

theorem offsetDocument_eq (offset? : Option Nat) : offsetDocument offset? = .int (offset?.elim (-1) Int.ofNat) := by
  cases offset? <;> rfl

theorem templateDocument_parse (template : Text) :
    let t := Template.parse template
    templateDocument t = .object [("template", .text template),
      ("query_marker_offset", .int (t.queryMarker?.elim (-1) Int.ofNat)),
      ("placeholders", .array (t.placeholders.map fun p => .object [("name", .text p.name),
        ("kind", .text (kindName p.kind)), ("template_offset", .int p.offset)])),
      ("unterminated_offset", .int (t.unterminated?.elim (-1) Int.ofNat))] := by
  intro t
  rw [templateDocument, offsetDocument_eq, offsetDocument_eq, Template.source_parse]

theorem readsBack_texts {entries : List (Text × Text)} (distinct : (Table.keys entries).Nodup) :
    ReadsBack 1 (.object (entries.map fun (name, value) => (name, .text value))) := by
  refine Json.readsBack_object ?_ fun entry inside => ?_
  · have keys : Table.keys (entries.map fun (name, value) => (name, Json.text value)) = Table.keys entries := List.map_map
    exact keys ▸ distinct
  · obtain ⟨⟨name, value⟩, _, rfl⟩ := List.mem_map.mp inside
    exact Json.readsBack_text value

theorem readsBack_resolutionDocument (template uri : Text) {parameters : List (Text × Text)}
    (distinct : (Table.keys parameters).Nodup) : ReadsBack 2 (resolutionDocument template parameters uri) := by
  have keys : ([("template" : Text), "params", "uri"] : List Text).Nodup := by decide
  refine Json.readsBack_object keys ?_
  simp only [List.forall_mem_cons, List.not_mem_nil, false_imp_iff, implies_true, and_true]
  exact ⟨(Json.readsBack_text template).mono (by decide), readsBack_texts distinct,
    (Json.readsBack_text uri).mono (by decide)⟩

/-- Few digits are not too many. It is told of every exponent first, so that this one is not evaluated. -/
theorem lt_of_oneDigit {n : Nat} (small : n < 10) : n < 10 ^ 4300 := by
  have grows (k : Nat) (some : k ≠ 0) : n < 10 ^ k := Nat.lt_of_lt_of_le small (Nat.le_pow (Nat.pos_of_ne_zero some))
  exact grows 4300 (by decide)

theorem readsBack_offsetDocument {offset? : Option Nat} (small : ∀ offset ∈ offset?, offset < 10 ^ 4300) :
    ReadsBack 0 (offsetDocument offset?) := by
  cases offset? with
  | none =>
    have one : Int.natAbs (-1) < 10 := by decide
    exact Json.readsBack_int (lt_of_oneDigit one)
  | some offset => exact Json.readsBack_int (small offset rfl)

/-- The offsets of a template are numbers with no more digits than a number may have, unless the template has more
characters than such a number can count. -/
theorem readsBack_templateDocument {template : Text} (small : template.length < 10 ^ 4300) :
    ReadsBack 3 (templateDocument (Template.parse template)) := by
  have within {offset : Nat} (below : offset < template.length) : offset < 10 ^ 4300 := Nat.lt_trans below small
  have keys : ([("template" : Text), "query_marker_offset", "placeholders", "unterminated_offset"] : List Text).Nodup := by
    decide
  refine Json.readsBack_object keys ?_
  simp only [List.forall_mem_cons, List.not_mem_nil, false_imp_iff, implies_true, and_true]
  refine ⟨(Json.readsBack_text _).mono (by decide), ?_, Json.readsBack_array ?_, ?_⟩
  · exact (readsBack_offsetDocument fun _ found => within (Template.queryMarker?_lt_length found)).mono (by decide)
  · intro item inside
    obtain ⟨p, found, rfl⟩ := List.mem_map.mp inside
    have keys : ([("name" : Text), "kind", "template_offset"] : List Text).Nodup := by decide
    refine Json.readsBack_object keys ?_
    simp only [List.forall_mem_cons, List.not_mem_nil, false_imp_iff, implies_true, and_true]
    exact ⟨Json.readsBack_text p.name, Json.readsBack_text (kindName p.kind),
      Json.readsBack_int (within (Template.offset_lt_length found))⟩
  · exact (readsBack_offsetDocument fun _ found => within (Template.unterminated?_lt_length found)).mono (by decide)

end Documents

section Commands

variable {output : Output} {settings : Settings} {template data : Text} (document : output.format = .json)

include document

theorem Command.Data.read_resolution {entries : List Text} {base : Option Text}
    (own : Command.Data output settings (.resolve template entries base) data) :
    ∃ parameters uri, readPairs entries = .ok parameters ∧
      (resolveText settings template parameters base).result = .ok uri ∧
      Json.read data = .ok (resolutionDocument template parameters uri) := by
  cases own with
  | route _ _ printed => exact absurd document printed
  | @routeDocument _ _ _ parameters uri read resolved _ =>
    have back := readsBack_resolutionDocument template uri (nodup_keys_of_readPairs read)
    exact ⟨parameters, uri, read, resolved, Json.read_write back (by decide)⟩

theorem Command.Data.read_template (small : template.length < 10 ^ 4300)
    (own : Command.Data output settings (.inspect template) data) :
    Json.read data = .ok (CommandLine.templateDocument (Template.parse template)) := by
  cases own with
  | placeholders _ printed => exact absurd document printed
  | templateDocument _ _ => exact Json.read_write (readsBack_templateDocument small) (by decide)

end Commands

section Processes

theorem format_outputOf_json (host : Host) (interactive : Bool) {globals : Globals} (document : globals.json = true) :
    (outputOf host interactive globals.outputOptions).format = .json := by
  unfold outputOf Output.ofOptions Globals.outputOptions
  dsimp only
  rw [document]
  rfl

variable {i : Invocation} {globals : Globals}

theorem exists_data_of_done {c : Command} (asked : Request.read i.arguments = .start globals (.command c))
    (answered : c ≠ .reset false) {written : Written} (done : i.outcome.1 = .done 0 written) :
    ∃ settings, effective i.host globals.layer none = .ok settings ∧
      c.Data (outputOf i.host i.interactive globals.outputOptions) settings written.data := by
  obtain ⟨code, other, same, _, own⟩ := (outcome_splits asked answered).exists_written
  cases same.symm.trans done
  exact own rfl

/-- Where no document is asked for, a process prints the route. -/
theorem outcome_shows_route {template uri : Text} {entries : List Text} {base : Option Text}
    {parameters : List (Text × Text)} {settings : Settings}
    (asked : Request.read i.arguments = .start globals (.command (.resolve template entries base)))
    (printed : globals.json = false) (found : effective i.host globals.layer none = .ok settings)
    (read : readPairs entries = .ok parameters)
    (resolved : (resolveText settings template parameters base).result = .ok uri) :
    i.outcome.1.Shows 0 (uri ++ Text.ofString "\n") := by
  rw [Invocation.outcome_of_command asked found]
  exact runResolve_of_text _ read (format_outputOf_ne_json i.host i.interactive printed) resolved

end Processes

/-- What is printed as a document is one document and a line end. A resolution is read back with its template, with the
parameters in the order of their entries, and with the route that is printed where no document is asked for. A template
is read back with the offsets of its parts, unless it has more characters than a number that is read may count. -/
theorem run_document_reads_back (host : Host) (interactive : Bool) {arguments : List Text} (input : Text)
    {globals : Globals} {c : Command} (asked : Request.read arguments = .start globals (.command c))
    (document : globals.json = true) {written : Written}
    (done : (run host interactive arguments input).1 = .done 0 written) :
    (∀ template entries base, c = .resolve template entries base →
      ∃ parameters uri, readPairs entries = .ok parameters ∧
        Json.read written.data = .ok (.object [("template", .text template),
          ("params", .object (parameters.map fun (name, value) => (name, .text value))), ("uri", .text uri)]) ∧
        ∀ bare, Request.read bare = .start { globals with json := false } (.command c) →
          (run host interactive bare input).1.Shows 0 (uri ++ Text.ofString "\n")) ∧
      ∀ template, c = .inspect template → template.length < 10 ^ 4300 →
        let t := Template.parse template
        Json.read written.data = .ok (.object [("template", .text template),
          ("query_marker_offset", .int (t.queryMarker?.elim (-1) Int.ofNat)),
          ("placeholders", .array (t.placeholders.map fun p => .object [("name", .text p.name),
            ("kind", .text (kindName p.kind)), ("template_offset", .int p.offset)])),
          ("unterminated_offset", .int (t.unterminated?.elim (-1) Int.ofNat))]) := by
  let i : Invocation := { host, interactive, arguments, input }
  have format := format_outputOf_json host interactive document
  constructor
  · rintro template entries base rfl
    obtain ⟨settings, found, own⟩ := exists_data_of_done (i := i) asked (fun other => by cases other) done
    obtain ⟨parameters, uri, pairs, resolved, read⟩ := own.read_resolution format
    refine ⟨parameters, uri, pairs, read, fun bare other => ?_⟩
    exact outcome_shows_route (i := { i with arguments := bare }) other rfl found pairs resolved
  · rintro template rfl small t
    obtain ⟨settings, _, own⟩ := exists_data_of_done (i := i) asked (fun other => by cases other) done
    rw [own.read_template format small, templateDocument_parse]

/-- A name given twice, characters that are escaped and one beyond the first plane; then a brace that is never closed. -/
theorem run_document_reads_back_escaped :
    let host : Host := { environment := [("XDG_CONFIG_HOME", "/c"), ("TERM", "dumb")] }
    let bare : List Text := ["resolve", "/\x7bid\x7d", "-p", "id=1", "-p", "q=\"\\\n", "-p", "id=😀"]
    let c : Command := .resolve "/\x7bid\x7d" ["id=1", "q=\"\\\n", "id=😀"] none
    let inspected : List Text := ["--json", "inspect", "\x7ba\x7d?\x7bb"]
    Request.read bare = .start {} (.command c) ∧
      Request.read (Text.ofString "--json" :: bare) = .start { json := true } (.command c) ∧
      Request.read inspected = .start { json := true } (.command (.inspect "\x7ba\x7d?\x7bb")) ∧
      (∃ written, (run host false (Text.ofString "--json" :: bare) []).1 = .done 0 written ∧
        Json.read written.data = .ok (.object [("template", .text "/\x7bid\x7d"),
          ("params", .object [("id", .text "😀"), ("q", .text "\"\\\n")]),
          ("uri", .text "/%F0%9F%98%80?q=%22%5C%0A")]) ∧
        (run host false bare []).1.Shows 0 "/%F0%9F%98%80?q=%22%5C%0A\n") ∧
      ∃ written, (run host false inspected []).1 = .done 0 written ∧
        Json.read written.data = .ok (.object [("template", .text "\x7ba\x7d?\x7bb"),
          ("query_marker_offset", .int 3),
          ("placeholders", .array [.object [("name", .text "a"), ("kind", .text "path"), ("template_offset", .int 0)]]),
          ("unterminated_offset", .int 4)]) := by
  intro host bare c inspected
  have asked : Request.read bare = .start {} (.command c) := by rfl
  have documented : Request.read (Text.ofString "--json" :: bare) = .start { json := true } (.command c) :=
    read_json_cons asked
  have looked : Request.read inspected = .start { json := true } (.command (.inspect "\x7ba\x7d?\x7bb")) := by rfl
  have codes : (run host false (Text.ofString "--json" :: bare) []).1.exitCode = 0 ∧
      (run host false inspected []).1.exitCode = 0 := by
    decide +kernel +zetaReduce
  have printed : (run host false bare []).1 = .done 0 { data := "/%F0%9F%98%80?q=%22%5C%0A\n" } := by
    decide +kernel +zetaReduce
  obtain ⟨code, written, done, _⟩ :=
    (outcome_splits (i := ⟨host, false, _, []⟩) documented (by decide +zetaReduce)).exists_written
  obtain ⟨code', written', done', _⟩ := (outcome_splits (i := ⟨host, false, _, []⟩) looked (by decide)).exists_written
  rw [Invocation.outcome] at done done'
  rw [done, done'] at codes
  obtain ⟨rfl, rfl⟩ : code = 0 ∧ code' = 0 := codes
  obtain ⟨parameters, uri, pairs, read, shown⟩ := (run_document_reads_back host false [] documented rfl done).1 _ _ _ rfl
  have given : readPairs ["id=1", "q=\"\\\n", "id=😀"] = .ok [("id", "😀"), ("q", "\"\\\n")] := by rfl
  cases given.symm.trans pairs
  obtain ⟨other, same, data⟩ := shown bare asked
  cases printed.symm.trans same
  have line : ("/%F0%9F%98%80?q=%22%5C%0A\n" : Text) = "/%F0%9F%98%80?q=%22%5C%0A" ++ Text.ofString "\n" := by rfl
  cases List.append_cancel_right (data.symm.trans line)
  have few : List.length ("\x7ba\x7d?\x7bb" : Text) < 10 := by decide
  have template := (run_document_reads_back host false [] looked rfl done').2 _ rfl (lt_of_oneDigit few)
  exact ⟨asked, documented, looked, ⟨written, done, read, _, printed, rfl⟩, written', done', template⟩

end RouteTemplate.CommandLine
