import RouteTemplate.Proofs.Bag.Forms
import RouteTemplate.Proofs.Cache.Transparency
import RouteTemplate.Proofs.Route.Readings

set_option autoImplicit false

namespace RouteTemplate

/-- A form in which a caller can hand over pairs of names and values. -/
inductive Form where
  | mapping (type : Text)
  | bundle
  | object (form : ObjectForm) (known : List Class) (name : Text)

namespace Form

/-- The bag that the pairs make in a form: the pairs are entered into a mapping or a bundle one after another, or a class
is declared with the names and an object of it is made from the values. -/
def bag (pairs : List (Text × Value)) : Form → Bag
  | mapping type => Bag.ofEntries type (pairs.map fun pair => (.text pair.1, pair.2))
  | bundle => .bundle (Table.ofList pairs)
  | object form known name => .object (form.object known name pairs)

/-- The names that bags of the form answer to with something other than what was handed over. -/
def hides : Form → List Text
  | object form _ _ => form.hides
  | _ => []

end Form

section Entries

theorem putEntry_of_fresh {key : Text} {v : Value} {entries : List (Text × Value)} (fresh : key ∉ Table.keys entries) :
    Value.putEntry (.text key) v (entries.map fun entry => (.text entry.1, entry.2)) =
      (entries ++ [(key, v)]).map fun entry => (.text entry.1, entry.2) := by
  induction entries with
  | nil => rfl
  | cons entry entries ih =>
    obtain ⟨other, absent⟩ := List.ne_and_not_mem_of_not_mem_cons fresh
    have different : ¬Value.sameKey (.text entry.1) (.text key) = true := fun same => other (eq_of_sameKey same).symm
    rw [List.map_cons, Value.putEntry, if_neg different, ih absent]
    rfl

theorem foldl_putEntry {entries rest : List (Text × Value)} (distinct : (Table.keys (entries ++ rest)).Nodup) :
    (rest.map fun entry => (Value.text entry.1, entry.2)).foldl
        (fun entries pair => Value.putEntry pair.1 pair.2 entries) (entries.map fun entry => (.text entry.1, entry.2)) =
      (entries ++ rest).map fun entry => (.text entry.1, entry.2) := by
  induction rest generalizing entries with
  | nil => rw [List.append_nil]; rfl
  | cons entry rest ih =>
    have fresh : entry.1 ∉ Table.keys entries := by
      rw [Table.keys, List.map_append] at distinct
      exact fun inside => (List.nodup_append.mp distinct).2.2 _ inside _ List.mem_cons_self rfl
    have later : (Table.keys (entries ++ [entry] ++ rest)).Nodup := by simpa using distinct
    rw [List.map_cons, List.foldl_cons, putEntry_of_fresh fresh, ih later, List.append_assoc]
    rfl

/-- Entries under different texts are the mapping that they make. -/
theorem entriesOf_texts {pairs : List (Text × Value)} (distinct : (Table.keys pairs).Nodup) :
    Value.entriesOf (pairs.map fun pair => (.text pair.1, pair.2)) = pairs.map fun pair => (.text pair.1, pair.2) :=
  @foldl_putEntry [] pairs distinct

end Entries

section Readings

variable {pairs : List (Text × Value)}

theorem readingsOf_of_accessor {bag : Bag} (accessor : Text → Accessor)
    (listed : bag.accessorList = .ok ((Table.keys pairs).map accessor)) (named : ∀ n, (accessor n).name = n)
    (read : ∀ pair ∈ pairs, bag.read (accessor pair.1).reader = .ok pair.2) :
    readingsOf (some bag) = .ok (pairs.map fun pair => (pair.1, .ok pair.2)) := by
  rw [readingsOf_of_accessorList listed, Table.keys, List.map_map, List.map_map]
  apply congrArg Except.ok
  apply List.map_congr_left
  intro pair inside
  dsimp only [Function.comp_apply]
  rw [named, read pair inside]

theorem bag_mapping (type : Text) (distinct : (Table.keys pairs).Nodup) :
    (Form.mapping type).bag pairs = .mapping type (pairs.map fun pair => (.text pair.1, pair.2)) := by
  rw [Form.bag, Bag.ofEntries, entriesOf_texts distinct]

theorem regular_form (form : Form) (distinct : (Table.keys pairs).Nodup) : (form.bag pairs).Regular := by
  cases form with
  | mapping type =>
    rw [bag_mapping type distinct]
    intro entry inside
    obtain ⟨pair, _, rfl⟩ := List.mem_map.mp inside
    exact ⟨pair.1, rfl⟩
  | bundle => trivial
  | object form known name => trivial

theorem readingsOf_mapping (type : Text) (distinct : (Table.keys pairs).Nodup) :
    readingsOf (some ((Form.mapping type).bag pairs)) = .ok (pairs.map fun pair => (pair.1, .ok pair.2)) := by
  have regular := regular_form (.mapping type) distinct
  rw [bag_mapping type distinct] at regular ⊢
  have keys : (pairs.map fun pair => (Value.text pair.1, pair.2)).map Prod.fst = (Table.keys pairs).map Value.text := by
    rw [Table.keys, List.map_map, List.map_map]
    rfl
  have listed := accessorList_eq regular
  rw [Bag.shape, Except.map, keys, Shape.accessorList, entryReaders, filterMap_textContent?] at listed
  rw [readingsOf_of_accessorList listed]
  -- The entry at an index is read under the name at that index.
  apply congrArg Except.ok
  apply List.ext_getElem
  · simp [Table.keys]
  · intro index _ bound
    have inside : index < pairs.length := by simpa using bound
    simp [Table.keys, Bag.read, inside]

theorem readingsOf_bundle (declarable : Declarable (Table.keys pairs)) :
    readingsOf (some (Form.bundle.bag pairs)) = .ok (pairs.map fun pair => (pair.1, .ok pair.2)) := by
  have table : Table.ofList pairs = pairs := Table.ofList_eq_self declarable.distinct
  refine readingsOf_of_accessor Bag.pathAccessor ?_ (fun _ => rfl) ?_
  · unfold Form.bag Bag.accessorList
    dsimp only
    rw [table, filter_isPublicName declarable]
  · intro pair inside
    refine read_pathAccessor (declarable.undotted pair.1 (List.mem_map_of_mem inside)) ?_
    unfold Form.bag Bag.readAttribute
    dsimp only
    rw [table, Table.get?_of_mem declarable.distinct inside, Option.some_or]

theorem readingsOf_object (form : ObjectForm) (known : List Class) (name : Text)
    (declarable : Declarable (Table.keys pairs)) (shown : ∀ n ∈ Table.keys pairs, n ∉ form.hides) :
    readingsOf (some ((Form.object form known name).bag pairs)) = .ok (pairs.map fun pair => (pair.1, .ok pair.2)) := by
  refine readingsOf_of_accessor form.accessor ?_ ?_ ?_
  · change Except.ok (Bag.classAccessors (form.object known name pairs).cls (form.object known name pairs).ownNames) = _
    rw [form.cls_object known name declarable, form.ownNames_object known name declarable,
      form.classAccessors_declared known name declarable]
  · intro n
    cases form <;> rfl
  · intro pair inside
    exact form.read_accessor known name declarable inside (shown pair.1 (List.mem_map_of_mem inside))

/-- In every form the pairs are read back as they were handed over, in their order. -/
theorem readingsOf_form (form : Form) (declarable : Declarable (Table.keys pairs))
    (shown : ∀ n ∈ Table.keys pairs, n ∉ form.hides) :
    readingsOf (some (form.bag pairs)) = .ok (pairs.map fun pair => (pair.1, .ok pair.2)) := by
  cases form with
  | mapping type => exact readingsOf_mapping type declarable.distinct
  | bundle => exact readingsOf_bundle declarable
  | object form known name => exact readingsOf_object form known name declarable shown

end Readings

/-- In whichever of two forms pairs are handed over, a template is resolved to the same route or fails with the same
error. -/
theorem resolve_in_forms (settings : Settings) (text : Text) {pairs : List (Text × Value)}
    (declarable : Declarable (Table.keys pairs)) (one two : Form) (first : ∀ n ∈ Table.keys pairs, n ∉ one.hides)
    (second : ∀ n ∈ Table.keys pairs, n ∉ two.hides) :
    resolve settings text (some (one.bag pairs)) = resolve settings text (some (two.bag pairs)) := by
  refine resolve_congr settings text ?_
  rw [readingsOf_form one declarable first, readingsOf_form two declarable second]

/-- A mapping and a validated object, with an absent value and two names that differ in case alone. -/
theorem resolve_in_forms_record :
    let pairs : List (Text × Value) := [("x", .text "a b"), ("X", .int 5), ("n", .int 7), ("y", .absent)]
    let one : Form := .mapping "dict"
    let two : Form := .object (.record none none) [] "M"
    Declarable (Table.keys pairs) ∧ (∀ n ∈ Table.keys pairs, n ∉ one.hides) ∧
      (∀ n ∈ Table.keys pairs, n ∉ two.hides) ∧
      resolve {} "/u/\x7bx\x7d" (some (two.bag pairs)) = .ok "/u/a%20b?n=7" ∧
      resolve {} "/u/\x7by\x7d" (some (two.bag pairs)) = .error (.missing "y" "/u/\x7by\x7d") := by
  intro pairs one two
  have declarable : Declarable (Table.keys pairs) := ⟨by decide, by decide, by decide⟩
  have first : ∀ n ∈ Table.keys pairs, n ∉ one.hides := fun _ _ => List.not_mem_nil
  have second : ∀ n ∈ Table.keys pairs, n ∉ two.hides := by decide
  refine ⟨declarable, first, second, ?_, ?_⟩
  · rw [← resolve_in_forms {} "/u/\x7bx\x7d" declarable one two first second]
    rfl
  · rw [← resolve_in_forms {} "/u/\x7by\x7d" declarable one two first second]
    rfl

/-- Under the name of one of its views a validated object does not give what it was made from. -/
theorem resolve_in_forms_view :
    let pairs : List (Text × Value) := [("model_extra", .int 5)]
    Declarable (Table.keys pairs) ∧
      resolve {} "/\x7bmodel_extra\x7d" (some ((Form.mapping "dict").bag pairs)) = .ok "/5" ∧
      resolve {} "/\x7bmodel_extra\x7d" (some ((Form.object (.record none none) [] "M").bag pairs)) =
        .error (.missing "model_extra" "/\x7bmodel_extra\x7d") := by
  exact ⟨⟨by decide, by decide, by decide⟩, rfl, rfl⟩

/-- Nor does it matter what the two calls find in their caches. -/
theorem resolveCached_in_forms (settings : Settings) (text : Text) {pairs : List (Text × Value)}
    (declarable : Declarable (Table.keys pairs)) (one two : Form) (first : ∀ n ∈ Table.keys pairs, n ∉ one.hides)
    (second : ∀ n ∈ Table.keys pairs, n ∉ two.hides) {ours theirs : Caches} (sound : ours.Sound)
    (other : theirs.Sound) :
    (resolveCached settings ours text (some (one.bag pairs))).result =
      (resolveCached settings theirs text (some (two.bag pairs))).result := by
  have regular (form : Form) : ∀ b ∈ some (form.bag pairs), b.Regular := by
    rintro b ⟨⟩
    exact regular_form form declarable.distinct
  rw [resolveCached_result settings sound text (regular one), resolveCached_result settings other text (regular two)]
  refine resolve_congr settings text ?_
  rw [readingsOf_form one declarable first, readingsOf_form two declarable second]

end RouteTemplate
