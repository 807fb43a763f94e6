import RouteTemplate.Proofs.Route.Separator

set_option autoImplicit false

namespace RouteTemplate

open Percent (isComponentPoint)

/-- What is left of a text when the characters of components are taken out. -/
def Text.outline (t : Text) : Text := t.filter fun c => !isComponentPoint c

@[simp] theorem Text.outline_nil : Text.outline [] = [] := rfl

@[simp] theorem Text.outline_append (first second : Text) :
    (first ++ second).outline = first.outline ++ second.outline := by
  simp only [outline, List.filter_append]

theorem Text.outline_of_points {t : Text} (points : ∀ c ∈ t, isComponentPoint c = true) : t.outline = [] := by
  simp only [outline, List.filter_eq_nil_iff]
  intro c inside
  simp [points c inside]

theorem Text.outline_joinWith (sep : Text) (pieces : List Text) :
    (Text.joinWith sep pieces).outline = Text.joinWith sep.outline (pieces.map Text.outline) := by
  induction pieces with
  | nil => rfl
  | cons piece pieces ih =>
    cases pieces with
    | nil => rfl
    | cons next pieces =>
      simp only [Text.joinWith, List.map_cons, outline_append] at ih ⊢
      rw [ih]

theorem outline_placed {kind : PlaceholderKind} {name component : Text}
    (points : ∀ c ∈ component, isComponentPoint c = true) :
    (placed kind name component).outline = (placed kind name []).outline := by
  have bare := Text.outline_of_points points
  cases kind with
  | path => exact bare
  | query =>
    have split (t : Text) : pairText name t = name ++ [CodePoint.ofChar '='] ++ t := by simp [pairText]
    simp only [placed, split, Text.outline_append, bare, Text.outline_nil]

/-- Whatever fills the segments, their outline is the same. -/
theorem outline_substitute {settings other : Settings} {a b : Accessors} {first second : Bag}
    {text template left right : Text} {marked : Bool} {segments : List Segment}
    (one : substitute settings a first text marked segments = .ok left)
    (two : substitute other b second template marked segments = .ok right) : left.outline = right.outline := by
  induction segments generalizing marked left right with
  | nil =>
    cases one
    cases two
    rfl
  | cons s segments ih =>
    obtain ⟨_, left, onePiece, oneRest, rfl⟩ := substitute_cons_ok one
    obtain ⟨_, right, twoPiece, twoRest, rfl⟩ := substitute_cons_ok two
    obtain ⟨_, _, _, _, _, _, oneWritten, rfl⟩ := fill_ok onePiece
    obtain ⟨_, _, _, _, _, _, twoWritten, rfl⟩ := fill_ok twoPiece
    simp only [Text.outline_append, ih oneRest twoRest, outline_placed (Value.component_points oneWritten),
      outline_placed (Value.component_points twoWritten)]

theorem outline_pair {settings : Settings} {reading : Text × Except ResolveError Value} {pair : Text}
    (rendered : PairOf settings reading pair) : pair.outline = [CodePoint.ofChar '='] := by
  obtain ⟨v, name, component, _, encoded, written, rfl⟩ := rendered
  obtain ⟨octets, _, rfl⟩ := Percent.encodeText_eq encoded
  have before : Text.outline (Percent.encode octets) = [] :=
    Text.outline_of_points fun _ inside => Percent.isComponentPoint_of_mem_encode inside
  have after := Text.outline_of_points (Value.component_points written)
  have split : pairText (Percent.encode octets) component =
      Percent.encode octets ++ ([CodePoint.ofChar '='] ++ component) := rfl
  rw [split, Text.outline_append, Text.outline_append, before, after]
  decide

theorem outline_pairs {settings : Settings} {readings : List (Text × Except ResolveError Value)} {pairs : List Text}
    (rendered : List.Forall₂ (PairOf settings) readings pairs) :
    pairs.map Text.outline = List.replicate readings.length [CodePoint.ofChar '='] := by
  induction rendered with
  | nil => rfl
  | cons first _ ih => simp [outline_pair first, ih, List.replicate_succ]

/-- Readings under one name, both absent or neither. -/
def Coincide (first second : Text × Except ResolveError Value) : Prop :=
  first.1 = second.1 ∧ readsAbsent first.2 = readsAbsent second.2

instance (first second : Text × Except ResolveError Value) : Decidable (Coincide first second) :=
  inferInstanceAs (Decidable (_ ∧ _))

theorem Coincide.remains {first second : Text × Except ResolveError Value} (same : Coincide first second)
    (consumed : List Text) : RouteTemplate.remains consumed first = RouteTemplate.remains consumed second := by
  simp only [RouteTemplate.remains, same.1, same.2]

theorem length_filter_remains {first second : List (Text × Except ResolveError Value)}
    (same : List.Forall₂ Coincide first second) (consumed : List Text) :
    (first.filter (remains consumed)).length = (second.filter (remains consumed)).length := by
  induction same with
  | nil => rfl
  | cons head _ ih =>
    simp only [List.filter_cons, head.remains consumed]
    split
    · simp only [List.length_cons, ih]
    · exact ih

theorem outline_appendPairs (marked : Bool) (route : Text) (pairs : List Text) :
    (appendPairs marked route pairs).outline = route.outline ++
      if pairs.isEmpty then [] else (separator marked route).outline ++
        Text.joinWith (Text.outline "&") (pairs.map Text.outline) := by
  unfold appendPairs
  split
  · simp
  · simp only [Text.outline_append, Text.outline_joinWith]

/-- What is read under each name of what a caller hands over. Without a bag there is no name. -/
def readingsOf : Option Bag → Except ResolveError (List (Text × Except ResolveError Value))
  | none => .ok []
  | some bag => bag.accessors.map bag.readings

/-- The same names in the same order, with absent values at the same places. -/
def Alike (first second : Option Bag) : Prop :=
  ∃ a b, readingsOf first = .ok a ∧ readingsOf second = .ok b ∧ List.Forall₂ Coincide a b

theorem find?_of_readings_nil {bag : Bag} {accessors : Accessors} (known : bag.accessors = .ok accessors)
    (bare : bag.readings accessors = []) (name : Text) : accessors.find? name = none := by
  obtain ⟨list, _, rfl⟩ := map_eq_ok.mp known
  have empty : list = [] := List.map_eq_nil_iff.mp bare
  rw [empty]
  rfl

/-- A bag without names leaves a template as it is. -/
theorem resolve_of_readings_nil {settings : Settings} {text route : Text} {bag : Bag}
    (bare : readingsOf (some bag) = .ok []) (done : resolve settings text (some bag) = .ok route) : route = text := by
  obtain ⟨accessors, known, empty⟩ := map_eq_ok.mp bare
  obtain ⟨accessors', filled, pairs, parts, rfl⟩ := resolve_ok done
  cases known.symm.trans parts.known
  have literal : (Template.parse text).segments = [] := by
    have substituted := parts.substituted
    cases segments : (Template.parse text).segments with
    | nil => rfl
    | cons s rest =>
      rw [segments] at substituted
      obtain ⟨piece, _, first, _, _⟩ := substitute_cons_ok substituted
      obtain ⟨a, _, _, found, _⟩ := fill_ok first
      rw [find?_of_readings_nil known empty] at found
      cases found
  have gone : pairs = [] := by
    have appended := parts.appended
    rw [Template.remaining, empty] at appended
    simpa using appended
  have nothing : filled = [] := by
    have substituted := parts.substituted
    rw [literal] at substituted
    cases substituted
    rfl
  have whole := Template.source_parse text
  rw [Template.source, literal] at whole
  rw [gone, nothing]
  exact whole

theorem outline_resolve_bag {settings : Settings} {text : Text} {first second : Bag}
    (same : Alike (some first) (some second)) {left right : Text} (one : resolve settings text (some first) = .ok left)
    (two : resolve settings text (some second) = .ok right) : left.outline = right.outline := by
  obtain ⟨_, _, firstReadings, secondReadings, coincide⟩ := same
  obtain ⟨a, firstKnown, rfl⟩ := map_eq_ok.mp firstReadings
  obtain ⟨b, secondKnown, rfl⟩ := map_eq_ok.mp secondReadings
  obtain ⟨a', oneFilled, onePairs, oneParts, rfl⟩ := resolve_ok one
  obtain ⟨b', twoFilled, twoPairs, twoParts, rfl⟩ := resolve_ok two
  cases firstKnown.symm.trans oneParts.known
  cases secondKnown.symm.trans twoParts.known
  have filled := outline_substitute oneParts.substituted twoParts.substituted
  have pairs : onePairs.map Text.outline = twoPairs.map Text.outline := by
    rw [outline_pairs oneParts.appended, outline_pairs twoParts.appended]
    split
    · exact congrArg (List.replicate · _) (length_filter_remains coincide _)
    · rfl
  have empty : onePairs.isEmpty = twoPairs.isEmpty := by
    rw [← List.isEmpty_map (f := Text.outline), pairs, List.isEmpty_map]
  simp only [outline_appendPairs, separator_filled oneParts.substituted, separator_filled twoParts.substituted,
    Text.outline_append, filled, pairs, empty]

/-- The outline of a route is settled by its template and by which names have values. -/
theorem outline_resolve_eq (settings : Settings) (text : Text) {first second : Option Bag} (same : Alike first second)
    {left right : Text} (one : resolve settings text first = .ok left)
    (two : resolve settings text second = .ok right) : left.outline = right.outline := by
  cases first with
  | none =>
    cases one
    cases second with
    | none =>
      cases two
      rfl
    | some second =>
      obtain ⟨_, _, firstReadings, secondReadings, coincide⟩ := same
      cases firstReadings
      cases coincide
      rw [resolve_of_readings_nil secondReadings two]
  | some first =>
    cases second with
    | none =>
      cases two
      obtain ⟨_, _, firstReadings, secondReadings, coincide⟩ := same
      cases secondReadings
      cases coincide
      rw [resolve_of_readings_nil firstReadings one]
    | some second => exact outline_resolve_bag same one two

/-- Delimiters in values, empty values and an absent one, for a template that ends in a placeholder of its query. -/
theorem outline_resolve_eq_delimiters :
    let text : Text := "/\x7bid\x7d/x?\x7bq\x7d"
    let bag (id q r : Value) : Option Bag :=
      some (.mapping "dict" [(.text "id", id), (.text "q", q), (.text "a&b", r), (.text "s", .absent)])
    let first := bag (.text "/?&=#") (.bytes [38]) (.text "")
    let second := bag (.text "") (.int 7) (.text "\x7b")
    let left : Text := "/%2F%3F%26%3D%23/x?q=%26&a%26b="
    let right : Text := "//x?q=7&a%26b=%7B"
    Alike first second ∧ resolve {} text first = .ok left ∧ resolve {} text second = .ok right ∧
      left.outline = right.outline := by
  intro text bag first second left right
  have alike : Alike first second := ⟨_, _, rfl, rfl, by decide⟩
  have one : resolve {} text first = .ok left := by rfl
  have two : resolve {} text second = .ok right := by rfl
  exact ⟨alike, one, two, outline_resolve_eq {} text alike one two⟩

end RouteTemplate
