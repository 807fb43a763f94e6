import RouteTemplate.Value.Equality

/-!
What a value is as a key. Two values are one key exactly when both have a form and it is the same, so two that are one
key with a third are one key, whatever types meet: numbers have the form of their quantity, texts and octets that of
their content, and a member of an enumeration that is none of these has a form of its own. A NaN and a thing have no
form.
-/

set_option autoImplicit false

namespace RouteTemplate.Value

/-- What a value is as a key. -/
inductive KeyForm where
  | absent
  | uuid (n : Nat)
  | moment (aware : Bool) (instant : Int)
  | day (d : Calendar.Day)
  | clock (aware : Bool) (instant : Int)
  | duration (d : Calendar.Duration)
  | zone (offset : Int)
  | tuple (items : List KeyForm)
  | number (re im : Quantity)
  | text (t : Text)
  | octets (content : List UInt8)
  | member (v : Value)

/-- The form of a value that has a content: a quantity, a text or octets, or else is a member of an enumeration. -/
def contentForm? (v : Value) : Option KeyForm :=
  match quantity? v, textContent? v, octetContent? v with
  | some q, _, _ => some (.number q (.exact 0))
  | none, some t, _ => some (.text t)
  | none, none, some content => some (.octets content)
  | none, none, none =>
    match v with
    | member _ _ _ _ => some (.member v)
    | _ => none

mutual

/-- The form of a value as a key, if it has one. -/
def keyForm? : Value → Option KeyForm
  | absent => some .absent
  | uuid n => some (.uuid n)
  | moment d c => some (.moment c.offset.isSome (d.ordinal * 86400000000 + c.instant))
  | day d => some (.day d)
  | clock c => some (.clock c.offset.isSome c.instant)
  | duration d => some (.duration d)
  | zone offset => some (.zone offset)
  | tuple items => (keyForms? items).map .tuple
  | complex re im =>
    match quantityOfBinary? re, quantityOfBinary? im with
    | some re, some im => some (.number re im)
    | _, _ => none
  | v => contentForm? v

def keyForms? : List Value → Option (List KeyForm)
  | [] => some []
  | v :: vs =>
    match keyForm? v, keyForms? vs with
    | some form, some forms => some (form :: forms)
    | _, _ => none

end

theorem agree_iff {α : Type} [DecidableEq α] {a b : Option α} :
    agree a b = true ↔ ∃ content, a = some content ∧ b = some content := by
  cases a <;> cases b <;> simp [agree, eq_comm]

section Contents

variable {v w : Value}

theorem quantity?_complex {re im : Binary64} {q : Quantity} : quantity? (.complex re im) = some q ↔
    quantityOfBinary? re = some q ∧ quantityOfBinary? im = some (.exact 0) := by
  rw [quantity?]
  split
  · next real => simp [real]
  · next unreal => simp [unreal]

/-- The contents of a value exclude one another. -/
theorem quantity?_of_textContent? {t : Text} (text : textContent? v = some t) : quantity? v = none := by
  cases v with
  | text t => rfl
  | member owner kind name value => cases kind <;> first | rfl | cases text
  | _ => cases text

theorem contents_of_octetContent? {content : List UInt8} (octets : octetContent? v = some content) :
    quantity? v = none ∧ textContent? v = none := by
  cases v with
  | bytes content => exact ⟨rfl, rfl⟩
  | bytearray content => exact ⟨rfl, rfl⟩
  | member owner kind name value => cases kind <;> first | exact ⟨rfl, rfl⟩ | cases octets
  | _ => cases octets

theorem keyForm?_of_quantity? {q : Quantity} (quantity : quantity? v = some q) :
    keyForm? v = some (.number q (.exact 0)) := by
  cases v with
  | complex re im =>
    obtain ⟨real, imaginary⟩ := quantity?_complex.mp quantity
    simp only [keyForm?, real, imaginary]
  | bool | int | float | decimal | fraction | member => simp only [keyForm?, contentForm?, quantity]
  | _ => cases quantity

theorem keyForm?_of_textContent? {t : Text} (text : textContent? v = some t) : keyForm? v = some (.text t) := by
  have noNumber := quantity?_of_textContent? text
  cases v with
  | text | member => simp only [keyForm?, contentForm?, noNumber, text]
  | _ => cases text

theorem keyForm?_of_octetContent? {content : List UInt8} (octets : octetContent? v = some content) :
    keyForm? v = some (.octets content) := by
  obtain ⟨noNumber, noText⟩ := contents_of_octetContent? octets
  cases v with
  | bytes | bytearray | member => simp only [keyForm?, contentForm?, noNumber, noText, octets]
  | _ => cases octets

theorem exists_keyForm?_member (owner : Text) (kind : EnumerationKind) (name : Text) (value : Value) :
    ∃ form, keyForm? (member owner kind name value) = some form := by
  rw [keyForm?, contentForm?]
  · split <;> exact ⟨_, rfl⟩
  all_goals simp

/-- Values of one content are one key. -/
theorem sameKey_of_contents (same : (agree (quantity? v) (quantity? w) || agree (textContent? v) (textContent? w) ||
      agree (octetContent? v) (octetContent? w) || sameKey.sameMember v w) = true) : sameKey v w = true := by
  unfold sameKey
  split
  case h_9 a b c d =>
    have numbers : agree (quantity? (.complex a b)) (quantity? (.complex c d)) = true := by
      simpa [textContent?, octetContent?, sameKey.sameMember, agree] using same
    obtain ⟨q, first, second⟩ := agree_iff.mp numbers
    rw [quantity?_complex] at first second
    simp [first, second, agree]
  case h_10 => exact same
  all_goals cases same

theorem sameKey_of_quantity? {q : Quantity} (first : quantity? v = some q) (second : quantity? w = some q) :
    sameKey v w = true :=
  sameKey_of_contents (by simp [first, second, agree])

theorem sameKey_of_textContent? {t : Text} (first : textContent? v = some t) (second : textContent? w = some t) :
    sameKey v w = true :=
  sameKey_of_contents (by simp [first, second, agree])

theorem sameKey_of_octetContent? {octets : List UInt8} (first : octetContent? v = some octets)
    (second : octetContent? w = some octets) : sameKey v w = true :=
  sameKey_of_contents (by simp [first, second, agree])

theorem sameKey_member (owner : Text) (kind : EnumerationKind) (name : Text) (value : Value) :
    sameKey (member owner kind name value) (member owner kind name value) = true :=
  sameKey_of_contents (by simp [sameKey.sameMember, alike_self])

end Contents

inductive HasForm : Value → KeyForm → Prop
  | absent : HasForm .absent .absent
  | uuid (n : Nat) : HasForm (.uuid n) (.uuid n)
  | moment {d : Calendar.Day} {c : Calendar.Clock} {aware : Bool} {instant : Int} (zoned : c.offset.isSome = aware)
      (reached : d.ordinal * 86400000000 + c.instant = instant) : HasForm (.moment d c) (.moment aware instant)
  | day (d : Calendar.Day) : HasForm (.day d) (.day d)
  | clock {c : Calendar.Clock} {aware : Bool} {instant : Int} (zoned : c.offset.isSome = aware)
      (reached : c.instant = instant) : HasForm (.clock c) (.clock aware instant)
  | duration (d : Calendar.Duration) : HasForm (.duration d) (.duration d)
  | zone (offset : Int) : HasForm (.zone offset) (.zone offset)
  | tuple {items : List Value} {forms : List KeyForm} (each : keyForms? items = some forms) :
      HasForm (.tuple items) (.tuple forms)
  | complex {re im : Binary64} {p q : Quantity} (real : quantityOfBinary? re = some p)
      (imaginary : quantityOfBinary? im = some q) : HasForm (.complex re im) (.number p q)
  | number {v : Value} {q : Quantity} (quantity : quantity? v = some q) : HasForm v (.number q (.exact 0))
  | text {v : Value} {t : Text} (content : textContent? v = some t) : HasForm v (.text t)
  | octets {v : Value} {octets : List UInt8} (content : octetContent? v = some octets) : HasForm v (.octets octets)
  | member (owner : Text) (kind : EnumerationKind) (name : Text) (value : Value) :
      HasForm (.member owner kind name value) (.member (.member owner kind name value))

theorem HasForm.of_contentForm? {v : Value} {form : KeyForm} (known : contentForm? v = some form) : HasForm v form := by
  unfold contentForm? at known
  split at known
  · next q quantity =>
    cases known
    exact .number quantity
  · next t noNumber content =>
    cases known
    exact .text content
  · next octets noNumber noText content =>
    cases known
    exact .octets content
  · split at known
    · cases known
      exact .member _ _ _ _
    · cases known

theorem HasForm.of_keyForm? {v : Value} {form : KeyForm} (known : keyForm? v = some form) : HasForm v form := by
  unfold keyForm? at known
  split at known
  case h_8 items =>
    obtain ⟨forms, each, rfl⟩ := Option.map_eq_some_iff.mp known
    exact .tuple each
  case h_9 re im =>
    split at known
    · next p q real imaginary =>
      cases known
      exact .complex real imaginary
    · cases known
  case h_10 => exact .of_contentForm? known
  all_goals
    cases known
    constructor <;> rfl

theorem exists_keyForm?_of_contents {v w : Value} (same : (agree (quantity? v) (quantity? w) ||
      agree (textContent? v) (textContent? w) || agree (octetContent? v) (octetContent? w) ||
      sameKey.sameMember v w) = true) : ∃ form, keyForm? v = some form ∧ keyForm? w = some form := by
  simp only [Bool.or_eq_true, agree_iff] at same
  rcases same with ((⟨q, first, second⟩ | ⟨t, first, second⟩) | ⟨octets, first, second⟩) | members
  · exact ⟨_, keyForm?_of_quantity? first, keyForm?_of_quantity? second⟩
  · exact ⟨_, keyForm?_of_textContent? first, keyForm?_of_textContent? second⟩
  · exact ⟨_, keyForm?_of_octetContent? first, keyForm?_of_octetContent? second⟩
  · unfold sameKey.sameMember at members
    split at members
    · obtain ⟨form, known⟩ := exists_keyForm?_member _ _ _ _
      exact ⟨form, known, eq_of_alike _ _ members ▸ known⟩
    · cases members

mutual

/-- Two values are one key exactly when they have one form. -/
theorem sameKey_iff (v w : Value) : sameKey v w = true ↔ ∃ form, keyForm? v = some form ∧ keyForm? w = some form := by
  constructor
  · intro same
    unfold sameKey at same
    split at same
    case h_3 d c d' c' =>
      simp only [Calendar.sameMoment, Bool.and_eq_true, beq_iff_eq] at same
      exact ⟨_, rfl, by rw [keyForm?, same.1, same.2]⟩
    case h_5 c c' =>
      simp only [Calendar.Clock.same, Bool.and_eq_true, beq_iff_eq] at same
      exact ⟨_, rfl, by rw [keyForm?, same.1, same.2]⟩
    case h_8 as bs =>
      obtain ⟨forms, first, second⟩ := (sameKeys_iff as bs).mp same
      exact ⟨.tuple forms, by rw [keyForm?, first]; rfl, by rw [keyForm?, second]; rfl⟩
    case h_9 a b c d =>
      simp only [Bool.and_eq_true, agree_iff] at same
      obtain ⟨⟨p, first, first'⟩, q, second, second'⟩ := same
      exact ⟨.number p q, by simp only [keyForm?, first, second], by simp only [keyForm?, first', second']⟩
    case h_10 => exact exists_keyForm?_of_contents same
    case h_1 => exact ⟨_, rfl, rfl⟩
    all_goals
      cases of_decide_eq_true same
      exact ⟨_, rfl, rfl⟩
  · rintro ⟨form, first, second⟩
    have left := HasForm.of_keyForm? first
    have right := HasForm.of_keyForm? second
    cases left with
    | absent =>
      cases right
      simp [sameKey]
    | uuid | day | duration | zone =>
      cases right
      simp [sameKey]
    | moment zoned reached =>
      cases right with
      | moment zoned' reached' => simp [sameKey, Calendar.sameMoment, zoned, reached, zoned', reached']
    | clock zoned reached =>
      cases right with
      | clock zoned' reached' => simp [sameKey, Calendar.Clock.same, zoned, reached, zoned', reached']
    | tuple each =>
      cases right with
      | tuple each' =>
        rw [sameKey]
        exact (sameKeys_iff _ _).mpr ⟨_, each, each'⟩
    | complex real imaginary =>
      cases right with
      | complex real' imaginary' => simp [sameKey, real, imaginary, real', imaginary', agree]
      | number quantity => exact sameKey_of_quantity? (quantity?_complex.mpr ⟨real, imaginary⟩) quantity
    | number quantity =>
      cases right with
      | complex real imaginary => exact sameKey_of_quantity? quantity (quantity?_complex.mpr ⟨real, imaginary⟩)
      | number quantity' => exact sameKey_of_quantity? quantity quantity'
    | text content =>
      cases right with
      | text content' => exact sameKey_of_textContent? content content'
    | octets content =>
      cases right with
      | octets content' => exact sameKey_of_octetContent? content content'
    | member =>
      cases right
      exact sameKey_member _ _ _ _

theorem sameKeys_iff (vs ws : List Value) :
    sameKey.sameKeys vs ws = true ↔ ∃ forms, keyForms? vs = some forms ∧ keyForms? ws = some forms := by
  cases vs with
  | nil =>
    cases ws with
    | nil => simp [sameKey.sameKeys, keyForms?]
    | cons w ws =>
      simp only [sameKey.sameKeys, keyForms?]
      cases keyForm? w <;> cases keyForms? ws <;> simp
  | cons v vs =>
    cases ws with
    | nil =>
      simp only [sameKey.sameKeys, keyForms?]
      cases keyForm? v <;> cases keyForms? vs <;> simp
    | cons w ws =>
      rw [sameKey.sameKeys, Bool.and_eq_true, sameKey_iff v w, sameKeys_iff vs ws, keyForms?, keyForms?]
      cases keyForm? v <;> cases keyForms? vs <;> cases keyForm? w <;> cases keyForms? ws <;> simp [eq_comm]

end

/-- Sequences that are pairwise one key with a third are pairwise one key. -/
theorem sameKeys_of_sameKeys {first second third : List Value} (left : sameKey.sameKeys first third = true)
    (right : sameKey.sameKeys second third = true) : sameKey.sameKeys first second = true := by
  obtain ⟨forms, known, same⟩ := (sameKeys_iff first third).mp left
  obtain ⟨forms', known', same'⟩ := (sameKeys_iff second third).mp right
  cases same.symm.trans same'
  exact (sameKeys_iff first second).mpr ⟨forms, known, known'⟩

end RouteTemplate.Value
