import RouteTemplate.Value.Basic

/-!
When two values are one key. Numbers are compared by exact value whatever their type, texts and octets by
content, members of an enumeration by identity unless their kind makes them a number, a text or octets.
A NaN and a thing are the same key as nothing, not even as an equal-looking second one. Values have no identity here:
the keys of a mapping are taken as objects made afresh for it, so no key is found again for being the very object that
was there before.
-/

set_option autoImplicit false

namespace RouteTemplate.Value

/-- A number on the extended line, for comparison. -/
inductive Quantity where
  | exact (q : Rat)
  | infinite (negative : Bool)
deriving DecidableEq

/-- The exact value of a binary number; none for a NaN. -/
def quantityOfBinary? : Binary64 → Option Quantity
  | .infinite negative => some (.infinite negative)
  | x => x.toRat?.map .exact

/-- The exact value of a number, if the value is one. A complex number counts when its imaginary part is
zero, a truth value as zero or one. -/
def quantity? : Value → Option Quantity
  | bool b => some (.exact (if b then 1 else 0))
  | int n => some (.exact n)
  | float x => quantityOfBinary? x
  | complex re im => if quantityOfBinary? im = some (.exact 0) then quantityOfBinary? re else none
  | decimal (.infinite negative) => some (.infinite negative)
  | decimal d => d.toRat?.map .exact
  | fraction q => some (.exact q)
  | member _ .integer _ value => quantity? value
  | member _ .integerFlag _ value => quantity? value
  | _ => none

def textContent? : Value → Option Text
  | text t => some t
  | member _ .string _ value => textContent? value
  | member _ .textual _ value => textContent? value
  | _ => none

def octetContent? : Value → Option (List UInt8)
  | bytes octets => some octets
  | bytearray octets => some octets
  | member _ .octets _ value => octetContent? value
  | _ => none

/-- Are two optional contents both there and equal? -/
def agree {α : Type} [DecidableEq α] : Option α → Option α → Bool
  | some a, some b => a = b
  | _, _ => false

mutual

/-- Were the two values given alike? Two alike members of an enumeration are one member. -/
def alike : Value → Value → Bool
  | absent, absent => true
  | bool a, bool b => a = b
  | int a, int b => a = b
  | float a, float b => a = b
  | complex a b, complex c d => a = c && b = d
  | decimal a, decimal b => a = b
  | fraction a, fraction b => a = b
  | uuid a, uuid b => a = b
  | bytes a, bytes b => a = b
  | bytearray a, bytearray b => a = b
  | moment a b, moment c d => a = c && b = d
  | day a, day b => a = b
  | clock a, clock b => a = b
  | duration a, duration b => a = b
  | zone a, zone b => a = b
  | text a, text b => a = b
  | list a, list b => alikeAll a b
  | tuple a, tuple b => alikeAll a b
  | dict a, dict b => alikeEntries a b
  | member owner kind name value, member owner' kind' name' value' =>
    owner = owner' && kind = kind' && name = name' && alike value value'
  | typeOf a, typeOf b => alike a b
  | boundMethod a b, boundMethod c d => a = c && b = d
  | thing owner a b, thing owner' c d => owner = owner' && a = c && b = d
  | _, _ => false

def alikeAll : List Value → List Value → Bool
  | [], [] => true
  | a :: as, b :: bs => alike a b && alikeAll as bs
  | _, _ => false

def alikeEntries : List (Value × Value) → List (Value × Value) → Bool
  | [], [] => true
  | (k, v) :: as, (k', v') :: bs => alike k k' && alike v v' && alikeEntries as bs
  | _, _ => false

end

mutual

theorem alike_self (v : Value) : alike v v = true := by
  cases v with
  | list items => simpa only [alike] using alikeAll_self items
  | tuple items => simpa only [alike] using alikeAll_self items
  | dict entries => simpa only [alike] using alikeEntries_self entries
  | member owner kind name value => simpa [alike] using alike_self value
  | typeOf value => simpa only [alike] using alike_self value
  | _ => simp [alike]

theorem alikeAll_self (items : List Value) : alikeAll items items = true := by
  match items with
  | [] => rfl
  | v :: items => simp only [alikeAll, alike_self v, alikeAll_self items, Bool.and_self]

theorem alikeEntries_self (entries : List (Value × Value)) : alikeEntries entries entries = true := by
  match entries with
  | [] => rfl
  | (k, v) :: entries =>
    simp only [alikeEntries, alike_self k, alike_self v, alikeEntries_self entries, Bool.and_self]

end

mutual

theorem eq_of_alike (a b : Value) (same : alike a b = true) : a = b := by
  unfold alike at same
  split at same
  case h_17 | h_18 => rw [eq_of_alikeAll _ _ same]
  case h_19 => rw [eq_of_alikeEntries _ _ same]
  case h_20 =>
    simp only [Bool.and_eq_true, decide_eq_true_eq] at same
    obtain ⟨⟨⟨rfl, rfl⟩, rfl⟩, inner⟩ := same
    rw [eq_of_alike _ _ inner]
  case h_21 => rw [eq_of_alike _ _ same]
  all_goals simp_all only [Bool.and_eq_true, decide_eq_true_eq, Bool.false_eq_true]

theorem eq_of_alikeAll (a b : List Value) (same : alikeAll a b = true) : a = b := by
  unfold alikeAll at same
  split at same
  · rfl
  · simp only [Bool.and_eq_true] at same
    rw [eq_of_alike _ _ same.1, eq_of_alikeAll _ _ same.2]
  · cases same

theorem eq_of_alikeEntries (a b : List (Value × Value)) (same : alikeEntries a b = true) : a = b := by
  unfold alikeEntries at same
  split at same
  · rfl
  · simp only [Bool.and_eq_true] at same
    rw [eq_of_alike _ _ same.1.1, eq_of_alike _ _ same.1.2, eq_of_alikeEntries _ _ same.2]
  · cases same

end

theorem alike_iff {a b : Value} : alike a b = true ↔ a = b :=
  ⟨eq_of_alike a b, fun same => same ▸ alike_self a⟩

instance : DecidableEq Value := fun _ _ => decidable_of_iff _ alike_iff

/-- Are the two values one key, being no single object? -/
def sameKey : Value → Value → Bool
  | absent, absent => true
  | uuid a, uuid b => a = b
  | moment d c, moment d' c' => Calendar.sameMoment d c d' c'
  | day a, day b => a = b
  | clock a, clock b => Calendar.Clock.same a b
  | duration a, duration b => a = b
  | zone a, zone b => a = b
  | tuple as, tuple bs => sameKeys as bs
  | complex a b, complex c d =>
    agree (quantityOfBinary? a) (quantityOfBinary? c) && agree (quantityOfBinary? b) (quantityOfBinary? d)
  | a, b =>
    agree (quantity? a) (quantity? b) || agree (textContent? a) (textContent? b) ||
      agree (octetContent? a) (octetContent? b) || sameMember a b
where
  /-- Are two sequences pairwise one key? -/
  sameKeys : List Value → List Value → Bool
    | [], [] => true
    | a :: as, b :: bs => sameKey a b && sameKeys as bs
    | _, _ => false
  /-- Are both values the one member of an enumeration? -/
  sameMember : Value → Value → Bool
    | member owner kind name value, member owner' kind' name' value' =>
      alike (member owner kind name value) (member owner' kind' name' value')
    | _, _ => false

/-- Puts an entry into a mapping: a key that is there keeps its place and its first form and takes the new
value, another goes to the end. -/
def putEntry (key value : Value) : List (Value × Value) → List (Value × Value)
  | [] => [(key, value)]
  | (k, v) :: entries => if sameKey k key then (k, value) :: entries else (k, v) :: putEntry key value entries

def entriesOf (pairs : List (Value × Value)) : List (Value × Value) :=
  pairs.foldl (fun entries pair => putEntry pair.1 pair.2 entries) []

end RouteTemplate.Value
