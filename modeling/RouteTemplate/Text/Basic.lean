/-!
Texts as lists of code points. A code point may be a lone surrogate, so a text holds everything that
can reach a route template or a parameter value; which texts have an octet form is settled in
`RouteTemplate.Text.Utf8`. The cuts defined here all come with the fact that nothing is lost.
-/

set_option autoImplicit false

namespace RouteTemplate

/-- A Unicode code point, surrogates included. -/
abbrev CodePoint := Fin 0x110000

namespace CodePoint

-- The core library's zero, also where other instances are in scope.
attribute [local instance (high)] Zero.ofOfNat0

/-- There are code points, so numbers can be brought into their range. -/
instance instNeZeroBound : NeZero (0x110000 : Nat) := ⟨by decide⟩

/-- The code point of a character, which is never a surrogate. -/
def ofChar (c : Char) : CodePoint :=
  ⟨c.toNat, by
    have valid := c.valid
    have same : c.val.toNat = c.toNat := rfl
    simp only [UInt32.isValidChar, Nat.isValidChar] at valid
    rw [same] at valid
    omega⟩

instance : Coe Char CodePoint := ⟨ofChar⟩

theorem ofChar_injective {c d : Char} (same : ofChar c = ofChar d) : c = d := by
  have values : (ofChar c).val = (ofChar d).val := by rw [same]
  exact Char.ext (UInt32.toNat_inj.mp values)

@[simp] theorem ofChar_inj {c d : Char} : ofChar c = ofChar d ↔ c = d :=
  ⟨ofChar_injective, congrArg ofChar⟩

/-- Surrogates are reserved for 16-bit pairs and have no octet form of their own. -/
def isSurrogate (c : CodePoint) : Bool := 0xD800 ≤ c.val && c.val ≤ 0xDFFF

def isAscii (c : CodePoint) : Bool := c.val < 0x80

def isAsciiLetter (c : CodePoint) : Bool :=
  (0x41 ≤ c.val && c.val ≤ 0x5A) || (0x61 ≤ c.val && c.val ≤ 0x7A)

def isAsciiDigit (c : CodePoint) : Bool := 0x30 ≤ c.val && c.val ≤ 0x39

def hexValue? (c : CodePoint) : Option Nat :=
  if c.isAsciiDigit then some (c.val - 0x30)
  else if 0x41 ≤ c.val && c.val ≤ 0x46 then some (c.val - 0x37)
  else if 0x61 ≤ c.val && c.val ≤ 0x66 then some (c.val - 0x57)
  else none

/-- A to Z become a to z; all else stays. -/
def asciiLower (c : CodePoint) : CodePoint :=
  if 0x41 ≤ c.val && c.val ≤ 0x5A then Fin.ofNat _ (c.val + 0x20) else c

def upperHexDigit (n : Nat) : CodePoint := Fin.ofNat _ (if n < 10 then 0x30 + n else 0x37 + n)

def lowerHexDigit (n : Nat) : CodePoint := Fin.ofNat _ (if n < 10 then 0x30 + n else 0x57 + n)

end CodePoint

/-- A sequence of code points. -/
abbrev Text := List CodePoint

namespace Text

/-- Texts are compared by what they hold. -/
instance instLawfulBEq : LawfulBEq Text := inferInstance

def ofString (s : String) : Text := s.toList.map CodePoint.ofChar

instance : Coe String Text := ⟨ofString⟩

def ofNat (n : Nat) : Text := (Nat.toDigits 10 n).map CodePoint.ofChar

def ofInt : Int → Text
  | .ofNat n => ofNat n
  | .negSucc n => '-' :: ofNat (n + 1)

/-- The decimal numeral, filled with zeros on the left to at least `width` digits. -/
def padded (width n : Nat) : Text :=
  let digits := ofNat n
  List.replicate (width - digits.length) (CodePoint.ofChar '0') ++ digits

/-- The lower-case hexadecimal numeral of exactly `width` digits of a number below `16 ^ width`. -/
def hex : (width : Nat) → Nat → Text
  | 0, _ => []
  | width + 1, n => hex width (n / 16) ++ [CodePoint.lowerHexDigit (n % 16)]

/-- Lower-casing of the letters A to Z alone. -/
def asciiLower (t : Text) : Text := t.map CodePoint.asciiLower

/-- Cuts at the first separator; `none` when there is none. -/
def splitFirst (separator : CodePoint) : Text → Option (Text × Text)
  | [] => none
  | c :: rest =>
    if c = separator then some ([], rest)
    else (splitFirst separator rest).map fun (left, right) => (c :: left, right)

/-- Cuts at the last separator; `none` when there is none. -/
def splitLast (separator : CodePoint) : Text → Option (Text × Text)
  | [] => none
  | c :: rest =>
    match splitLast separator rest with
    | some (left, right) => some (c :: left, right)
    | none => if c = separator then some ([], rest) else none

/-- The pieces between the separators: one more than there are separators. -/
def splitOn (separator : CodePoint) : Text → List Text
  | [] => [[]]
  | c :: rest =>
    if c = separator then [] :: splitOn separator rest
    else
      match splitOn separator rest with
      | [] => [[c]]
      | piece :: pieces => (c :: piece) :: pieces

def joinWith (separator : Text) : List Text → Text
  | [] => []
  | [piece] => piece
  | piece :: next :: pieces => piece ++ separator ++ joinWith separator (next :: pieces)

/-- What follows a given beginning; `none` when the text begins otherwise. -/
def afterStart? : (start : Text) → Text → Option Text
  | [], t => some t
  | _ :: _, [] => none
  | s :: start, c :: rest => if s = c then afterStart? start rest else none

def startsWith (t start : Text) : Bool := (afterStart? start t).isSome

def endsWith (t ending : Text) : Bool := startsWith t.reverse ending.reverse

/-- The longest beginning and the rest, cut where `keep` first fails. -/
def span (keep : CodePoint → Bool) : Text → Text × Text
  | [] => ([], [])
  | c :: rest =>
    if keep c then
      let (kept, left) := span keep rest
      (c :: kept, left)
    else ([], c :: rest)

theorem splitFirst_append {separator : CodePoint} {t left right : Text}
    (cut : splitFirst separator t = some (left, right)) :
    left ++ separator :: right = t ∧ separator ∉ left := by
  induction t generalizing left with
  | nil => simp [splitFirst] at cut
  | cons c rest ih =>
    unfold splitFirst at cut
    split at cut
    · next same =>
      cases cut
      simp [same]
    · next different =>
      obtain ⟨⟨before, after⟩, inner, outer⟩ := Option.map_eq_some_iff.mp cut
      cases outer
      have := ih inner
      simp [this, Ne.symm different]

theorem splitFirst_eq_none_iff {separator : CodePoint} {t : Text} :
    splitFirst separator t = none ↔ separator ∉ t := by
  induction t with
  | nil => simp [splitFirst]
  | cons c rest ih =>
    unfold splitFirst
    split
    · next same => simp [same]
    · next different => simp [ih, Ne.symm different]

theorem splitOn_ne_nil (separator : CodePoint) (t : Text) : splitOn separator t ≠ [] := by
  cases t with
  | nil => simp [splitOn]
  | cons c rest =>
    unfold splitOn
    split
    · simp
    · split <;> simp

theorem joinWith_splitOn (separator : CodePoint) (t : Text) :
    joinWith [separator] (splitOn separator t) = t := by
  induction t with
  | nil => rfl
  | cons c rest ih =>
    unfold splitOn
    have nonempty := splitOn_ne_nil separator rest
    generalize splitOn separator rest = pieces at ih nonempty
    cases pieces with
    | nil => exact absurd rfl nonempty
    | cons piece pieces =>
      split
      · next same => simp [joinWith, ih, same]
      · cases pieces with
        | nil =>
          simp only [joinWith] at ih ⊢
          rw [ih]
        | cons next pieces =>
          simp only [joinWith, List.cons_append] at ih ⊢
          rw [ih]

theorem span_append (keep : CodePoint → Bool) (t : Text) :
    (span keep t).1 ++ (span keep t).2 = t := by
  induction t with
  | nil => rfl
  | cons c rest ih =>
    unfold span
    split
    · simpa using ih
    · rfl

end Text

end RouteTemplate
