import RouteTemplate.Decimal.Literal
import RouteTemplate.Text.Blank
import RouteTemplate.Text.DecimalDigit

set_option autoImplicit false

namespace RouteTemplate.Decimal

def asciiDigits (t : Text) : Text := t.map fun c => (c.digitValue?).elim c fun d => Fin.ofNat _ (0x30 + d)

/-- Takes out underscores, each of which has to stand between two digits. -/
def joinDigits? : (afterDigit : Bool) → Text → Option Text
  | _, [] => some []
  | afterDigit, c :: rest =>
    if c = '_' then
      if afterDigit && rest.head?.elim false CodePoint.isAsciiDigit then joinDigits? false rest else none
    else (joinDigits? c.isAsciiDigit rest).map (c :: ·)

/-- The plain form of a numeral; none where an underscore stands amiss. -/
def plain? (t : Text) : Option Text := joinDigits? false (asciiDigits t.trim)

def plainAnywhere (t : Text) : Text := (asciiDigits t.trim).filter fun (c : CodePoint) => !(c = '_')

def readInteger? (t : Text) : Option Int := (plain? t).bind readInt?

theorem joinDigits?_eq_self {afterDigit : Bool} {t : Text} (bare : ∀ c ∈ t, c ≠ CodePoint.ofChar '_') :
    joinDigits? afterDigit t = some t := by
  induction t generalizing afterDigit with
  | nil => rfl
  | cons c rest ih =>
    have head : ¬ c = CodePoint.ofChar '_' := bare c (by simp)
    have tail : ∀ d ∈ rest, d ≠ CodePoint.ofChar '_' := fun d found => bare d (by simp [found])
    simp [joinDigits?, head, ih tail]

end RouteTemplate.Decimal
