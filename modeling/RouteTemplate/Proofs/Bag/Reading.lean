import RouteTemplate.Bag.Accessors
import RouteTemplate.Proofs.Except

set_option autoImplicit false

namespace RouteTemplate

/-- An error of reading a value: the attribute is not there, or computing it fails. -/
def ResolveError.OfReading (e : ResolveError) : Prop :=
  (∃ owner name, e = .noAttribute owner name) ∨ ∃ kind message, e = .raised kind message

theorem Object.ofReading_outside {o : Object} {name : Text} {e : ResolveError}
    (failed : (match Table.get? name o.extras with
      | some v => (.ok v : Except ResolveError Value)
      | none => .error (o.noAttribute name)) = .error e) : e.OfReading := by
  split at failed
  · cases failed
  · cases failed
    exact .inl ⟨_, _, rfl⟩

theorem Object.ofReading_attributeWithin {o : Object} {fuel : Nat} {name : Text} {e : ResolveError}
    (failed : o.attributeWithin fuel name = .error e) : e.OfReading := by
  induction fuel generalizing name e with
  | zero =>
    cases failed
    exact .inr ⟨_, _, rfl⟩
  | succ fuel ih =>
    unfold attributeWithin at failed
    dsimp only at failed
    split at failed
    · exact ofReading_outside failed
    · cases failed
    · next e' inside =>
      split at failed
      · exact ofReading_outside failed
      · cases failed
        split at inside
        · cases inside
        · cases inside
          exact .inr ⟨_, _, rfl⟩
        · exact ih (Option.some.inj inside)
        · simp at inside
        · simp at inside
        · cases inside
        · simp at inside

theorem ofReading_inherited {above : Inherited} {v : Value} {name : Text} {e : ResolveError}
    (failed : above.read v name = .error e) : e.OfReading := by
  unfold Inherited.read at failed
  split at failed
  · cases failed
  · cases failed
  · cases failed
    exact .inr ⟨_, _, rfl⟩
  · cases failed
    exact .inl ⟨_, _, rfl⟩

theorem ofReading_readOfClass {c : Class} {above : Inherited} {name : Text} {e : ResolveError}
    (failed : c.readAttribute above name = .error e) : e.OfReading := by
  unfold Class.readAttribute at failed
  dsimp only at failed
  split at failed
  · cases failed
  · cases failed
  · cases failed
  · cases failed
  · split at failed
    · cases failed
    · split at failed
      · cases failed
      · cases failed
        exact .inl ⟨_, _, rfl⟩

theorem ofReading_readAttribute {bag : Bag} {name : Text} {e : ResolveError} (failed : bag.readAttribute name = .error e) :
    e.OfReading := by
  unfold Bag.readAttribute at failed
  split at failed
  · exact Object.ofReading_attributeWithin failed
  · split at failed
    · cases failed
    · cases failed
      exact .inl ⟨_, _, rfl⟩
  · exact ofReading_readOfClass failed
  · exact ofReading_inherited failed
  · cases failed
    exact .inl ⟨_, _, rfl⟩

theorem ofReading_follow {above : Inherited} {v : Value} {names : List Text} {e : ResolveError}
    (failed : Bag.follow above v names = .error e) : e.OfReading := by
  induction names generalizing v with
  | nil => cases failed
  | cons name names ih =>
    rcases bind_eq_error.mp failed with here | ⟨part, _, later⟩
    · exact ofReading_inherited here
    · exact ih later

/-- Reading fails because of what the bag is, whatever template asks. -/
theorem ofReading_read {bag : Bag} {reader : Reader} {e : ResolveError} (failed : bag.read reader = .error e) :
    e.OfReading := by
  unfold Bag.read at failed
  split at failed
  · split at failed
    all_goals cases failed
  · split at failed
    · cases failed
    · next other =>
      split at failed
      · cases failed
      · cases failed
        exact ofReading_readAttribute other
  · cases failed
  · rcases bind_eq_error.mp failed with first | ⟨v, _, later⟩
    · exact ofReading_readAttribute first
    · exact ofReading_follow later

end RouteTemplate
