import RouteTemplate.Proofs.Url.Authority
import RouteTemplate.Url.Join

set_option autoImplicit false

namespace RouteTemplate.Url

/-- The text starts with a slash and no second one. -/
def Rooted (t : Text) : Prop :=
  ∃ rest : Text, t = CodePoint.ofChar '/' :: rest ∧ rest.head? ≠ some (CodePoint.ofChar '/')

namespace Rooted

variable {t : Text}

theorem append (rooted : Rooted t) {more : Text} (apart : more.head? ≠ some (CodePoint.ofChar '/')) :
    Rooted (t ++ more) := by
  obtain ⟨rest, rfl, single⟩ := rooted
  refine ⟨rest ++ more, rfl, ?_⟩
  cases rest with
  | nil => exact apart
  | cons c rest => exact single

/-- What stands before a separator is rooted as the whole is. -/
theorem cutOptional (rooted : Rooted t) (separator : CodePoint) (other : separator ≠ CodePoint.ofChar '/') :
    Rooted (cutOptional separator t).1 := by
  unfold Url.cutOptional
  split
  · exact rooted
  · next before after cut =>
    obtain ⟨rest, rfl, single⟩ := rooted
    obtain ⟨whole, _⟩ := Text.splitFirst_append cut
    cases before with
    | nil => exact absurd (List.cons.inj whole).1 other
    | cons c before =>
      obtain ⟨rfl, behind⟩ := List.cons.inj whole
      refine ⟨before, rfl, ?_⟩
      cases before with
      | nil => simp
      | cons d before =>
        rw [← behind] at single
        exact single

theorem splitScheme (rooted : Rooted t) : splitScheme t = ([], t) := by
  obtain ⟨rest, rfl, _⟩ := rooted
  rfl

theorem startsWith_slashes (rooted : Rooted t) : t.startsWith "//" = false := by
  obtain ⟨rest, rfl, single⟩ := rooted
  have slashes : Text.ofString "//" = [CodePoint.ofChar '/', CodePoint.ofChar '/'] := rfl
  rw [slashes]
  cases rest with
  | nil => rfl
  | cons c rest =>
    have other : CodePoint.ofChar '/' ≠ c := by
      rintro rfl
      exact single rfl
    simp [Text.startsWith, Text.afterStart?, other]

theorem splitAuthority (rooted : Rooted t) : splitAuthority t = ([], t) := by
  rw [Url.splitAuthority, Text.afterStart?_of_startsWith rooted.startsWith_slashes]

theorem escaped (rooted : Rooted t) {written : Text} (done : escaped keepInPath t = .ok written) : Rooted written := by
  obtain ⟨rest, rfl, single⟩ := rooted
  unfold Url.escaped at done
  split at done
  · next encoded =>
    cases done
    obtain ⟨first, rest', own, later, rfl⟩ := Percent.encodeAround_cons_ok encoded
    rw [if_pos (by decide)] at own
    rw [own]
    refine ⟨rest', rfl, ?_⟩
    cases rest with
    | nil =>
      cases later
      simp
    | cons c rest =>
      intro slash
      have other : c ≠ CodePoint.ofChar '/' := by
        rintro rfl
        exact single rfl
      obtain ⟨second, more, own, _, rfl⟩ := Percent.encodeAround_cons_ok later
      split at own
      · rw [own] at slash
        exact other (by simpa using slash)
      · obtain ⟨d, second, rfl⟩ := List.exists_cons_of_ne_nil (Percent.encodeText_cons_ne_nil own)
        have same : d = CodePoint.ofChar '/' := Option.some.inj slash
        have point := Percent.isComponentPoint_of_mem_encodeText own List.mem_cons_self
        rw [same] at point
        exact absurd point (by decide)
  · cases done

theorem pieces (rooted : Rooted t) :
    (pieces t).scheme = [] ∧ (pieces t).authority = [] ∧ Rooted (pieces t).path := by
  have path := (rooted.cutOptional '#' (by decide)).cutOptional '?' (by decide)
  simp only [Url.pieces, rooted.splitScheme, rooted.splitAuthority]
  exact ⟨trivial, trivial, path⟩

end Rooted

def behindPath (u : Url) : Text :=
  (u.query.elim [] fun query => CodePoint.ofChar '?' :: query) ++
    u.fragment.elim [] fun fragment => CodePoint.ofChar '#' :: fragment

theorem head?_behindPath (u : Url) : ∀ c ∈ u.behindPath.head?, c = CodePoint.ofChar '?' ∨ c = CodePoint.ofChar '#' := by
  intro c first
  cases query : u.query with
  | some text =>
    left
    simpa [behindPath, query, eq_comm] using first
  | none =>
    cases fragment : u.fragment with
    | some text =>
      right
      simpa [behindPath, query, fragment, eq_comm] using first
    | none => simp [behindPath, query, fragment] at first

/-- A rooted reference is read as a URL without scheme and authority, and its text is rooted again. -/
theorem Normalizes.rooted {t : Text} {r : Url} (rooted : Rooted t) (read : Normalizes (pieces t) r) :
    Rooted r.text := by
  obtain ⟨scheme, authority, path⟩ := rooted.pieces
  have noScheme : r.scheme = [] := by
    rw [read.scheme, scheme]
    rfl
  have userinfoRead := read.userinfo
  have hostRead := read.host
  have portRead := read.port
  rw [authority] at userinfoRead hostRead portRead
  have noUserinfo : r.userinfo = [] := (Except.ok.inj userinfoRead).symm
  have noHost : r.host = [] := (Except.ok.inj hostRead).symm
  have noPort : r.port = none := (Except.ok.inj portRead).symm
  have pathRead := read.path
  simp only [hasAuthority, noScheme, noUserinfo, noHost, noPort, List.isEmpty_nil, Bool.not_true, Bool.or_false,
    Option.isSome_none, Bool.false_eq_true, ↓reduceIte] at pathRead
  have whole : r.text = r.path ++ r.behindPath := by
    have nothing : Text.ofString "" = [] := rfl
    simp [Url.text, authorityText, behindPath, nothing, noScheme, noUserinfo, noHost, noPort]
  rw [whole]
  apply (path.escaped pathRead).append
  intro slash
  have mark := head?_behindPath r _ slash
  revert mark
  decide

end RouteTemplate.Url
