import RouteTemplate.Proofs.Text.Lowercase
import RouteTemplate.Proofs.Url.Parse

set_option autoImplicit false

namespace RouteTemplate.Url

open Percent (isUnreserved isComponentPoint)

def endsAuthority (c : CodePoint) : Bool := c = '/' || c = '?' || c = '#'

def isHostPoint (c : CodePoint) : Bool := isUnreserved c || keepInHost c

/-- The normal forms of hosts: nothing, an address of either kind, a name. -/
inductive HostForm : Text → Prop
  | blank : HostForm []
  | ipv4 {host : Text} : looksIpv4 host = true → isIpv4 host = true → HostForm host
  | ipv6 {host : Text} : isIpv6 host = true →
      (∀ c ∈ host, endsAuthority c = false ∧ c ≠ CodePoint.ofChar '@') → HostForm host
  | name {host : Text} : (∀ c ∈ host, isHostPoint c = true) → HostForm host

theorem ne_of_isHostPoint {c d : CodePoint} (point : isHostPoint c = true) (other : isHostPoint d = false) :
    c ≠ d := by
  rintro rfl
  exact Bool.false_ne_true (other.symm.trans point)

theorem isHostPoint_of_mem_escaped {t host : Text} (done : escaped keepInHost t = .ok host) {c : CodePoint}
    (inside : c ∈ host) : isHostPoint c = true := by
  rcases mem_escaped done inside with point | kept
  · rcases Bool.or_eq_true_iff.mp point with unreserved | percent
    · simp [isHostPoint, unreserved]
    · rw [of_decide_eq_true percent]
      rfl
  · simp [isHostPoint, kept]

theorem normalHost_form {text host : Text}
    (free : ∀ c ∈ text, endsAuthority c = false ∧ c ≠ CodePoint.ofChar '@') (done : normalHost text = .ok host) :
    HostForm host := by
  unfold normalHost at done
  split at done
  · cases done
    exact .blank
  · split at done
    · next looks =>
      split at done
      · next fits =>
        cases done
        exact .ipv4 looks fits
      · cases done
    · split at done
      · split at done
        · next fits =>
          cases done
          exact .ipv6 fits fun c inside => free c (List.mem_of_mem_tail (List.dropLast_subset _ inside))
        · cases done
      · split at done
        · exact .name fun c inside => isHostPoint_of_mem_escaped done inside
        · cases done

theorem isHostPoint_of_looksIpv4 {host : Text} (looks : looksIpv4 host = true) {c : CodePoint} (inside : c ∈ host) :
    isHostPoint c = true := by
  simp only [looksIpv4, Bool.and_eq_true, List.all_eq_true] at looks
  rcases Text.mem_splitOn '.' inside with rfl | ⟨row, member, found⟩
  · rfl
  · have digit := (looks.2 row member).2 c found
    simp [isHostPoint, isUnreserved, digit]

theorem colon_mem_of_isIpv6 {host : Text} (fits : isIpv6 host = true) : CodePoint.ofChar ':' ∈ host := by
  have address {t : Text} (whole : isIpv6Address t = true) : CodePoint.ofChar ':' ∈ t := by
    apply Classical.byContradiction
    intro free
    simp [isIpv6Address, Text.splitOn_of_not_mem free] at whole
  unfold isIpv6 at fits
  split at fits
  · simp only [Bool.and_eq_true] at fits
    exact address fits.1
  · next before zone cut =>
    simp only [Bool.and_eq_true] at fits
    obtain ⟨rfl, _⟩ := Text.splitFirst_append cut
    exact List.mem_append_left _ (address fits.2)

namespace HostForm

variable {host : Text}

/-- But for addresses in brackets, hosts are written in the characters of names. -/
theorem points (form : HostForm host) (bare : CodePoint.ofChar ':' ∉ host) : ∀ c ∈ host, isHostPoint c = true := by
  intro c inside
  cases form with
  | blank => cases inside
  | ipv4 looks _ => exact isHostPoint_of_looksIpv4 looks inside
  | ipv6 fits _ => exact absurd (colon_mem_of_isIpv6 fits) bare
  | name points => exact points c inside

theorem isIpv6_of_colon (form : HostForm host) (colon : CodePoint.ofChar ':' ∈ host) : isIpv6 host = true := by
  have point : isHostPoint (CodePoint.ofChar ':') = false := by decide
  cases form with
  | blank => cases colon
  | ipv4 looks _ => exact absurd (isHostPoint_of_looksIpv4 looks colon) (by simp [point])
  | ipv6 fits _ => exact fits
  | name points => exact absurd (points _ colon) (by simp [point])

theorem free (form : HostForm host) : ∀ c ∈ host, endsAuthority c = false ∧ c ≠ CodePoint.ofChar '@' := by
  have apart {c : CodePoint} (point : isHostPoint c = true) : endsAuthority c = false ∧ c ≠ CodePoint.ofChar '@' := by
    have slash := ne_of_isHostPoint point (d := CodePoint.ofChar '/') (by decide)
    have question := ne_of_isHostPoint point (d := CodePoint.ofChar '?') (by decide)
    have number := ne_of_isHostPoint point (d := CodePoint.ofChar '#') (by decide)
    exact ⟨by simp [endsAuthority, slash, question, number], ne_of_isHostPoint point (by decide)⟩
  intro c inside
  cases form with
  | blank => cases inside
  | ipv4 looks _ => exact apart (isHostPoint_of_looksIpv4 looks inside)
  | ipv6 _ free => exact free c inside
  | name points => exact apart (points c inside)

end HostForm

def shownHost (host : Text) : Text := if host.contains ':' then List.flatten ["[", host, "]"] else host

theorem shownHost_of_colon {host : Text} (colon : CodePoint.ofChar ':' ∈ host) :
    shownHost host = CodePoint.ofChar '[' :: (host ++ [CodePoint.ofChar ']']) := by
  rw [shownHost, if_pos (List.contains_iff_mem.mpr colon)]
  simp [Text.ofString]

theorem shownHost_of_bare {host : Text} (bare : CodePoint.ofChar ':' ∉ host) : shownHost host = host := by
  rw [shownHost, if_neg (mt List.contains_iff_mem.mp bare)]

theorem mem_shownHost {host : Text} (form : HostForm host) {c : CodePoint} (inside : c ∈ shownHost host) :
    endsAuthority c = false ∧ c ≠ CodePoint.ofChar '@' := by
  by_cases colon : CodePoint.ofChar ':' ∈ host
  · rw [shownHost_of_colon colon, List.mem_cons, List.mem_append, List.mem_singleton] at inside
    rcases inside with rfl | member | rfl
    · decide
    · exact form.free c member
    · decide
  · rw [shownHost_of_bare colon] at inside
    exact form.free c inside

/-- The address is taken out of its brackets once more. -/
theorem normalHost_brackets {host : Text} (fits : isIpv6 host = true) :
    normalHost (CodePoint.ofChar '[' :: (host ++ [CodePoint.ofChar ']'])) = .ok host := by
  have looks : looksIpv4 (CodePoint.ofChar '[' :: (host ++ [CodePoint.ofChar ']'])) = false := by
    rw [← Bool.not_eq_true]
    intro looks
    exact absurd (isHostPoint_of_looksIpv4 looks (c := CodePoint.ofChar '[') (by simp)) (by decide)
  have last : (CodePoint.ofChar '[' :: (host ++ [CodePoint.ofChar ']'])).getLast? = some (CodePoint.ofChar ']') := by
    rw [List.getLast?_cons, List.getLast?_concat, Option.getD_some]
  simp [normalHost, looks, last, fits]

theorem isHostPoint_asciiLower {c : CodePoint} (point : isHostPoint c = true) : isHostPoint c.asciiLower = true := by
  cases letter : c.isAsciiLetter with
  | false => rwa [CodePoint.asciiLower_of_not_letter letter]
  | true =>
    have lower : c.asciiLower.isAsciiLetter = true := by rw [CodePoint.isAsciiLetter_asciiLower, letter]
    simp [isHostPoint, isUnreserved, lower]

/-- A host written in the characters of names is lower-cased when it is read once more, and no more than that. -/
theorem normalHost_points {host other : Text} (points : ∀ c ∈ host, isHostPoint c = true)
    (again : normalHost host = .ok other) : other = host ∨ other = host.asciiLower := by
  unfold normalHost at again
  split at again
  · next blank =>
    cases again
    exact .inl (List.isEmpty_iff.mp blank).symm
  · split at again
    · split at again
      · cases again
        exact .inl rfl
      · cases again
    · split at again
      · next bracket =>
        simp only [Bool.and_eq_true, decide_eq_true_eq] at bracket
        have first := points _ (List.mem_of_mem_head? bracket.1.2)
        exact absurd first (by decide)
      · split at again
        · next ascii =>
          rw [Text.lower_of_ascii (List.all_eq_true.mp ascii), escaped_eq_self] at again
          · cases again
            exact .inr rfl
          · intro c inside
            obtain ⟨d, member, rfl⟩ := List.mem_map.mp inside
            exact Bool.or_eq_true_iff.mp (isHostPoint_asciiLower (points d member))
        · cases again

/-- Written and read once more, a host is the same or is lower-cased. -/
theorem normalHost_shownHost {host other : Text} (form : HostForm host)
    (again : normalHost (shownHost host) = .ok other) : other = host ∨ other = host.asciiLower := by
  by_cases colon : CodePoint.ofChar ':' ∈ host
  · rw [shownHost_of_colon colon, normalHost_brackets (form.isIpv6_of_colon colon)] at again
    cases again
    exact .inl rfl
  · rw [shownHost_of_bare colon] at again
    exact normalHost_points (form.points colon) again

end RouteTemplate.Url
