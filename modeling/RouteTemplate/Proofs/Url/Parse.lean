import RouteTemplate.Proofs.Percent
import RouteTemplate.Proofs.Text.Cut
import RouteTemplate.Url.Basic

set_option autoImplicit false

namespace RouteTemplate.Url

structure Pieces where
  scheme : Text
  authority : Text
  path : Text
  query : Option Text
  fragment : Option Text

def pieces (t : Text) : Pieces :=
  let (scheme, rest) := splitScheme t
  let (authority, rest) := splitAuthority rest
  let (rest, fragment) := cutOptional '#' rest
  let (path, query) := cutOptional '?' rest
  ⟨scheme, authority, path, query, fragment⟩

def hasAuthority (u : Url) : Bool := !u.userinfo.isEmpty || !u.host.isEmpty || u.port.isSome

structure Normalizes (p : Pieces) (u : Url) : Prop where
  scheme : u.scheme = p.scheme.asciiLower
  userinfo : escaped keepInUserinfo (splitHost p.authority).1 = .ok u.userinfo
  host : normalHost (splitHost p.authority).2.1 = .ok u.host
  port : normalPort (splitHost p.authority).2.2 p.scheme = .ok u.port
  fits : checkPath p.path (!u.scheme.isEmpty) u.hasAuthority = .ok ()
  path : escaped keepInPath (if !u.scheme.isEmpty || u.hasAuthority then normalPath p.path else p.path) = .ok u.path
  query : escapedOptional keepInQuery p.query = .ok u.query
  fragment : escapedOptional keepInFragment p.fragment = .ok u.fragment

theorem parse_ok {t : Text} {u : Url} (done : parse t = .ok u) : Normalizes (pieces t) u := by
  unfold parse at done
  dsimp only at done
  split at done
  · cases done
  · split at done
    · cases done
    · obtain ⟨userinfo, userinfoRead, done⟩ := bind_eq_ok.mp done
      obtain ⟨host, hostRead, done⟩ := bind_eq_ok.mp done
      obtain ⟨port, portRead, done⟩ := bind_eq_ok.mp done
      obtain ⟨_, fits, done⟩ := bind_eq_ok.mp done
      obtain ⟨path, pathRead, done⟩ := bind_eq_ok.mp done
      obtain ⟨query, queryRead, done⟩ := bind_eq_ok.mp done
      obtain ⟨fragment, fragmentRead, done⟩ := bind_eq_ok.mp done
      cases done
      exact ⟨rfl, userinfoRead, hostRead, portRead, fits, pathRead, queryRead, fragmentRead⟩

/-- A text that is neither too long nor holds a control character is a URL whose parts are the normal forms of its
pieces. -/
theorem parse_of_normalizes {t : Text} {u : Url} (short : t.length ≤ maxLength) (printable : firstControl? t = none)
    (read : Normalizes (pieces t) u) : parse t = .ok u := by
  obtain ⟨scheme, userinfo, host, port, path, query, fragment⟩ := u
  obtain ⟨same, userinfoRead, hostRead, portRead, fits, pathRead, queryRead, fragmentRead⟩ := read
  dsimp only at same
  subst same
  unfold parse
  rw [if_neg (Nat.not_lt.mpr short), printable]
  refine bind_eq_ok.mpr ⟨userinfo, userinfoRead, ?_⟩
  refine bind_eq_ok.mpr ⟨host, hostRead, ?_⟩
  refine bind_eq_ok.mpr ⟨port, portRead, ?_⟩
  refine bind_eq_ok.mpr ⟨(), fits, ?_⟩
  refine bind_eq_ok.mpr ⟨path, pathRead, ?_⟩
  refine bind_eq_ok.mpr ⟨query, queryRead, ?_⟩
  exact bind_eq_ok.mpr ⟨fragment, fragmentRead, rfl⟩

theorem length_le_of_parse_ok {t : Text} {u : Url} (done : parse t = .ok u) : t.length ≤ maxLength := by
  unfold parse at done
  dsimp only at done
  split at done
  · cases done
  · next short => exact Nat.not_lt.mp short

theorem escaped_eq_self {keep : CodePoint → Bool} {t : Text}
    (kept : ∀ c ∈ t, Percent.isUnreserved c = true ∨ keep c = true) : escaped keep t = .ok t := by
  rw [escaped, Percent.encodeAround_eq_self kept]

/-- Around what is kept there are the characters of components alone. -/
theorem mem_escaped {keep : CodePoint → Bool} {t written : Text} (done : escaped keep t = .ok written) {c : CodePoint}
    (inside : c ∈ written) : Percent.isComponentPoint c = true ∨ keep c = true := by
  unfold escaped at done
  split at done
  · next encoded =>
    cases done
    exact Percent.mem_encodeAround encoded inside
  · cases done

theorem escapedOptional_some {keep : CodePoint → Bool} {part : Option Text} {written : Text}
    (done : escapedOptional keep part = .ok (some written)) : ∃ t, part = some t ∧ escaped keep t = .ok written := by
  cases part with
  | none => cases done
  | some t =>
    obtain ⟨_, own, same⟩ := map_eq_ok.mp done
    cases same
    exact ⟨t, rfl, own⟩

section Cut

variable (separator : CodePoint) (t : Text)

/-- Nothing is lost at a cut. -/
theorem cutOptional_append :
    (cutOptional separator t).1 ++ ((cutOptional separator t).2.elim [] fun after => separator :: after) = t := by
  unfold cutOptional
  split
  · exact List.append_nil t
  · next cut => exact (Text.splitFirst_append cut).1

theorem not_mem_cutOptional : separator ∉ (cutOptional separator t).1 := by
  unfold cutOptional
  split
  · next free => exact Text.splitFirst_eq_none_iff.mp free
  · next cut => exact (Text.splitFirst_append cut).2

variable {separator t}

theorem cutOptional_of_not_mem (free : separator ∉ t) : cutOptional separator t = (t, none) := by
  rw [cutOptional, Text.splitFirst_eq_none_iff.mpr free]

theorem cutOptional_append_elim (free : separator ∉ t) (after : Option Text) :
    cutOptional separator (t ++ after.elim [] fun after => separator :: after) = (t, after) := by
  cases after with
  | none => rw [Option.elim_none, List.append_nil, cutOptional_of_not_mem free]
  | some after => rw [cutOptional, Option.elim_some, Text.splitFirst_of_not_mem free]

end Cut

end RouteTemplate.Url
