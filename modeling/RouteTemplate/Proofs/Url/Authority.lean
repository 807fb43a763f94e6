import RouteTemplate.Proofs.Decimal.Numeral
import RouteTemplate.Proofs.Url.Host

set_option autoImplicit false

namespace RouteTemplate.Url

open Percent (isComponentPoint)

/-- The port that is asked: the one given or the default of the scheme. -/
def effectivePort (u : Url) : Option Int := u.port.or (defaultPort? u.scheme)

/-- Two URLs name one server. Letters of a host are the same in either case. -/
structure SameServer (u v : Url) : Prop where
  scheme : u.scheme = v.scheme
  host : u.host.asciiLower = v.host.asciiLower
  port : u.effectivePort = v.effectivePort

/-- The server of a URL as it is read from the text of another: the host may have been lower-cased, and the default port
of the scheme is left out. -/
structure RereadsServer (u v : Url) : Prop where
  scheme : u.scheme = v.scheme
  host : u.host = v.host ∨ u.host = v.host.asciiLower
  port : u.port = if v.port = defaultPort? v.scheme then none else v.port

theorem RereadsServer.sameServer {u v : Url} (reread : u.RereadsServer v) : u.SameServer v := by
  refine ⟨reread.scheme, ?_, ?_⟩
  · rcases reread.host with same | lowered
    · rw [same]
    · rw [lowered, Text.asciiLower_asciiLower]
  · rw [effectivePort, effectivePort, reread.scheme, reread.port]
    split
    · next default => rw [default, Option.none_or, Option.or_self]
    · rfl

theorem splitHost_of_cut {authority userinfo rest host after : Text}
    (front : (Text.splitLast '@' authority).getD ([], authority) = (userinfo, rest))
    (back : cutHost rest = (host, after)) : splitHost authority = (userinfo, host, cutPort after) := by
  rw [splitHost, front]
  dsimp only
  rw [back]

theorem mem_cutHost {rest : Text} {c : CodePoint} (inside : c ∈ (cutHost rest).1) : c ∈ rest := by
  have plain : c ∈ (rest.span fun c => !decide (c = CodePoint.ofChar ':')).1 → c ∈ rest := by
    intro kept
    rw [← Text.span_append (fun c => !decide (c = CodePoint.ofChar ':')) rest]
    exact List.mem_append_left _ kept
  unfold cutHost at inside
  split at inside
  · next bracket _ cut =>
    split at inside
    · obtain ⟨whole, _⟩ := Text.splitLast_append cut
      rw [← whole]
      rcases List.mem_append.mp inside with here | close
      · exact List.mem_append_left _ here
      · rw [List.mem_singleton.mp close]
        exact List.mem_append_right _ List.mem_cons_self
    · exact plain inside
  · exact plain inside

theorem mem_splitHost {authority : Text} {c : CodePoint} (inside : c ∈ (splitHost authority).2.1) :
    c ∈ authority ∧ c ≠ CodePoint.ofChar '@' := by
  cases cut : Text.splitLast '@' authority with
  | none =>
    rw [splitHost_of_cut (by rw [cut, Option.getD_none]) rfl] at inside
    have member := mem_cutHost inside
    refine ⟨member, ?_⟩
    rintro rfl
    exact Text.splitLast_eq_none_iff.mp cut member
  | some parts =>
    obtain ⟨userinfo, rest⟩ := parts
    rw [splitHost_of_cut (by rw [cut, Option.getD_some]) rfl] at inside
    have member := mem_cutHost inside
    obtain ⟨whole, free⟩ := Text.splitLast_append cut
    refine ⟨whole ▸ List.mem_append_right _ (List.mem_cons_of_mem _ member), ?_⟩
    rintro rfl
    exact free member

/-- A host is taken off again where a port or nothing follows it. -/
theorem cutHost_shownHost {host after : Text} (form : HostForm host)
    (port : ∀ c ∈ after.head?, c = CodePoint.ofChar ':') (unbracketed : CodePoint.ofChar ']' ∉ after) :
    cutHost (shownHost host ++ after) = (shownHost host, after) := by
  by_cases colon : CodePoint.ofChar ':' ∈ host
  · have close : Text.splitLast (CodePoint.ofChar ']') (shownHost host ++ after) =
        some (CodePoint.ofChar '[' :: host, after) := by
      rw [shownHost_of_colon colon, List.cons_append, List.append_assoc]
      exact Text.splitLast_of_not_mem (CodePoint.ofChar '[' :: host) unbracketed
    have first : (shownHost host ++ after).head? = some (CodePoint.ofChar '[') := by
      rw [shownHost_of_colon colon]
      rfl
    rw [cutHost, first, close]
    dsimp only
    rw [if_pos rfl, shownHost_of_colon colon]
    rfl
  · have points := form.points colon
    have span : (shownHost host ++ after).span (fun c => !decide (c = CodePoint.ofChar ':')) =
        (shownHost host, after) := by
      rw [shownHost_of_bare colon]
      apply Text.span_append_stop
      · intro c inside
        simp [ne_of_isHostPoint (points c inside) (d := CodePoint.ofChar ':') (by decide)]
      · intro c first
        simp [port c first]
    have unopened : (shownHost host ++ after).head? ≠ some (CodePoint.ofChar '[') := by
      rw [shownHost_of_bare colon]
      cases host with
      | nil =>
        intro first
        exact absurd (port _ first) (by decide)
      | cons c host =>
        have other := ne_of_isHostPoint (points c (by simp)) (d := CodePoint.ofChar '[') (by decide)
        simpa using other
    unfold cutHost
    split
    · next c inside rest first _ =>
      rw [first] at unopened
      rw [if_neg (by simpa using unopened), span]
    · exact span

def shownPort (port : Option Int) : Text := port.elim [] fun n => ':' :: Text.ofInt n

theorem ne_of_mem_shownPort {port : Option Int} {c : CodePoint} (inside : c ∈ shownPort port) :
    endsAuthority c = false ∧ c ≠ CodePoint.ofChar '@' ∧ c ≠ CodePoint.ofChar ']' := by
  cases port with
  | none => cases inside
  | some n =>
    rcases List.mem_cons.mp inside with rfl | numeral
    · decide
    · rcases Text.numeral_of_mem_ofInt numeral with digit | rfl
      · refine ⟨?_, ?_, ?_⟩
        · simp only [endsAuthority, Bool.or_eq_false_iff, decide_eq_false_iff_not]
          refine ⟨⟨?_, ?_⟩, ?_⟩
          all_goals
            rintro rfl
            exact absurd digit (by decide)
        all_goals
          rintro rfl
          exact absurd digit (by decide)
      · decide

theorem cutPort_shownPort (port : Option Int) : cutPort (shownPort port) = port.elim [] Text.ofInt := by
  cases port <;> rfl

theorem authorityText_eq (u : Url) :
    u.authorityText = (if u.userinfo.isEmpty then [] else u.userinfo ++ [CodePoint.ofChar '@']) ++
      (shownHost u.host ++ shownPort u.port) := by
  have nothing : Text.ofString "" = [] := rfl
  have mark : Text.ofString "@" = [CodePoint.ofChar '@'] := rfl
  simp only [authorityText, shownHost, shownPort, nothing, mark, List.flatten_cons, List.flatten_nil, List.append_nil]

theorem splitHost_authorityText {u : Url} (form : HostForm u.host) :
    splitHost u.authorityText = (u.userinfo, shownHost u.host, u.port.elim [] Text.ofInt) := by
  have back : cutHost (shownHost u.host ++ shownPort u.port) = (shownHost u.host, shownPort u.port) := by
    apply cutHost_shownHost form
    · intro c first
      cases port : u.port with
      | none => simp [shownPort, port] at first
      | some n => simpa [shownPort, port, eq_comm] using first
    · exact fun inside => (ne_of_mem_shownPort inside).2.2 rfl
  have unmarked : CodePoint.ofChar '@' ∉ shownHost u.host ++ shownPort u.port := by
    intro inside
    rcases List.mem_append.mp inside with host | port
    · exact (mem_shownHost form host).2 rfl
    · exact (ne_of_mem_shownPort port).2.1 rfl
  rw [← cutPort_shownPort]
  refine splitHost_of_cut ?_ back
  rw [authorityText_eq]
  cases userinfo : u.userinfo with
  | nil =>
    rw [List.isEmpty_nil, if_pos rfl, List.nil_append, Text.splitLast_eq_none_iff.mpr unmarked]
    rfl
  | cons c rest =>
    rw [List.isEmpty_cons, if_neg Bool.false_ne_true, List.append_assoc, List.singleton_append,
      Text.splitLast_of_not_mem (c :: rest) unmarked]
    rfl

/-- A port that has been read is read again, unless it is the default one. -/
theorem normalPort_ofInt {scheme : Text} {port other : Option Int}
    (again : normalPort (port.elim [] Text.ofInt) scheme = .ok other) :
    other = if port = defaultPort? scheme then none else port := by
  cases port with
  | none =>
    cases again
    exact (ite_self none).symm
  | some n =>
    have written : (Text.ofInt n).isEmpty = false := by simp [Text.ofInt_ne_nil]
    rw [normalPort, Option.elim_some, written, if_neg Bool.false_ne_true, readPort?,
      Decimal.readInteger?_ofInt] at again
    split at again
    · cases again
    · next number read =>
      split at read
      · cases read
      · cases read
        cases again
        simp only [eq_comm]

theorem endsAuthority_of_mem_userinfo {t userinfo : Text} (done : escaped keepInUserinfo t = .ok userinfo)
    {c : CodePoint} (inside : c ∈ userinfo) : endsAuthority c = false := by
  have kept := mem_escaped done inside
  simp only [endsAuthority, Bool.or_eq_false_iff, decide_eq_false_iff_not]
  refine ⟨⟨?_, ?_⟩, ?_⟩
  all_goals
    rintro rfl
    revert kept
    decide

theorem endsAuthority_of_mem_splitAuthority {t : Text} {c : CodePoint} (inside : c ∈ (splitAuthority t).1) :
    endsAuthority c = false := by
  unfold splitAuthority at inside
  split at inside
  · cases inside
  · have kept := Text.mem_span inside
    simpa [endsAuthority] using kept

/-- The host of a URL that has been read is in normal form. -/
theorem Normalizes.hostForm {t : Text} {u : Url} (read : Normalizes (pieces t) u) : HostForm u.host := by
  apply normalHost_form _ read.host
  intro c inside
  obtain ⟨member, other⟩ := mem_splitHost inside
  exact ⟨endsAuthority_of_mem_splitAuthority member, other⟩

theorem Normalizes.authority_free {t : Text} {u : Url} (read : Normalizes (pieces t) u) :
    ∀ c ∈ u.authorityText, endsAuthority c = false := by
  intro c inside
  rw [authorityText_eq, List.mem_append, List.mem_append] at inside
  rcases inside with userinfo | host | port
  · split at userinfo
    · cases userinfo
    · rcases List.mem_append.mp userinfo with info | mark
      · exact endsAuthority_of_mem_userinfo read.userinfo info
      · rw [List.mem_singleton.mp mark]
        decide
  · exact (mem_shownHost read.hostForm host).1
  · exact (ne_of_mem_shownPort port).1

/-- A URL that is read from the scheme and the authority of another rereads its server. -/
theorem Normalizes.rereadsServer {t : Text} {p : Pieces} {u v : Url} (read : Normalizes (pieces t) v)
    (lower : v.scheme.asciiLower = v.scheme) (scheme : p.scheme = v.scheme) (authority : p.authority = v.authorityText)
    (again : Normalizes p u) : u.RereadsServer v := by
  have cut := splitHost_authorityText read.hostForm
  have hostAgain := again.host
  have portAgain := again.port
  rw [authority, cut] at hostAgain portAgain
  rw [scheme] at portAgain
  exact ⟨by rw [again.scheme, scheme, lower], normalHost_shownHost read.hostForm hostAgain, normalPort_ofInt portAgain⟩

end RouteTemplate.Url
