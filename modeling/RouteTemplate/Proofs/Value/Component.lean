import RouteTemplate.Proofs.Route.Failure

set_option autoImplicit false

namespace RouteTemplate

namespace Percent

/-- Texts of unreserved characters and of triples that stand for none. -/
inductive Canonical : Text → Prop
  | nil : Canonical []
  | own {c : CodePoint} {rest : Text} (plain : isUnreserved c = true) (canonical : Canonical rest) : Canonical (c :: rest)
  | escaped {octet : UInt8} {rest : Text} (reserved : isUnreserved (Fin.ofNat _ octet.toNat) = false)
      (canonical : Canonical rest) : Canonical (triple octet ++ rest)

theorem canonical_encode (octets : List UInt8) : Canonical (encode octets) := by
  induction octets with
  | nil => exact .nil
  | cons octet octets ih =>
    change Canonical (encodeOctet octet ++ encode octets)
    unfold encodeOctet
    dsimp only
    split
    · next plain => exact .own plain ih
    · next reserved => exact .escaped (Bool.eq_false_iff.mpr reserved) ih

/-- Escaping undoes decoding of canonical texts. -/
theorem encode_decode {t : Text} (canonical : Canonical t) : encode (decode t) = t := by
  induction canonical with
  | nil => rfl
  | @own c rest plain _ ih =>
    have self : encode c.utf8 = [c] := by rw [encode_utf8_of_ascii (ascii_of_unreserved plain), if_pos plain]
    rw [decode_cons (ne_percent_of_unreserved plain), encode_append, self, ih, List.singleton_append]
  | @escaped octet rest reserved _ ih =>
    have first : encodeOctet octet = triple octet := by
      unfold encodeOctet
      dsimp only
      rw [reserved, if_neg Bool.false_ne_true]
    rw [decode_triple, ← ih, decode_encode, ← first]
    rfl

theorem encode_injective : Function.Injective encode := Function.LeftInverse.injective decode_encode

end Percent

namespace Value

theorem component_of_octets {v : Value} {octets : List UInt8} (content : v.octetContent? = some octets)
    (settings : Settings) : v.component settings = .ok (Percent.encode octets) := by
  rw [component, rendered, content]
  rfl

theorem component_of_surrogates {t : Text} {run : SurrogateRun} (found : SurrogateRun.find? t = some run)
    (settings : Settings) : (Value.text t).component settings = .error (.surrogates run) := by
  have shown : (Value.text t).shown settings = .ok t := rfl
  have encoded : t.encode = .error run := by rw [Text.encode, found]
  rw [component, rendered, shown]
  dsimp only [octetContent?]
  rw [encoded]
  rfl

/-- Whatever the settings, octets are written in a canonical form that decodes to them, different ones in different
forms, and each canonical text is the form of what it decodes to. A text without surrogates is written as its octets,
and one with surrogates is refused with its first run of them. -/
theorem component_canonical (settings : Settings) :
    (∀ (v : Value) (octets : List UInt8), v.octetContent? = some octets → ∃ written,
        v.component settings = .ok written ∧ Percent.Canonical written ∧ Percent.decode written = octets) ∧
      (∀ written, Percent.Canonical written → (Value.bytes (Percent.decode written)).component settings = .ok written) ∧
      (∀ first second : List UInt8,
        (Value.bytes first).component settings = (Value.bytes second).component settings → first = second) ∧
      (∀ t : Text, t.IsPlain → ∃ octets written, t.encode = .ok octets ∧
        (Value.text t).component settings = .ok written ∧ (Value.bytes octets).component settings = .ok written ∧
        Percent.Canonical written ∧ Percent.decode written = octets) ∧
      ∀ t : Text, ¬t.IsPlain → ∃ run, SurrogateRun.find? t = some run ∧
        (Value.text t).component settings = .error (.surrogates run) := by
  refine ⟨?_, ?_, ?_, ?_, ?_⟩
  · intro v octets content
    exact ⟨_, component_of_octets content settings, Percent.canonical_encode octets, Percent.decode_encode octets⟩
  · intro written canonical
    rw [component_of_octets rfl settings, Percent.encode_decode canonical]
  · intro first second same
    rw [component_of_octets rfl settings, component_of_octets rfl settings] at same
    exact Percent.encode_injective (Except.ok.inj same)
  · intro t plain
    exact ⟨t.octets, _, Text.encode_eq_ok plain, component_text plain settings, component_of_octets rfl settings,
      Percent.canonical_encode t.octets, Percent.decode_encode t.octets⟩
  · intro t surrogates
    obtain ⟨run, found⟩ := Option.ne_none_iff_exists'.mp (mt SurrogateRun.find?_eq_none_iff.mp surrogates)
    exact ⟨run, found, component_of_surrogates found settings⟩

/-- Characters of one to four octets. -/
theorem component_canonical_wide :
    let t : Text := "~/é€😀"
    let written : Text := "~%2F%C3%A9%E2%82%AC%F0%9F%98%80"
    t.IsPlain ∧ (Value.text t).component {} = .ok written ∧ Percent.Canonical written ∧
      (Value.bytes (Percent.decode written)).component {} = .ok written := by
  intro t written
  have plain : t.IsPlain := by
    have all : t.all (fun c => !c.isSurrogate) = true := by decide
    simpa [Text.IsPlain] using all
  have done : (Value.text t).component {} = .ok written := by rfl
  obtain ⟨_, again, _, text, _⟩ := component_canonical {}
  obtain ⟨octets, same, _, written', _, canonical, _⟩ := text t plain
  cases done.symm.trans written'
  exact ⟨plain, done, canonical, again written canonical⟩

end Value

end RouteTemplate
