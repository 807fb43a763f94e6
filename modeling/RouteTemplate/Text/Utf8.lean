import RouteTemplate.Text.Basic

/-!
The octet form of a text. A text has one exactly when it holds no surrogate; otherwise encoding names
the first run of adjacent surrogates. Reading octets back is one function per position: it gives a code
point or the number of octets that cannot begin one, with the reason.
-/

set_option autoImplicit false

namespace RouteTemplate

namespace CodePoint

/-- One to four octets; the value decides how many. -/
def utf8 (c : CodePoint) : List UInt8 :=
  let n := c.val
  if n < 0x80 then [UInt8.ofNat n]
  else if n < 0x800 then [UInt8.ofNat (0xC0 + n / 0x40), UInt8.ofNat (0x80 + n % 0x40)]
  else if n < 0x10000 then
    [UInt8.ofNat (0xE0 + n / 0x1000), UInt8.ofNat (0x80 + n / 0x40 % 0x40), UInt8.ofNat (0x80 + n % 0x40)]
  else
    [UInt8.ofNat (0xF0 + n / 0x40000), UInt8.ofNat (0x80 + n / 0x1000 % 0x40),
      UInt8.ofNat (0x80 + n / 0x40 % 0x40), UInt8.ofNat (0x80 + n % 0x40)]

/-- The mark that stands for octets that are no text. -/
def replacement : CodePoint := 0xFFFD

end CodePoint

/-- The first run of adjacent surrogates of a text: the first of them, where it stands, how many follow on. -/
structure SurrogateRun where
  first : CodePoint
  start : Nat
  length : Nat
deriving Repr, DecidableEq

namespace SurrogateRun

def find? : Text → Option SurrogateRun
  | [] => none
  | c :: rest =>
    if c.isSurrogate then some ⟨c, 0, (Text.span CodePoint.isSurrogate (c :: rest)).1.length⟩
    else (find? rest).map fun run => { run with start := run.start + 1 }

/-- Names the surrogate when it stands alone and the positions of the run otherwise. -/
def message (run : SurrogateRun) : Text :=
  if run.length ≤ 1 then
    List.flatten ["'utf-8' codec can't encode character '\\u", Text.hex 4 run.first.val, "' in position ",
      Text.ofNat run.start, ": surrogates not allowed"]
  else
    List.flatten ["'utf-8' codec can't encode characters in position ", Text.ofNat run.start, "-",
      Text.ofNat (run.start + run.length - 1), ": surrogates not allowed"]

theorem find?_eq_none_iff {t : Text} : find? t = none ↔ ∀ c ∈ t, c.isSurrogate = false := by
  induction t with
  | nil => simp [find?]
  | cons c rest ih =>
    unfold find?
    split
    · next surrogate => simp [surrogate]
    · next plain => simp [ih, plain]

end SurrogateRun

namespace Text

/-- The octets of a text, code point by code point. Meant for texts without surrogates. -/
def octets (t : Text) : List UInt8 := t.flatMap CodePoint.utf8

/-- The octets of a text without surrogates; otherwise its first run of surrogates. -/
def encode (t : Text) : Except SurrogateRun (List UInt8) :=
  match SurrogateRun.find? t with
  | some run => .error run
  | none => .ok t.octets

inductive OctetFault where
  | invalidStart
  | invalidContinuation
  | unexpectedEnd
deriving Repr, DecidableEq

namespace OctetFault

def message : OctetFault → Text
  | invalidStart => "invalid start byte"
  | invalidContinuation => "invalid continuation byte"
  | unexpectedEnd => "unexpected end of data"

end OctetFault

/-- What stands at the front of an octet sequence: a code point of some width, or octets that begin none. -/
inductive Leading where
  | point (c : CodePoint) (width : Nat)
  | bad (width : Nat) (fault : OctetFault)
deriving Repr, DecidableEq

def continuation? (octet : UInt8) : Option Nat :=
  if 0x80 ≤ octet.toNat && octet.toNat < 0xC0 then some (octet.toNat - 0x80) else none

/-- The second octet of three or four, within the bounds that keep the form shortest, below the
surrogates or above them, and at most the last code point. -/
def second? (lead octet : UInt8) : Option Nat :=
  let low := if lead.toNat = 0xE0 then 0xA0 else if lead.toNat = 0xF0 then 0x90 else 0x80
  let high := if lead.toNat = 0xED then 0xA0 else if lead.toNat = 0xF4 then 0x90 else 0xC0
  if low ≤ octet.toNat && octet.toNat < high then some (octet.toNat - 0x80) else none

/-- Reads one code point from a lead octet and what follows it. The bad width is that of the longest
beginning of a valid form, and at least one. -/
def leading (lead : UInt8) (rest : List UInt8) : Leading :=
  let n := lead.toNat
  if n < 0x80 then .point (Fin.ofNat _ n) 1
  else if n < 0xC2 then .bad 1 .invalidStart
  else if n < 0xE0 then
    match rest with
    | [] => .bad 1 .unexpectedEnd
    | a :: _ =>
      match continuation? a with
      | none => .bad 1 .invalidContinuation
      | some x => .point (Fin.ofNat _ ((n - 0xC0) * 0x40 + x)) 2
  else if n < 0xF0 then
    match rest with
    | [] => .bad 1 .unexpectedEnd
    | a :: rest =>
      match second? lead a with
      | none => .bad 1 .invalidContinuation
      | some x =>
        match rest with
        | [] => .bad 2 .unexpectedEnd
        | b :: _ =>
          match continuation? b with
          | none => .bad 2 .invalidContinuation
          | some y => .point (Fin.ofNat _ ((n - 0xE0) * 0x1000 + x * 0x40 + y)) 3
  else if n < 0xF5 then
    match rest with
    | [] => .bad 1 .unexpectedEnd
    | a :: rest =>
      match second? lead a with
      | none => .bad 1 .invalidContinuation
      | some x =>
        match rest with
        | [] => .bad 2 .unexpectedEnd
        | b :: rest =>
          match continuation? b with
          | none => .bad 2 .invalidContinuation
          | some y =>
            match rest with
            | [] => .bad 3 .unexpectedEnd
            | d :: _ =>
              match continuation? d with
              | none => .bad 3 .invalidContinuation
              | some z => .point (Fin.ofNat _ ((n - 0xF0) * 0x40000 + x * 0x1000 + y * 0x40 + z)) 4
  else .bad 1 .invalidStart

/-- Reads octets, with `skip` octets of the last form still to pass over. -/
def lossyFrom : (skip : Nat) → List UInt8 → Text
  | _, [] => []
  | skip + 1, _ :: rest => lossyFrom skip rest
  | 0, lead :: rest =>
    match leading lead rest with
    | .point c width => c :: lossyFrom (width - 1) rest
    | .bad width _ => CodePoint.replacement :: lossyFrom (width - 1) rest

/-- Reads octets as text; each run that begins no code point becomes one replacement mark. -/
def ofOctetsLossy (octets : List UInt8) : Text := lossyFrom 0 octets

/-- Where octets stop being text: the position, the octets concerned and the reason. -/
structure OctetError where
  start : Nat
  octet : UInt8
  width : Nat
  fault : OctetFault
deriving Repr, DecidableEq

namespace OctetError

/-- Names the octet when it is one and the positions otherwise. -/
def message (e : OctetError) : Text :=
  if e.width ≤ 1 then
    List.flatten ["'utf-8' codec can't decode byte 0x", hex 2 e.octet.toNat, " in position ", ofNat e.start, ": ",
      e.fault.message]
  else
    List.flatten ["'utf-8' codec can't decode bytes in position ", ofNat e.start, "-", ofNat (e.start + e.width - 1),
      ": ", e.fault.message]

end OctetError

def decodeFrom : (position skip : Nat) → List UInt8 → Except OctetError Text
  | _, _, [] => .ok []
  | position, skip + 1, _ :: rest => decodeFrom (position + 1) skip rest
  | position, 0, lead :: rest =>
    match leading lead rest with
    | .point c width => (decodeFrom (position + 1) (width - 1) rest).map (c :: ·)
    | .bad width fault => .error ⟨position, lead, width, fault⟩

/-- Reads octets as text, or says where they first stop being text. -/
def ofOctets (octets : List UInt8) : Except OctetError Text := decodeFrom 0 0 octets

end Text

end RouteTemplate
