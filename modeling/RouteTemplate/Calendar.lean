import RouteTemplate.Text.Basic

set_option autoImplicit false

namespace RouteTemplate.Calendar

-- The core library's sums, also where other instances are in scope.
attribute [local instance (high)] Zero.ofOfNat0

structure Day where
  year : Nat
  month : Nat
  day : Nat
deriving Repr, DecidableEq

/-- A reading of the clock, with its offset from universal time in seconds if it has one. -/
structure Clock where
  hour : Nat
  minute : Nat
  second : Nat
  microsecond : Nat
  offset : Option Int
deriving Repr, DecidableEq

/-- A span of time in microseconds, of either sign. -/
structure Duration where
  microseconds : Int
deriving Repr, DecidableEq

namespace Duration

def of (days seconds microseconds : Int) : Duration := ⟨(days * 86400 + seconds) * 1000000 + microseconds⟩

/-- Whole days, rounded down. -/
def days (d : Duration) : Int := d.microseconds.fdiv 86400000000

/-- Whole seconds beyond the days, from 0 to 86399. -/
def seconds (d : Duration) : Nat := (d.microseconds.fmod 86400000000).toNat / 1000000

def fraction (d : Duration) : Nat := (d.microseconds.fmod 86400000000).toNat % 1000000

/-- Days, if any, then hours, minutes and seconds, then the fraction, if any. -/
def text (d : Duration) : Text :=
  let dayText : Text :=
    if d.days = 0 then []
    else List.flatten [Text.ofInt d.days, if d.days.natAbs = 1 then " day, " else " days, "]
  let fractionText : Text := if d.fraction = 0 then [] else List.flatten [".", Text.padded 6 d.fraction]
  List.flatten [dayText, Text.ofNat (d.seconds / 3600), ":", Text.padded 2 (d.seconds / 60 % 60), ":",
    Text.padded 2 (d.seconds % 60), fractionText]

def literal (d : Duration) : Text :=
  let part (name : Text) (n : Int) : List Text := if n = 0 then [] else [List.flatten [name, "=", Text.ofInt n]]
  let parts := part "days" d.days ++ part "seconds" d.seconds ++ part "microseconds" d.fraction
  List.flatten ["datetime.timedelta(", if parts.isEmpty then "0" else Text.joinWith ", " parts, ")"]

end Duration

namespace Day

def iso (d : Day) : Text :=
  List.flatten [Text.padded 4 d.year, "-", Text.padded 2 d.month, "-", Text.padded 2 d.day]

def parts (d : Day) : List Text := [Text.ofNat d.year, Text.ofNat d.month, Text.ofNat d.day]

def literal (d : Day) : Text := List.flatten ["datetime.date(", Text.joinWith ", " d.parts, ")"]

def ordinal (d : Day) : Int :=
  let leap : Bool := (d.year % 4 == 0 && d.year % 100 != 0) || d.year % 400 == 0
  let y := d.year - 1
  let lengths := [31, if leap then 29 else 28, 31, 30, 31, 30, 31, 31, 30, 31, 30, 31]
  (365 * y + y / 4 - y / 100 + y / 400 + (lengths.take (d.month - 1)).sum + (d.day - 1) : Nat)

end Day

/-- An offset from universal time: sign, hours, minutes, and seconds if there are any. -/
def offsetText (offset : Int) : Text :=
  let n := offset.natAbs
  let secondText : Text := if n % 60 = 0 then [] else List.flatten [":", Text.padded 2 (n % 60)]
  List.flatten [if offset < 0 then "-" else "+", Text.padded 2 (n / 3600), ":", Text.padded 2 (n / 60 % 60), secondText]

def zoneText (offset : Int) : Text := if offset = 0 then "UTC" else "UTC" ++ offsetText offset

def zoneLiteral (offset : Int) : Text :=
  if offset = 0 then "datetime.timezone.utc"
  else List.flatten ["datetime.timezone(", (Duration.of 0 offset 0).literal, ")"]

namespace Clock

/-- Hours, minutes and seconds, then the fraction if there is one, then the offset if there is one. -/
def iso (c : Clock) : Text :=
  let fractionText : Text := if c.microsecond = 0 then [] else List.flatten [".", Text.padded 6 c.microsecond]
  List.flatten [Text.padded 2 c.hour, ":", Text.padded 2 c.minute, ":", Text.padded 2 c.second, fractionText,
    c.offset.elim [] offsetText]

/-- Hour and minute always, the second and the microsecond up to the last that is not zero, and the zone. -/
def parts (c : Clock) : List Text :=
  let fine : List Text :=
    if c.microsecond ≠ 0 then [Text.ofNat c.second, Text.ofNat c.microsecond]
    else if c.second ≠ 0 then [Text.ofNat c.second] else []
  let zone : List Text := c.offset.elim [] fun offset => [List.flatten ["tzinfo=", zoneLiteral offset]]
  [Text.ofNat c.hour, Text.ofNat c.minute] ++ fine ++ zone

def literal (c : Clock) : Text := List.flatten ["datetime.time(", Text.joinWith ", " c.parts, ")"]

/-- Microseconds since midnight, with the offset taken off. -/
def instant (c : Clock) : Int :=
  (((c.hour * 60 + c.minute) * 60 + c.second : Nat) - c.offset.getD 0) * 1000000 + c.microsecond

/-- Do two readings denote the same time of day? One with an offset and one without never do. -/
def same (a b : Clock) : Bool := a.offset.isSome == b.offset.isSome && a.instant == b.instant

end Clock

def dayClockIso (separator : Text) (d : Day) (c : Clock) : Text := List.flatten [d.iso, separator, c.iso]

def dayClockLiteral (d : Day) (c : Clock) : Text :=
  List.flatten ["datetime.datetime(", Text.joinWith ", " (d.parts ++ c.parts), ")"]

/-- Do two days with clock readings denote the same moment? -/
def sameMoment (d : Day) (c : Clock) (d' : Day) (c' : Clock) : Bool :=
  c.offset.isSome == c'.offset.isSome &&
    d.ordinal * 86400000000 + c.instant == d'.ordinal * 86400000000 + c'.instant

end RouteTemplate.Calendar
