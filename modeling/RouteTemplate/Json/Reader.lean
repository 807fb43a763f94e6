import RouteTemplate.Json.Basic

/-!
Reading JSON documents. Beyond the common grammar `NaN`, `Infinity` and `-Infinity` are read as numbers, and
of several entries under one key the last counts. An error names what was expected and where: by line, by
column and by the number of code points before it.
-/

set_option autoImplicit false

namespace RouteTemplate.Json

inductive Container where
  | array
  | object
deriving Repr, DecidableEq

def Container.title : Container → Text
  | array => "array"
  | object => "object"

inductive Fault where
  | expectedValue
  | expectedName
  | expectedColon
  | expectedComma
  | extraData
  | unterminated
  | control
  | badEscape
  | badUnicode
  | byteOrderMark
  | tooManyDigits (digits : Nat)
  | tooDeep (container : Container)
deriving Repr, DecidableEq

structure ReadError where
  fault : Fault
  position : Nat
deriving Repr, DecidableEq

namespace Fault

def message : Fault → Text
  | expectedValue => "Expecting value"
  | expectedName => "Expecting property name enclosed in double quotes"
  | expectedColon => "Expecting ':' delimiter"
  | expectedComma => "Expecting ',' delimiter"
  | extraData => "Extra data"
  | unterminated => "Unterminated string starting at"
  | control => "Invalid control character at"
  | badEscape => "Invalid \\escape"
  | badUnicode => "Invalid \\uXXXX escape"
  | byteOrderMark => "Unexpected UTF-8 BOM (decode using utf-8-sig)"
  | tooManyDigits digits =>
    List.flatten ["Exceeds the limit (4300 digits) for integer string conversion: value has ", Text.ofNat digits,
      " digits; use sys.set_int_max_str_digits() to increase the limit"]
  | tooDeep container =>
    List.flatten ["maximum recursion depth exceeded while decoding a JSON ", container.title,
      " from a unicode string"]

end Fault

/-- The error in words, with line and column in the document. -/
def ReadError.message (document : Text) (e : ReadError) : Text :=
  match e.fault with
  | .tooManyDigits _ | .tooDeep _ => e.fault.message
  | _ =>
    let before := document.take e.position
    let line := before.count (CodePoint.ofChar '\n') + 1
    let column := (before.reverse.takeWhile fun (c : CodePoint) => !(c = '\n')).length + 1
    List.flatten [e.fault.message, ": line ", Text.ofNat line, " column ", Text.ofNat column,
      " (char ", Text.ofNat e.position, ")"]

/-- A place in a document: how many code points come before it, and what follows. -/
structure Cursor where
  position : Nat
  rest : Text

namespace Cursor

def isSpace (c : CodePoint) : Bool := c = ' ' || c = '\t' || c = '\n' || c = '\r'

def skipSpace : (position : Nat) → Text → Cursor
  | position, [] => ⟨position, []⟩
  | position, c :: rest => if isSpace c then skipSpace (position + 1) rest else ⟨position, c :: rest⟩

def next (cursor : Cursor) : Cursor := skipSpace cursor.position cursor.rest

def advance (cursor : Cursor) (n : Nat) : Cursor := ⟨cursor.position + n, cursor.rest.drop n⟩

def fail {α : Type} (cursor : Cursor) (fault : Fault) : Except ReadError α := .error ⟨fault, cursor.position⟩

end Cursor

def escapeOf? (c : CodePoint) : Option CodePoint :=
  if c = '"' || c = '\\' || c = '/' then some c
  else if c = 'b' then some 0x08
  else if c = 'f' then some 0x0C
  else if c = 'n' then some 0x0A
  else if c = 'r' then some 0x0D
  else if c = 't' then some 0x09
  else none

def hex4? (a b c d : CodePoint) : Option Nat := do
  return ((← a.hexValue?) * 16 + (← b.hexValue?)) * 256 + ((← c.hexValue?) * 16 + (← d.hexValue?))

def isHighHalf (n : Nat) : Bool := 0xD800 ≤ n && n < 0xDC00

def isLowHalf (n : Nat) : Bool := 0xDC00 ≤ n && n < 0xE000

/-- Puts a code point in front of a text that was read. -/
def consPoint (c : CodePoint) : Except ReadError (Text × Cursor) → Except ReadError (Text × Cursor)
  | .ok (t, cursor) => .ok (c :: t, cursor)
  | .error e => .error e

/-- Reads a text up to its closing quote; `start` is the position of the opening one. Two escapes that form
a surrogate pair make one code point. -/
def readText (start : Nat) : (position : Nat) → Text → Except ReadError (Text × Cursor)
  | _, [] => .error ⟨.unterminated, start⟩
  | position, c :: rest =>
    if c = '"' then .ok ([], ⟨position + 1, rest⟩)
    else if c = '\\' then
      match rest with
      | [] => .error ⟨.unterminated, start⟩
      | e :: rest =>
        if e = 'u' then
          match rest with
          | h1 :: h2 :: h3 :: h4 :: q :: rest =>
            match hex4? h1 h2 h3 h4 with
            | none => .error ⟨.badUnicode, position + 1⟩
            | some high =>
              match rest with
              | u :: l1 :: l2 :: l3 :: l4 :: r :: after =>
                if isHighHalf high && q = '\\' && u = 'u' then
                  match hex4? l1 l2 l3 l4 with
                  | none => .error ⟨.badUnicode, position + 7⟩
                  | some low =>
                    if isLowHalf low then
                      consPoint (Fin.ofNat _ (0x10000 + (high - 0xD800) * 0x400 + (low - 0xDC00)))
                        (readText start (position + 12) (r :: after))
                    else
                      consPoint (Fin.ofNat _ high)
                        (readText start (position + 6) (q :: u :: l1 :: l2 :: l3 :: l4 :: r :: after))
                else
                  consPoint (Fin.ofNat _ high)
                    (readText start (position + 6) (q :: u :: l1 :: l2 :: l3 :: l4 :: r :: after))
              | rest => consPoint (Fin.ofNat _ high) (readText start (position + 6) (q :: rest))
          | _ => .error ⟨.badUnicode, position + 1⟩
        else
          match escapeOf? e with
          | none => .error ⟨.badEscape, position⟩
          | some d => consPoint d (readText start (position + 2) rest)
    else if c.val < 0x20 then .error ⟨.control, position⟩
    else consPoint c (readText start (position + 1) rest)
termination_by _ t => t.length

def digitsOf (t : Text) : Text := (t.span CodePoint.isAsciiDigit).1

/-- The length of the fraction in front of a text: a point with at least one digit. -/
def fractionLength : Text → Nat
  | [] => 0
  | c :: rest => if c = '.' && !(digitsOf rest).isEmpty then 1 + (digitsOf rest).length else 0

/-- The length of the exponent in front of a text: a letter, perhaps a sign, and at least one digit. -/
def exponentLength : Text → Nat
  | [] => 0
  | c :: rest =>
    if c = 'e' || c = 'E' then
      let signed := match rest with
        | [] => 0
        | s :: _ => if s = '-' || s = '+' then 1 else 0
      let digits := (digitsOf (rest.drop signed)).length
      if digits = 0 then 0 else 1 + signed + digits
    else 0

/-- Reads a number. It ends where its grammar does, so `01` is read as `0`. -/
def readNumber (cursor : Cursor) : Except ReadError (Json × Cursor) :=
  let (negative, body) := match cursor.rest with
    | [] => (false, [])
    | c :: rest => if c = '-' then (true, rest) else (false, c :: rest)
  let whole : Text := match digitsOf body with
    | [] => []
    | c :: rest => if c = '0' then [c] else c :: rest
  if whole.isEmpty then cursor.fail .expectedValue
  else
    let afterWhole := body.drop whole.length
    let fraction := fractionLength afterWhole
    let exponent := exponentLength (afterWhole.drop fraction)
    let after := cursor.advance ((if negative then 1 else 0) + whole.length + fraction + exponent)
    if fraction = 0 && exponent = 0 then
      if 4300 < whole.length then cursor.fail (.tooManyDigits whole.length)
      else
        let n := Decimal.digitsValue whole
        .ok (.int (if negative then -(n : Int) else n), after)
    else
      match Decimal.readScaled? (body.take (whole.length + fraction + exponent)) with
      | some d => .ok (.float (Binary64.ofScaled negative d), after)
      | none => cursor.fail .expectedValue

def words : List (Text × Json) :=
  [("null", null), ("true", bool true), ("false", bool false), ("NaN", float .nan),
    ("Infinity", float (.infinite false)), ("-Infinity", float (.infinite true))]

def readScalar (cursor : Cursor) : Except ReadError (Json × Cursor) :=
  match words.find? fun word => cursor.rest.startsWith word.1 with
  | some (word, value) => .ok (value, cursor.advance word.length)
  | none => readNumber cursor

mutual

/-- Reads a value at a place; `room` is how many containers may still be opened around one another. -/
def readValue : (fuel room : Nat) → Cursor → Except ReadError (Json × Cursor)
  | 0, _, cursor => cursor.fail .expectedValue
  | fuel + 1, room, cursor =>
    match cursor.rest with
    | [] => cursor.fail .expectedValue
    | c :: rest =>
      if c = '"' then (readText cursor.position (cursor.position + 1) rest).map fun (t, after) => (.text t, after)
      else if c = '\x7b' then
        if room = 0 then cursor.fail (.tooDeep .object)
        else
        let inside := (cursor.advance 1).next
        if inside.rest.head? = some (CodePoint.ofChar '\x7d') then .ok (.object [], inside.advance 1)
        else (readEntries fuel (room - 1) inside).map fun (entries, after) => (.object (Table.ofList entries), after)
      else if c = '[' then
        if room = 0 then cursor.fail (.tooDeep .array)
        else
        let inside := (cursor.advance 1).next
        if inside.rest.head? = some (CodePoint.ofChar ']') then .ok (.array [], inside.advance 1)
        else (readItems fuel (room - 1) inside).map fun (items, after) => (.array items, after)
      else readScalar cursor

/-- Reads the items of an array up to its end. -/
def readItems : (fuel room : Nat) → Cursor → Except ReadError (List Json × Cursor)
  | 0, _, cursor => cursor.fail .expectedValue
  | fuel + 1, room, cursor => do
    let (item, after) ← readValue fuel room cursor
    let stop := after.next
    match stop.rest with
    | [] => stop.fail .expectedComma
    | c :: _ =>
      if c = ']' then return ([item], stop.advance 1)
      else if c = ',' then
        let (items, last) ← readItems fuel room (stop.advance 1).next
        return (item :: items, last)
      else stop.fail .expectedComma

def readEntries : (fuel room : Nat) → Cursor → Except ReadError (List (Text × Json) × Cursor)
  | 0, _, cursor => cursor.fail .expectedName
  | fuel + 1, room, cursor => do
    match cursor.rest with
    | [] => cursor.fail .expectedName
    | c :: rest =>
      if c = '"' then
        let (key, afterKey) ← readText cursor.position (cursor.position + 1) rest
        let colon := afterKey.next
        if colon.rest.head? ≠ some (CodePoint.ofChar ':') then colon.fail .expectedColon
        else
          let (item, after) ← readValue fuel room (colon.advance 1).next
          let stop := after.next
          match stop.rest with
          | [] => stop.fail .expectedComma
          | c :: _ =>
            if c = '\x7d' then return ([(key, item)], stop.advance 1)
            else if c = ',' then
              let (entries, last) ← readEntries fuel room (stop.advance 1).next
              return ((key, item) :: entries, last)
            else stop.fail .expectedComma
      else cursor.fail .expectedName

end

def maxDepth : Nat := 988

/-- Reads a document. Nothing but white space may stand around it. -/
def read (document : Text) : Except ReadError Json := do
  if document.head? = some 0xFEFF then throw ⟨.byteOrderMark, 0⟩
  let (value, after) ← readValue (2 * document.length + 2) maxDepth (Cursor.next ⟨0, document⟩)
  let stop := after.next
  if stop.rest.isEmpty then return value
  else stop.fail .extraData

end RouteTemplate.Json
