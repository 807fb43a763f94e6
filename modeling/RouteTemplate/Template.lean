import RouteTemplate.Text.Quoted

/-!
Route templates: literal gaps with named placeholders between them, `/users/{id}?{expand}`. A
template is read once from left to right. A `{` opens a name and the next `}` closes it; the first
question mark outside names is the query marker. A `{` that is never closed leaves dangling text behind
the last gap. `Template.source` writes a template back, and reading loses nothing.
-/

set_option autoImplicit false

namespace RouteTemplate

/-- Where a placeholder stands with respect to the query marker. -/
inductive PlaceholderKind where
  | path
  | query
deriving Repr, DecidableEq

structure Placeholder where
  name : Text
  kind : PlaceholderKind
  offset : Nat
deriving Repr, DecidableEq

namespace Placeholder

/-- The offset just past the closing brace. -/
def endOffset (p : Placeholder) : Nat := p.offset + p.name.length + 2

end Placeholder

/-- A gap of literal text and the name of the placeholder that follows it. -/
structure Segment where
  gap : Text
  name : Text
deriving Repr, DecidableEq

/-- A template taken apart: its segments, the last gap, and the text after a brace that is never closed. -/
structure Template where
  segments : List Segment
  lastGap : Text
  dangling : Option Text
deriving Repr, DecidableEq

namespace Template

def openBrace : CodePoint := '\x7b'

def closeBrace : CodePoint := '\x7d'

def prepend (s : Segment) (t : Template) : Template := { t with segments := s :: t.segments }

/-- Reads on from a point outside a name, or inside one when `name` is given. Gap and name are held in
reverse while they grow. -/
def scan : (gap : Text) → (name : Option Text) → Text → Template
  | gap, none, [] => ⟨[], gap.reverse, none⟩
  | gap, some name, [] => ⟨[], gap.reverse, some name.reverse⟩
  | gap, none, c :: rest => if c = openBrace then scan gap (some []) rest else scan (c :: gap) none rest
  | gap, some name, c :: rest =>
    if c = closeBrace then prepend ⟨gap.reverse, name.reverse⟩ (scan [] none rest)
    else scan gap (some (c :: name)) rest

def parse (text : Text) : Template := scan [] none text

/-- The text of one segment. -/
def segmentSource (s : Segment) : Text := s.gap ++ openBrace :: (s.name ++ [closeBrace])

/-- The text after the last placeholder, a brace that is never closed included. -/
def tail (t : Template) : Text := t.lastGap ++ (t.dangling.elim [] fun text => openBrace :: text)

def source (t : Template) : Text := t.segments.flatMap segmentSource ++ t.tail

/-- Placeholders of segments that start at an offset, with or without a query marker before them. -/
def placeholdersFrom : (offset : Nat) → (marked : Bool) → List Segment → List Placeholder
  | _, _, [] => []
  | offset, marked, s :: segments =>
    let marked := marked || s.gap.contains '?'
    let p : Placeholder := ⟨s.name, if marked then .query else .path, offset + s.gap.length⟩
    p :: placeholdersFrom p.endOffset marked segments

def placeholders (t : Template) : List Placeholder := placeholdersFrom 0 false t.segments

/-- The offset of the query marker in segments that start at an offset and the gap after them. -/
def queryMarkerFrom (lastGap : Text) : (offset : Nat) → List Segment → Option Nat
  | offset, [] => (lastGap.findIdx? fun (c : CodePoint) => c = '?').map (offset + ·)
  | offset, s :: segments =>
    match s.gap.findIdx? fun (c : CodePoint) => c = '?' with
    | some index => some (offset + index)
    | none => queryMarkerFrom lastGap (offset + (segmentSource s).length) segments

/-- The offset of the first question mark outside names and dangling text. -/
def queryMarker? (t : Template) : Option Nat := queryMarkerFrom t.lastGap 0 t.segments

def hasQueryMarker (t : Template) : Bool :=
  t.segments.any (fun s => s.gap.contains '?') || t.lastGap.contains '?'

/-- The offset of the brace that is never closed. -/
def unterminated? (t : Template) : Option Nat :=
  t.dangling.map fun _ => (t.segments.flatMap segmentSource).length + t.lastGap.length

def names (t : Template) : List Text := t.segments.map Segment.name

def pathPlaceholders (t : Template) : List Placeholder := t.placeholders.filter fun p => p.kind = .path

def queryPlaceholders (t : Template) : List Placeholder := t.placeholders.filter fun p => p.kind = .query

theorem length_segmentSource (s : Segment) : (segmentSource s).length = s.gap.length + s.name.length + 2 := by
  simp only [segmentSource, List.length_append, List.length_cons, List.length_nil]
  omega

theorem source_prepend (s : Segment) (t : Template) : (prepend s t).source = segmentSource s ++ t.source := by
  simp [source, prepend, tail]

theorem source_scan (gap : Text) (name : Option Text) (text : Text) :
    (scan gap name text).source = gap.reverse ++ (name.elim [] fun n => openBrace :: n.reverse) ++ text := by
  induction text generalizing gap name with
  | nil => cases name <;> simp [scan, source, tail]
  | cons c rest ih =>
    cases name with
    | none =>
      unfold scan
      split
      · next opened => simp [ih, opened]
      · simp [ih]
    | some name =>
      unfold scan
      split
      · next closed => simp [source_prepend, segmentSource, ih, closed]
      · simp [ih]

/-- Reading loses nothing. -/
theorem source_parse (text : Text) : (parse text).source = text := by
  simp [parse, source_scan]

end Template

end RouteTemplate
