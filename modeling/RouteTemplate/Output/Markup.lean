import RouteTemplate.Text.Basic

set_option autoImplicit false

namespace RouteTemplate.Markup

def startsTag (c : CodePoint) : Bool :=
  (0x61 ≤ c.val && c.val ≤ 0x7A) || c = '#' || c = '/' || c = '@'

/-- The tag in front of a text with what follows it: a bracket, a name, and all up to the next closing
bracket, without another opening one. -/
def tagAt? (t : Text) : Option (Text × Text) :=
  match t with
  | bracket :: c :: _ =>
    if bracket = '[' && startsTag c then
      let (body, rest) := Text.span (fun c => !(c = '[' || c = ']')) t.tail
      match rest with
      | close :: after => if close = ']' then some (bracket :: (body ++ [close]), after) else none
      | [] => none
    else none
  | _ => none

/-- A stretch of styled text: text as it stands, or a tag with the number of backslashes before it. -/
inductive Piece where
  | text (t : Text)
  | tag (backslashes : Nat) (t : Text)
deriving Repr, DecidableEq

/-- Puts text in front of a list of pieces, into the first one if that is text. -/
def consText (t : Text) : List Piece → List Piece
  | .text rest :: pieces => .text (t ++ rest) :: pieces
  | pieces => if t.isEmpty then pieces else .text t :: pieces

/-- Cuts styled text into its pieces. Each step takes at least one code point, so `fuel` of the length of
the text suffices. -/
def pieces : (fuel : Nat) → Text → List Piece
  | 0, t => consText t []
  | fuel + 1, t =>
    let (run, rest) := Text.span (fun c => c = '\\') t
    match tagAt? rest with
    | some (tag, after) => .tag run.length tag :: pieces fuel after
    | none =>
      match rest with
      | [] => consText run []
      | c :: after => consText (run ++ [c]) (pieces fuel after)

def backslashes (n : Nat) : Text := List.replicate n (CodePoint.ofChar '\\')

/-- The text in a form that shows as it is. A single backslash at the end is doubled. -/
def escape (t : Text) : Text :=
  let escaped : Text := (pieces t.length t).flatMap fun piece =>
    match piece with
    | .text t => t
    | .tag n tag => backslashes (2 * n + 1) ++ tag
  if escaped.endsWith "\\" && !escaped.endsWith "\\\\" then escaped ++ backslashes 1 else escaped

/-- Takes the backslash from each opening bracket that has one before it. -/
def unescapeBrackets : Text → Text
  | [] => []
  | [c] => [c]
  | c :: d :: rest =>
    if c = '\\' && d = '[' then d :: unescapeBrackets rest else c :: unescapeBrackets (d :: rest)

/-- What styled text shows where there are no styles. Of the backslashes before a tag half are shown; an odd
one makes the tag text. -/
def shown (t : Text) : Text :=
  if !t.contains '[' then t
  else
    (pieces t.length t).flatMap fun piece =>
      match piece with
      | .text t => unescapeBrackets t
      | .tag n tag => backslashes (n / 2) ++ (if n % 2 = 1 then tag else [])

end RouteTemplate.Markup
