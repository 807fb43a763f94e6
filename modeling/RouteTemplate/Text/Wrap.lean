import RouteTemplate.Text.Blank
import RouteTemplate.Text.CellWidth

set_option autoImplicit false

namespace RouteTemplate.Text

def trimEnd (t : Text) : Text := (t.reverse.dropWhile CodePoint.isBlank).reverse

/-- Stretches of a text, each up to the end of the white space behind it. -/
def stretches : Text → List Text
  | [] => []
  | c :: rest =>
    match stretches rest with
    | [] => [[c]]
    | next :: more =>
      if c.isBlank && !(next.head?.any CodePoint.isBlank) then [c] :: next :: more else (c :: next) :: more

/-- The words of a text, each with the white space behind it, the first also with the white space in front. -/
def words (t : Text) : List Text :=
  match stretches t with
  | first :: next :: more => if isBlank first then (first ++ next) :: more else first :: next :: more
  | found => found

/-- Folds a text into pieces of a width, going on with a piece of which some is there. A code point wider than that
is a piece of its own. -/
def fold (width : Nat) : (piece : Text) → Text → List Text
  | piece, [] => [piece]
  | piece, c :: rest =>
    if width < cells piece + c.cells && !piece.isEmpty then piece :: fold width [c] rest
    else fold width (piece ++ [c]) rest

/-- A line that ends; one with nothing on it is none. -/
def ended (line : Text) : List Text := if line.isEmpty then [] else [line]

/-- The lines of words that follow each other, going on with a line of which some is there. With `folding` a word
wider than a whole line is folded. -/
def fill (folding : Bool) (width : Nat) : (line : Text) → List Text → List Text
  | line, [] => [line]
  | line, word :: words =>
    if cells line + cells (trimEnd word) ≤ width then fill folding width (line ++ word) words
    else if folding && width < cells (trimEnd word) then
      ended line ++ (fold width [] word).dropLast ++
        fill folding width ((fold width [] word).getLast?.getD []) words
    else ended line ++ fill folding width word words

def cut (folding : Bool) (width : Nat) (t : Text) : List Text := fill folding width [] (words t)

/-- A line without so much of the white space at its end as stands beyond the width. -/
def dropOverhang (width : Nat) (line : Text) : Text :=
  let blanks := line.length - (trimEnd line).length
  line.take (line.length - min blanks (line.length - width))

def padRight (width : Nat) (t : Text) : Text := t ++ List.replicate (width - cells t) (CodePoint.ofChar ' ')

/-- The beginning of a text that fits into a width. -/
def takeCells : (width : Nat) → Text → Text
  | _, [] => []
  | width, c :: rest => if c.cells ≤ width then c :: takeCells (width - c.cells) rest else []

/-- A text cropped to a width; half of a wide code point is a blank. -/
def crop (width : Nat) (t : Text) : Text := if cells t ≤ width then t else padRight width (takeCells width t)

/-- A text cropped to a width, with an ellipsis in place of what is missing. -/
def cropMarked (width : Nat) (t : Text) : Text :=
  if cells t ≤ width then t else crop (width - 1) t ++ [CodePoint.ofChar '…']

def wrap (width : Nat) (t : Text) : List Text :=
  (splitOn '\n' t).flatMap fun line => (cut true width line).map fun part => crop width (dropOverhang width part)

end RouteTemplate.Text
