import RouteTemplate.Output.Columns
import RouteTemplate.Output.Markup
import RouteTemplate.Text.Wrap

set_option autoImplicit false

namespace RouteTemplate.Output

/-- A text in the middle of a width, in as many lines as it needs; an odd blank goes to the right. -/
def centred (width : Nat) (t : Text) : List Text :=
  (t.wrap width).map fun line =>
    let body := line.trimEnd
    Text.padRight width (List.replicate ((width - body.cells) / 2) (CodePoint.ofChar ' ') ++ body)

/-- A line across the table: a left end, a stroke for each column, joints between, and a right end. -/
def rule (left stroke joint right : Char) (widths : List Nat) : Text :=
  List.flatten [[CodePoint.ofChar left],
    Text.joinWith [CodePoint.ofChar joint] (widths.map fun width => List.replicate width (CodePoint.ofChar stroke)),
    [CodePoint.ofChar right]]

/-- The lines of a cell in a column: with a blank on each side, and cropped where a word does not fit. -/
def cellLines (width : Nat) (cell : Text) : List Text :=
  let room := width - 2
  (Text.splitOn '\n' cell).flatMap fun line =>
    (line.cut false room).map fun part =>
      List.flatten [" ", Text.padRight room ((part.dropOverhang room).cropMarked room), " "]

/-- A row of cells between strokes, as high as its highest cell. Lower cells stand at the bottom if `sunken`, else at
the top. -/
def gridRow (stroke : Char) (sunken : Bool) (widths : List Nat) (cells : List Text) : List Text :=
  let bar : Text := [CodePoint.ofChar stroke]
  let columns := (widths.zip cells).map fun (width, cell) => (width, cellLines width cell)
  let height := (columns.map fun column => column.2.length).foldl max 1
  let filled := columns.map fun (width, lines) =>
    let missing := List.replicate (height - lines.length) (Text.padRight width [])
    if sunken then missing ++ lines else lines ++ missing
  (List.range height).map fun i =>
    List.flatten [bar, Text.joinWith bar (filled.map fun lines => lines[i]?.getD []), bar]

def fillRow (columns : Nat) (row : List Text) : List Text := row ++ List.replicate (columns - row.length) []

/-- The width that a cell would take up: its longest line with a blank on each side. -/
def wantedWidth (cell : Text) : Nat := ((Text.splitOn '\n' cell).map Text.cells).foldl max 0 + 2

/-- The lines of a table with its title above, on a terminal of `room` cells. A table without columns is one empty
line. -/
def gridLines (room : Nat) (headers : List Text) (rows : List (List Text)) (title : Option Text) : List Text :=
  let columns := ((headers :: rows).map List.length).foldl max 0
  if columns = 0 then [[]]
  else
    let header := fillRow columns (headers.map Markup.shown)
    let body := rows.map fun row => fillRow columns (row.map fun cell => Markup.shown (Markup.escape cell))
    let widths := settleWidths (room - (columns + 1)) ((List.range columns).map fun i =>
      ((header :: body).map fun row => wantedWidth ((row[i]?).getD [])).foldl max 0)
    let top := rule '┏' '━' '┳' '┓' widths
    let titleLines : List Text := match title with
      | some (c :: rest) => centred top.length (Markup.shown (Markup.escape (c :: rest)))
      | _ => []
    titleLines ++ [top] ++ gridRow '┃' true widths header ++ [rule '┡' '━' '╇' '┩' widths] ++
      body.flatMap (gridRow '│' false widths) ++ [rule '└' '─' '┴' '┘' widths]

end RouteTemplate.Output
