import RouteTemplate.Output.Basic
import RouteTemplate.Text.Blank
import RouteTemplate.Text.LineEnd
import RouteTemplate.Text.Lowercase

set_option autoImplicit false

namespace RouteTemplate.CommandLine

/-- What a question came to. At the end of the input it is given up. -/
inductive Reply where
  | yes
  | no
  | givenUp
deriving Repr, DecidableEq

/-- The lines of an input; the last need not have an end. -/
def inputLines (input : Text) : List Text :=
  let pieces := Text.splitOn '\n' input.unifyLineEnds
  if pieces.getLast? = some [] then pieces.dropLast else pieces

/-- Reads an answer; an empty one is no, and others are no answer. -/
def readReply? (line : Text) : Option Reply :=
  let word := line.lower.trim
  if word = Text.ofString "y" || word = Text.ofString "yes" then some .yes
  else if word = Text.ofString "n" || word = Text.ofString "no" || word.isEmpty then some .no
  else none

def confirm (question : Text) : (lines : List Text) → Reply × Written
  | [] => (.givenUp, { data := question })
  | line :: lines =>
    match readReply? line with
    | some reply => (reply, { data := question })
    | none =>
      let (reply, written) := confirm question lines
      (reply, { data := question ++ Text.ofString "Error: invalid input\n" } ++ written)

end RouteTemplate.CommandLine
