import RouteTemplate.Json.Basic

set_option autoImplicit false

namespace RouteTemplate.Json

def escapePoint (c : CodePoint) : Text :=
  if c = '"' then "\\\""
  else if c = '\\' then "\\\\"
  else if c = '\n' then "\\n"
  else if c = '\r' then "\\r"
  else if c = '\t' then "\\t"
  else if c.val = 0x08 then "\\b"
  else if c.val = 0x0C then "\\f"
  else if c.val < 0x20 then '\\' :: 'u' :: Text.hex 4 c.val
  else [c]

def quoted (t : Text) : Text := List.flatten ["\"", t.flatMap escapePoint, "\""]

/-- The text of a binary number; the infinities and the NaN have words. -/
def numberText : Binary64 → Text
  | .infinite negative => if negative then "-Infinity" else "Infinity"
  | .nan => "NaN"
  | x => x.text

def newline (level : Nat) : Text := '\n' :: List.replicate (2 * level) (CodePoint.ofChar ' ')

mutual

/-- The text of a document that stands on a level. -/
def textAt (level : Nat) : Json → Text
  | null => "null"
  | bool b => if b then "true" else "false"
  | int n => Text.ofInt n
  | float x => numberText x
  | text t => quoted t
  | array [] => "[]"
  | array (item :: items) =>
    List.flatten ["[", newline (level + 1), textAt (level + 1) item, itemsAt (level + 1) items, newline level, "]"]
  | object [] => "\x7b\x7d"
  | object ((key, item) :: entries) =>
    List.flatten ["\x7b", newline (level + 1), quoted key, ": ", textAt (level + 1) item,
      entriesAt (level + 1) entries, newline level, "\x7d"]

def itemsAt (level : Nat) : List Json → Text
  | [] => []
  | item :: items => List.flatten [",", newline level, textAt level item, itemsAt level items]

def entriesAt (level : Nat) : List (Text × Json) → Text
  | [] => []
  | (key, item) :: entries =>
    List.flatten [",", newline level, quoted key, ": ", textAt level item, entriesAt level entries]

end

def write (document : Json) : Text := textAt 0 document

end RouteTemplate.Json
