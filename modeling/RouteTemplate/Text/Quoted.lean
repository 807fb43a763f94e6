import RouteTemplate.Text.Printable

set_option autoImplicit false

namespace RouteTemplate

namespace CodePoint

def escaped (quote c : CodePoint) : Text :=
  if c = quote || c = '\\' then ['\\', c]
  else if c = '\n' then "\\n"
  else if c = '\r' then "\\r"
  else if c = '\t' then "\\t"
  else if c.isPrintable then [c]
  else if c.val < 0x100 then '\\' :: 'x' :: Text.hex 2 c.val
  else if c.val < 0x10000 then '\\' :: 'u' :: Text.hex 4 c.val
  else '\\' :: 'U' :: Text.hex 8 c.val

end CodePoint

namespace Text

/-- The quote that needs the fewest escapes, an apostrophe where both are alike. -/
def quoteFor (t : Text) : CodePoint := if t.contains '\'' && !(t.contains '"') then '"' else '\''

def quoted (t : Text) : Text :=
  let quote := quoteFor t
  quote :: (t.flatMap (CodePoint.escaped quote) ++ [quote])

/-- Octets between quotes, with a choice of code points that stand after a backslash: those outside printable
ASCII are written by number. -/
def quotedOctetsWith (quote : CodePoint) (points : Text) (marked : CodePoint) : Text :=
  let escape (c : CodePoint) : Text :=
    if c.val < 0x7F then CodePoint.escaped marked c else '\\' :: 'x' :: hex 2 c.val
  'b' :: quote :: (points.flatMap escape ++ [quote])

def pointsOf (octets : List UInt8) : Text := octets.map fun octet => Fin.ofNat _ octet.toNat

def quotedOctets (octets : List UInt8) : Text :=
  let quote := quoteFor (pointsOf octets)
  quotedOctetsWith quote (pointsOf octets) quote

/-- The octets of a buffer between quotes; the apostrophe stands after a backslash whatever the quote is. -/
def quotedBuffer (octets : List UInt8) : Text :=
  quotedOctetsWith (quoteFor (pointsOf octets)) (pointsOf octets) '\''

end Text

end RouteTemplate
