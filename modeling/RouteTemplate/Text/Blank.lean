import RouteTemplate.Text.Ranges

set_option autoImplicit false

namespace RouteTemplate

/-- White space: the code points with the bidirectional class or category of a separator. This adds the four
information separators U+001C to U+001F to the Unicode property and takes in neither U+200B nor U+FEFF. -/
def CodePoint.blankRanges : Ranges :=
  [(0x09, 0x0D), (0x1C, 0x20), (0x85, 0x85), (0xA0, 0xA0), (0x1680, 0x1680), (0x2000, 0x200A),
    (0x2028, 0x2029), (0x202F, 0x202F), (0x205F, 0x205F), (0x3000, 0x3000)]

def CodePoint.isBlank (c : CodePoint) : Bool := Ranges.contains blankRanges c.val

namespace Text

def trim (t : Text) : Text := ((t.dropWhile CodePoint.isBlank).reverse.dropWhile CodePoint.isBlank).reverse

def isBlank (t : Text) : Bool := t.all CodePoint.isBlank

end Text

end RouteTemplate
