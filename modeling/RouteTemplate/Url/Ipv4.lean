import RouteTemplate.Text.Basic

set_option autoImplicit false

namespace RouteTemplate.Url

def looksIpv4 (t : Text) : Bool :=
  let rows := Text.splitOn '.' t
  rows.length = 4 && rows.all fun row => !row.isEmpty && row.all CodePoint.isAsciiDigit

/-- A row of one to three digits without a leading zero and at most 255. -/
def isByteNumeral (t : Text) : Bool :=
  !t.isEmpty && t.length ≤ 3 && t.all CodePoint.isAsciiDigit &&
    (t.length = 1 || t.head? ≠ some (CodePoint.ofChar '0')) &&
    t.foldl (fun n c => 10 * n + (c.val - 0x30)) 0 ≤ 255

/-- Is the text four numbers from 0 to 255 with points between them? -/
def isIpv4 (t : Text) : Bool :=
  let rows := Text.splitOn '.' t
  rows.length = 4 && rows.all isByteNumeral

end RouteTemplate.Url
