import RouteTemplate.Text.CaseTable

/-!
Lower-casing of texts, by which names are matched. It is full lower-casing: the capital I with dot becomes
two code points, and the capital sigma takes its final form at the end of a word. No folding is done, so
the sharp s stays apart from a double s and the final sigma from the other.
-/

set_option autoImplicit false

namespace RouteTemplate

namespace CodePoint

/-- The lower-case form of a code point on its own: one or two code points. -/
def lower (c : CodePoint) : Text :=
  if c.isAscii then [c.asciiLower]
  else if c.val = 0x130 then [0x69, 0x307]
  else [(CaseTable.lowerRuns.findSome? fun run => run.apply? c.val).elim c fun n => Fin.ofNat _ n]

/-- Does the code point settle what stands beside a sigma: yes for a letter with case, no for another
code point, and nothing for one that is passed over. -/
def besideSigma? (c : CodePoint) : Option Bool :=
  if Ranges.contains CaseTable.ignorableRanges c.val then none
  else some (Ranges.contains CaseTable.casedRanges c.val)

end CodePoint

namespace Text

/-- Does the text begin, after code points that are passed over, with a letter that has case? -/
def startsCased (t : Text) : Bool := (t.findSome? CodePoint.besideSigma?).getD false

/-- Lower-cases the rest of a text, given what comes before it in reverse. A capital sigma is final after
a letter with case and before none. -/
def lowerAfter (before : Text) : Text → Text
  | [] => []
  | c :: rest =>
    (if c.val = 0x3A3 then if startsCased before && !(startsCased rest) then [0x3C2] else [0x3C3]
      else c.lower) ++ lowerAfter (c :: before) rest

def lower (t : Text) : Text := lowerAfter [] t

end Text

end RouteTemplate
