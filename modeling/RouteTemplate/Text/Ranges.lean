import RouteTemplate.Text.Basic

set_option autoImplicit false

namespace RouteTemplate

/-- Closed ranges of code points, ascending and apart. -/
abbrev Ranges := List (Nat × Nat)

namespace Ranges

/-- Is the number in one of the ranges? The search stops at the first range that ends beyond it. -/
def contains : Ranges → Nat → Bool
  | [], _ => false
  | (first, last) :: ranges, n => if n ≤ last then first ≤ n else contains ranges n

end Ranges

end RouteTemplate
