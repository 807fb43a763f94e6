import RouteTemplate.Table

set_option autoImplicit false

namespace RouteTemplate.Output

-- The core library's sums, also where other instances are in scope.
attribute [local instance (high)] Zero.ofOfNat0

/-- The quotient of two numbers, rounded; a half goes to the even neighbour. -/
def roundedShare (excess parts : Nat) : Nat :=
  let whole := excess / parts
  let left := 2 * (excess % parts)
  if left < parts then whole else if parts < left then whole + 1 else whole + whole % 2

/-- Takes an excess from the columns that can give something, in equal shares and from none more than it can give.
-/
def takeShares : (excess parts : Nat) → (columns : List (Nat × Nat)) → List Nat
  | _, _, [] => []
  | excess, parts, (width, most) :: columns =>
    if most = 0 then width :: takeShares excess parts columns
    else
      let share := min most (roundedShare excess parts)
      (width - share) :: takeShares (excess - share) (parts - 1) columns

/-- Takes an excess from columns, each with the most that it can give. -/
def reduce (excess : Nat) (columns : List (Nat × Nat)) : List Nat :=
  takeShares excess (columns.countP fun column => column.2 ≠ 0) columns

/-- Narrows the widest columns until all fit. Every step makes a column narrower, so `fuel` of the sum of the widths
suffices. -/
def narrow (limit : Nat) : (fuel : Nat) → List Nat → List Nat
  | 0, widths => widths
  | fuel + 1, widths =>
    let excess := widths.sum - limit
    let widest := widths.foldl max 0
    let next := (widths.filter fun width => width ≠ widest).foldl max 0
    if excess = 0 || widest = 0 then widths
    else
      narrow limit fuel (reduce excess (widths.map fun width =>
        (width, if width = widest then min excess (widest - next) else 0)))

/-- The widths of columns, of which all together have at most `limit`, given how wide each would be. -/
def settleWidths (limit : Nat) (wanted : List Nat) : List Nat :=
  let capped := wanted.map fun width => min width limit
  if capped.sum ≤ limit then capped
  else
    let narrowed := narrow limit capped.sum capped
    let excess := narrowed.sum - limit
    let widths := if excess = 0 then narrowed else reduce excess (narrowed.map fun width => (width, width))
    (wanted.zip widths).map fun (width, most) => min width most

end RouteTemplate.Output
