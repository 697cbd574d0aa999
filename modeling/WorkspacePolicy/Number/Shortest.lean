/-
# Number.Shortest — the shortest decimal that reads back

The decimal that stands for a finite number is the one with the fewest digits that
reads back as the number, and of those the nearest to it. On the decimal grid with
`n` digits only the two neighbours of the number need to be tried: if any point of
the grid reads back, one of them does. Seventeen digits always suffice; the exact
expansion, which reads back whatever its length, closes the search.
-/
import WorkspacePolicy.Number.Binary64

namespace WorkspacePolicy.Binary64

set_option autoImplicit false

/-- The exact decimal of a finite rank. -/
def exactDecimal (rank : Nat) : Decimal :=
  let (m, q) := significand rank
  if 0 ≤ q then ⟨m * Nat.pow 2 q.toNat, 0⟩ else ⟨m * Nat.pow 5 (-q).toNat, q⟩

/-- The power of ten just above `num / den`: ten to it is the first one above the ratio. -/
def decimalPoint (num den : Nat) : Int :=
  if den ≤ num then (Nat.toDigits 10 (num / den)).length
  else 1 - ((Nat.toDigits 10 (den / num)).length : Int)

/-- The grid point below `num / den` for steps of ten to the power `step`, and whether the
point above it is nearer: `lt` for no, `gt` for yes, `eq` for the middle. -/
def gridFloor (num den : Nat) (step : Int) : Nat × Ordering :=
  let (n, d) :=
    if 0 ≤ step then (num, den * Nat.pow 10 step.toNat)
    else (num * Nat.pow 10 (-step).toNat, den)
  (n / d, compare (2 * (n % d)) d)

/-- The decimal with `digits` digits that reads back as `rank`, if there is one. -/
def decimalOfLength? (rank digits : Nat) : Option Decimal :=
  let (num, den) := ratio rank
  let step := decimalPoint num den - digits
  let (low, half) := gridFloor num den step
  let below : Decimal := ⟨low, step⟩
  let above : Decimal := ⟨low + 1, step⟩
  let belowFirst := half == .lt || (half == .eq && low % 2 == 0)
  let candidates := if belowFirst then [below, above] else [above, below]
  candidates.find? fun d => rankOfDecimal d == rank

/-- The decimal with the fewest digits that reads back as `rank`. -/
def shortestDecimal (rank : Nat) : Decimal :=
  ((List.range' 1 17).findSome? (decimalOfLength? rank)).getD (exactDecimal rank)

end WorkspacePolicy.Binary64
