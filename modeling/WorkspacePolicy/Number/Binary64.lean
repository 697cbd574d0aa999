/-
# Number.Binary64 — double precision numbers

The finite numbers of the format that are not negative form an ascending sequence
`0, 2^-1074, 2 * 2^-1074, ...`; the place of a number in it is its *rank*, and
infinity follows the last of them. A number is a sign and a rank, or the one value
that is not a number. Every value has one form, so equality of forms is equality
of values (with the two zeros apart).

`Binary64.ofRatio` rounds a ratio to the nearest number; of two equally near ones
it takes the one of even rank. Everything is exact arithmetic on natural numbers.
-/
import WorkspacePolicy.Number.Decimal

namespace WorkspacePolicy

set_option autoImplicit false

namespace Binary64

/-- How many numbers there are between two powers of two. -/
def binade : Nat := Nat.pow 2 52

/-- The rank of infinity. -/
def infiniteRank : Nat := 2047 * binade

end Binary64

/-- A double precision number. -/
inductive Binary64 where
  | nan
  | signed (negative : Bool) (rank : Fin (Binary64.infiniteRank + 1))
  deriving DecidableEq

namespace Binary64

/-- The number of the given sign and rank; ranks past infinity mean infinity. -/
def ofRank (negative : Bool) (rank : Nat) : Binary64 :=
  .signed negative ⟨min rank infiniteRank, by omega⟩

/-- Zero of the given sign. -/
def zero (negative : Bool) : Binary64 := ofRank negative 0

/-- Infinity of the given sign. -/
def infinite (negative : Bool) : Binary64 := ofRank negative infiniteRank

/-- The integer `m` and the exponent `q` with value `m * 2^q` of a finite rank. -/
def significand (rank : Nat) : Nat × Int :=
  if rank < binade then (rank, -1074)
  else (binade + rank % binade, (rank / binade : Nat) - 1075)

/-- `m * 2^q` as a ratio of natural numbers. -/
def scale (m : Nat) (q : Int) : Nat × Nat :=
  if 0 ≤ q then (m * Nat.pow 2 q.toNat, 1) else (m, Nat.pow 2 (-q).toNat)

/-- The value of a finite rank as a ratio. -/
def ratio (rank : Nat) : Nat × Nat :=
  let (m, q) := significand rank
  scale m q

/-- The whole number nearest to `num / den`; of two equally near ones the even one. -/
def nearestWhole (num den : Nat) : Nat :=
  let low := num / den
  let twice := 2 * (num % den)
  if twice < den then low
  else if den < twice then low + 1
  else low + low % 2

/-- The exponent of the power of two that is the last one not above `num / den`. -/
def floorLog2 (num den : Nat) : Int :=
  let guess : Int := (num.log2 : Int) - den.log2
  let (n, d) :=
    if 0 ≤ guess then (num, den * Nat.pow 2 guess.toNat)
    else (num * Nat.pow 2 (-guess).toNat, den)
  if d ≤ n then guess else guess - 1

/-- The rank nearest to `num / den`, where a rank past the last finite one means infinity. -/
def rankOfRatio (num den : Nat) : Nat :=
  if num = 0 then 0
  else
    let q := max (floorLog2 num den - 52) (-1074)
    let m := if 0 ≤ q then nearestWhole num (den * Nat.pow 2 q.toNat)
      else nearestWhole (num * Nat.pow 2 (-q).toNat) den
    (q + 1074).toNat * binade + m

/-- The number nearest to `num / den` with the given sign. -/
def ofRatio (negative : Bool) (num den : Nat) : Binary64 :=
  ofRank negative (rankOfRatio num den)

/-- A decimal as a ratio of natural numbers. -/
def ratioOfDecimal (d : Decimal) : Nat × Nat :=
  if 0 ≤ d.exponent then (d.coefficient * Nat.pow 10 d.exponent.toNat, 1)
  else (d.coefficient, Nat.pow 10 (-d.exponent).toNat)

/-- The rank nearest to a decimal. Decimals from `10^310` on are infinite and those below
`10^-330` are zero, so their powers of ten need not be computed. -/
def rankOfDecimal (d : Decimal) : Nat :=
  let magnitude : Int := (Nat.toDigits 10 d.coefficient).length + d.exponent
  if d.coefficient = 0 then 0
  else if 310 < magnitude then infiniteRank
  else if magnitude < -330 then 0
  else
    let (num, den) := ratioOfDecimal d
    min (rankOfRatio num den) infiniteRank

/-- The number nearest to a decimal with the given sign. -/
def ofDecimal (negative : Bool) (d : Decimal) : Binary64 :=
  ofRank negative (rankOfDecimal d)

/-- Zero of either sign. -/
def isZero : Binary64 → Bool
  | .nan => false
  | .signed _ rank => rank.val == 0

end Binary64

end WorkspacePolicy
