/-
# Number.Arithmetic — sums and products of doubles

The sum or product of two finite doubles is the double nearest to the exact one. Infinity
absorbs finite numbers; infinity less infinity and zero times infinity are not numbers.
-/
import WorkspacePolicy.Number.Binary64

namespace WorkspacePolicy.Binary64

set_option autoImplicit false

/-- The double nearest to a whole number; `none` where that is infinity. -/
def ofNat? (n : Nat) : Option Binary64 :=
  let rank := rankOfRatio n 1
  if rank < infiniteRank then some (ofRank false rank) else none

/-- The ratio of a finite double with its sign. -/
def signedRatio (negative : Bool) (rank : Nat) : Int × Nat :=
  let (num, den) := ratio rank
  (if negative then -(num : Int) else num, den)

/-- The product of two doubles. -/
def mul : Binary64 → Binary64 → Binary64
  | .nan, _ => .nan
  | _, .nan => .nan
  | .signed a p, .signed b q =>
    if p.val = infiniteRank ∨ q.val = infiniteRank then
      if p.val = 0 ∨ q.val = 0 then .nan else infinite (a != b)
    else
      let (num, den) := ratio p
      let (num', den') := ratio q
      ofRatio (a != b) (num * num') (den * den')

/-- The sum of two doubles. Zeros of two signs add up to positive zero. -/
def add : Binary64 → Binary64 → Binary64
  | .nan, _ => .nan
  | _, .nan => .nan
  | .signed a p, .signed b q =>
    if p.val = infiniteRank then
      if q.val = infiniteRank ∧ a ≠ b then .nan else infinite a
    else if q.val = infiniteRank then infinite b
    else
      let (num, den) := signedRatio a p
      let (num', den') := signedRatio b q
      let sum := num * den' + num' * den
      ofRatio (if sum = 0 then a && b else sum < 0) sum.natAbs (den * den')

end WorkspacePolicy.Binary64
