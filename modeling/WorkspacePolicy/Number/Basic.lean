/-
# Number.Basic — numbers and how they are written

A number is a whole number of any size or a double. A whole number is written with
its decimal digits. A double is written with the digits of its shortest decimal:
positionally, with at least one digit on either side of the point, when its first
digit stands for a power of ten from -4 to 15, and with an exponent of at least two
digits otherwise.
-/
import WorkspacePolicy.Number.Shortest

namespace WorkspacePolicy

set_option autoImplicit false

/-- A whole number or a double. -/
inductive Number where
  | int (value : Int)
  | float (value : Binary64)
  deriving DecidableEq

/-- How doubles are laid out. -/
structure FloatLayout where
  /-- The first digit's least power of ten that is written positionally. -/
  leastPositional : Int
  /-- The first digit's greatest power of ten that is written positionally. -/
  greatestPositional : Int
  /-- The least number of digits of an exponent. -/
  exponentWidth : Nat
  /-- The text of the value that is not a number. -/
  nanText : List Char
  /-- The text of infinity, without its sign. -/
  infiniteText : List Char

namespace FloatLayout

/-- The layout of numbers in messages and program text. -/
def plain : FloatLayout := ⟨-4, 15, 2, "nan".toList, "inf".toList⟩

/-- The layout of numbers in JSON text. -/
def json : FloatLayout := ⟨-4, 15, 2, "NaN".toList, "Infinity".toList⟩

/-- An exponent with its mark and sign. -/
def exponentChars (layout : FloatLayout) (exponent : Int) : List Char :=
  let digits := Nat.toDigits 10 exponent.natAbs
  'e' :: (if exponent < 0 then '-' else '+') ::
    (List.replicate (layout.exponentWidth - digits.length) '0' ++ digits)

/-- A decimal that is not negative. -/
def decimalChars (layout : FloatLayout) (d : Decimal) : List Char :=
  let written := Nat.toDigits 10 d.coefficient
  let digits := Text.trimEnd (· == '0') written
  /- the number of digits before the point -/
  let point : Int := written.length + d.exponent
  if layout.leastPositional ≤ point - 1 ∧ point - 1 ≤ layout.greatestPositional then
    if point ≤ 0 then '0' :: '.' :: (List.replicate (-point).toNat '0' ++ digits)
    else
      let before := point.toNat
      if digits.length ≤ before then
        digits ++ List.replicate (before - digits.length) '0' ++ ['.', '0']
      else digits.take before ++ '.' :: digits.drop before
  else
    match digits with
    | [] => ['0', '.', '0']
    | [d] => d :: layout.exponentChars (point - 1)
    | d :: more => d :: '.' :: more ++ layout.exponentChars (point - 1)

/-- A double. -/
def chars (layout : FloatLayout) : Binary64 → List Char
  | .nan => layout.nanText
  | .signed negative rank =>
    let magnitude :=
      if rank.val = Binary64.infiniteRank then layout.infiniteText
      else if rank.val = 0 then ['0', '.', '0']
      else layout.decimalChars (Binary64.shortestDecimal rank.val)
    if negative then '-' :: magnitude else magnitude

end FloatLayout

namespace Number

/-- The decimal digits of a whole number, after a minus sign if it is negative. -/
def intChars : Int → List Char
  | .ofNat n => Nat.toDigits 10 n
  | .negSucc n => '-' :: Nat.toDigits 10 (n + 1)

/-- A number as it is written with the given layout of doubles. -/
def charsWith (layout : FloatLayout) : Number → List Char
  | .int value => intChars value
  | .float value => layout.chars value

/-- A number as program text and messages write it. -/
def chars (n : Number) : List Char := n.charsWith .plain

/-- The text of a number. -/
def text (n : Number) : String := String.ofList n.chars

/-- The greatest number of digits that a whole number is read or written with. -/
def digitLimit : Nat := 4300

/-- The number has a text: it is a double, or a whole number of not too many digits. -/
def isWritable : Number → Bool
  | .int value => value.natAbs < Nat.pow 10 digitLimit
  | .float _ => true

/-- Zero of either kind and sign. -/
def isZero : Number → Bool
  | .int value => value == 0
  | .float value => value.isZero

/-- A text without its sign, and whether the sign is a minus. -/
def splitSign : List Char → Bool × List Char
  | '-' :: rest => (true, rest)
  | '+' :: rest => (false, rest)
  | text => (false, text)

/-- The double that a text writes: `nan`, `inf` or a numeral, with a sign if it has one. A
numeral has digits on one side of its point at least. -/
def float? (text : List Char) : Option Binary64 :=
  let (negative, magnitude) := splitSign text
  let word := magnitude.map Char.toLower
  if word = "nan".toList then some .nan
  else if word = "inf".toList ∨ word = "infinity".toList then some (.infinite negative)
  else
    let (whole, rest) := Decimal.spanDigits magnitude
    let (fraction, rest) :=
      match rest with
      | '.' :: more => Decimal.spanDigits more
      | _ => ([], rest)
    let (exponent, rest) := (Decimal.scanExponent rest).getD (0, rest)
    if rest.isEmpty && !(whole.isEmpty && fraction.isEmpty) then
      some (.ofDecimal negative (.ofDigits (whole ++ fraction) (exponent - fraction.length)))
    else none

end Number

end WorkspacePolicy
