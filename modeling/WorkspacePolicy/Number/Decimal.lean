/-
# Number.Decimal — decimal numerals

A decimal is a coefficient times a power of ten. `Decimal.ofDigits` reads a run of
digits with the power of ten of its last digit; zeros at the end move into the
power, so numerals that differ only in such zeros give one decimal.

`Decimal.scan` reads the longest numeral at the front of a text: digits, then
possibly a point and more digits, then possibly an exponent.
-/
import WorkspacePolicy.Text.Blank

namespace WorkspacePolicy

set_option autoImplicit false

/-- `coefficient` times ten to the power `exponent`. -/
structure Decimal where
  coefficient : Nat
  exponent : Int
  deriving DecidableEq, Repr

namespace Decimal

/-- An ASCII digit. -/
def isDigit (c : Char) : Bool :=
  '0' ≤ c && c ≤ '9'

/-- The number that a run of digits writes in base ten. -/
def value (digits : List Char) : Nat :=
  digits.foldl (fun n c => 10 * n + (c.toNat - '0'.toNat)) 0

/-- The decimal of a run of digits whose last digit counts ten to the power `exponent`. -/
def ofDigits (digits : List Char) (exponent : Int) : Decimal :=
  let kept := Text.trimEnd (· == '0') digits
  ⟨value kept, exponent + (digits.length - kept.length : Nat)⟩

/-- The digits at the front of a text, and the text after them. -/
def spanDigits (text : List Char) : List Char × List Char :=
  (text.takeWhile isDigit, text.dropWhile isDigit)

/-- The exponent part at the front of a text: `e` or `E`, possibly a sign, at least one digit. -/
def scanExponent : List Char → Option (Int × List Char)
  | [] => none
  | mark :: rest =>
    if mark = 'e' ∨ mark = 'E' then
      let (negative, digitsAndRest) :=
        match rest with
        | '-' :: more => (true, more)
        | '+' :: more => (false, more)
        | _ => (false, rest)
      match spanDigits digitsAndRest with
      | ([], _) => none
      | (digits, after) => some (if negative then -(value digits : Int) else value digits, after)
    else none

/-- A numeral, with the digits as written and whether it is a whole one. -/
structure Numeral where
  whole : List Char
  fraction : List Char
  exponent : Int
  isWhole : Bool
  deriving DecidableEq, Repr

/-- The value of a numeral. -/
def Numeral.decimal (n : Numeral) : Decimal :=
  ofDigits (n.whole ++ n.fraction) (n.exponent - n.fraction.length)

/-- The fraction and exponent after the whole digits of a numeral, if they are there. -/
def scanAfterWhole (whole rest : List Char) : Numeral × List Char :=
  let (fraction, afterFraction) :=
    match rest with
    | '.' :: more =>
      match spanDigits more with
      | ([], _) => ([], rest)
      | (digits, after) => (digits, after)
    | _ => ([], rest)
  match scanExponent afterFraction with
  | some (exponent, after) => (⟨whole, fraction, exponent, false⟩, after)
  | none => (⟨whole, fraction, 0, fraction.isEmpty⟩, afterFraction)

end Decimal

end WorkspacePolicy
