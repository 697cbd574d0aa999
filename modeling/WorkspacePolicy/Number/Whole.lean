/-
# Number.Whole — reading whole numbers in a base

A whole number in a base up to sixteen is written with an optional sign and digits of the
base, which may be those of any script. White space may stand around it. A zero and a
letter may mark the base 2, 8 or 16 before the digits. In base ten the digits are limited
in number; the limit counts before anything that follows the digits.
-/
import WorkspacePolicy.Number.Basic
import WorkspacePolicy.Text.Numeral
import WorkspacePolicy.Text.Quoted

namespace WorkspacePolicy.Whole

set_option autoImplicit false

/-- Why a text is no whole number. -/
inductive Fault where
  | malformed
  | tooLong (digits : Nat)
  deriving DecidableEq, Repr

/-- What is said about a whole number with too many digits. -/
def tooLongMessage (digits : Nat) : String :=
  s!"Exceeds the limit ({Number.digitLimit} digits) for integer string conversion: value has " ++
    s!"{digits} digits; use sys.set_int_max_str_digits() to increase the limit"

/-- The first 200 characters of a quoted text. -/
def shortQuoted (text : List Char) : String :=
  String.ofList ((Text.quoted (String.ofList text)).toList.take 200)

/-- What is said about a text that is no whole number in a base. -/
def Fault.message (base : Nat) (text : List Char) : Fault → String
  | .malformed => s!"invalid literal for int() with base {base}: {shortQuoted text}"
  | .tooLong digits => tooLongMessage digits

/-- The value of a hexadecimal digit. -/
def hexDigit? (c : Char) : Option Nat :=
  if '0' ≤ c ∧ c ≤ '9' then some (c.toNat - '0'.toNat)
  else if 'a' ≤ c ∧ c ≤ 'f' then some (c.toNat - 'a'.toNat + 10)
  else if 'A' ≤ c ∧ c ≤ 'F' then some (c.toNat - 'A'.toNat + 10)
  else none

/-- The value of a digit of a base. -/
def digit? (base : Nat) (c : Char) : Option Nat :=
  (hexDigit? c).filter (· < base)

/-- The letter that marks a base after a zero. -/
def baseMark? : Nat → Option Char
  | 2 => some 'b'
  | 8 => some 'o'
  | 16 => some 'x'
  | _ => none

/-- Digits without the zero and the letter that mark their base. -/
def dropBaseMark (base : Nat) : List Char → List Char
  | '0' :: c :: rest => if baseMark? base = some c.toLower then rest else '0' :: c :: rest
  | digits => digits

/-- The number that digits of a base write. -/
def value (base : Nat) (digits : List Char) : Nat :=
  digits.foldl (fun n c => base * n + (hexDigit? c).getD 0) 0

/-- The whole number that a text writes in a base. -/
def read (base : Nat) (text : List Char) : Except Fault Int :=
  let bare := (Text.plainNumeral text).dropWhile Text.isNumeralSpace
  let (negative, unsigned) := Number.splitSign bare
  let unmarked := dropBaseMark base unsigned
  let digits := unmarked.takeWhile fun c => (digit? base c).isSome
  let after := (unmarked.drop digits.length).dropWhile Text.isNumeralSpace
  if base = 10 && Number.digitLimit < digits.length then .error (.tooLong digits.length)
  else if digits.isEmpty || !after.isEmpty then .error .malformed
  else .ok (if negative then -(value base digits : Int) else value base digits)

end WorkspacePolicy.Whole
