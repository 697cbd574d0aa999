/-
# Yaml.Plain — the types of plain scalars

A plain scalar without a tag has the type whose form it has: truth values, floating
numbers, whole numbers, the merge key `<<`, null, moments and the default key `=`;
anything else is a text. Whole numbers may be binary, octal, hexadecimal or sexagesimal,
and digits may be set apart by underscores. A line feed at the end is left out of account.
-/
import WorkspacePolicy.Number.Basic
import WorkspacePolicy.Text.Lines

namespace WorkspacePolicy.Yaml

set_option autoImplicit false

namespace Tag

/-- The full text of a standard tag. -/
def standard (name : String) : String := "tag:yaml.org,2002:" ++ name

def text : String := standard "str"
def null : String := standard "null"
def bool : String := standard "bool"
def int : String := standard "int"
def float : String := standard "float"
def binary : String := standard "binary"
def timestamp : String := standard "timestamp"
def sequence : String := standard "seq"
def mapping : String := standard "map"
def set : String := standard "set"
def orderedMap : String := standard "omap"
def pairs : String := standard "pairs"
def merge : String := standard "merge"
def value : String := standard "value"

end Tag

namespace Plain

/-- A word in lower case, with a capital, and in upper case. -/
def spellings (word : String) : List String :=
  match word.toList with
  | [] => []
  | c :: rest => [word, String.ofList (c.toUpper :: rest), word.toUpper]

/-- The words for truth values. -/
def boolWords : List (String × Bool) :=
  [("yes", true), ("no", false), ("true", true), ("false", false), ("on", true), ("off", false)]

def isBool (text : String) : Bool :=
  boolWords.any fun word => (spellings word.1).contains text

def isNull (text : String) : Bool :=
  text == "" || text == "~" || (spellings "null").contains text

/-- The digits of a base, or underscores between them. -/
def isDigitOf (base : Nat) (c : Char) : Bool :=
  c == '_' || (if base ≤ 10 then '0' ≤ c && c.toNat < '0'.toNat + base
    else Decimal.isDigit c || ('a' ≤ c && c ≤ 'f') || ('A' ≤ c && c ≤ 'F'))

/-- A text after its sign, if it has one. -/
def unsigned : List Char → List Char
  | '-' :: rest => rest
  | '+' :: rest => rest
  | text => text

/-- One sexagesimal place: one digit, or two of which the first is at most 5. -/
def isPlace : List Char → Bool
  | [c] => Decimal.isDigit c
  | [a, b] => '0' ≤ a && a ≤ '5' && Decimal.isDigit b
  | _ => false

/-- Decimal digits and underscores, with a digit in front. -/
def isDecimalRun : List Char → Bool
  | c :: rest => Decimal.isDigit c && rest.all (isDigitOf 10)
  | [] => false

/-- A number in places between colons, at least two of them. -/
def isSexagesimal (text : List Char) : Bool :=
  match Text.pieces ':' text with
  | first :: place :: places => isDecimalRun first && (place :: places).all isPlace
  | _ => false

def isInt (text : List Char) : Bool :=
  match unsigned text with
  | ['0'] => true
  | '0' :: rest =>
    match rest with
    | 'b' :: digits => !digits.isEmpty && digits.all (isDigitOf 2)
    | 'x' :: digits => !digits.isEmpty && digits.all (isDigitOf 16)
    | _ => rest.all (isDigitOf 8)
  | number => isDecimalRun number || isSexagesimal number

/-- An exponent with a sign, or nothing. -/
def isExponent : List Char → Bool
  | [] => true
  | mark :: sign :: digits =>
    (mark == 'e' || mark == 'E') && (sign == '-' || sign == '+') && !digits.isEmpty &&
      digits.all Decimal.isDigit
  | _ => false

def isFloat (text : List Char) : Bool :=
  let number := unsigned text
  let before := number.takeWhile (· != '.')
  match number.dropWhile (· != '.') with
  | [] => false
  | _ :: after =>
    let exponent := after.dropWhile (isDigitOf 10)
    if before.isEmpty then
      after == "inf".toList || after == "Inf".toList || after == "INF".toList ||
        (number.length == text.length &&
          (after == "nan".toList || after == "NaN".toList || after == "NAN".toList ||
            (isDecimalRun (after.takeWhile (isDigitOf 10)) && isExponent exponent)))
    else
      (isDecimalRun before && isExponent exponent) || (isSexagesimal before && exponent.isEmpty)

/-- A time of day, with the offset of its zone in minutes if it has one. -/
structure Time where
  hour : Nat
  minute : Nat
  second : Nat
  zone : Option Int
  deriving DecidableEq, Repr

/-- A date with a time, as far as it is written. -/
structure Moment where
  year : Nat
  month : Nat
  day : Nat
  time : Option Time
  deriving DecidableEq, Repr

/-- From `least` to `most` digits at the front of a text. -/
def takeDigits? (least most : Nat) (text : List Char) : Option (Nat × List Char) :=
  let digits := (text.take most).takeWhile Decimal.isDigit
  if digits.length < least then none
  else some (Decimal.value digits, text.drop digits.length)

/-- The text after a character. -/
def after? (c : Char) : List Char → Option (List Char)
  | d :: rest => if d = c then some rest else none
  | [] => none

def isGap (c : Char) : Bool := c == ' ' || c == '\t'

/-- The offset in minutes of a sign with hours and possibly minutes. -/
def offset? (text : List Char) : Option Int := do
  let (negative, digits) ←
    match text with
    | '-' :: digits => some (true, digits)
    | '+' :: digits => some (false, digits)
    | _ => none
  let (hours, rest) ← takeDigits? 1 2 digits
  let minutes ←
    match rest with
    | [] => some 0
    | ':' :: digits =>
      match takeDigits? 2 2 digits with
      | some (minutes, []) => some minutes
      | _ => none
    | _ => none
  let offset : Int := 60 * hours + minutes
  return if negative then -offset else offset

/-- A time zone after a time: nothing, `Z`, or an offset. -/
def zone? (text : List Char) : Option (Option Int) :=
  match text.dropWhile isGap with
  | [] => if text.isEmpty then some none else none
  | ['Z'] => some (some 0)
  | zone => (offset? zone).map some

/-- The moment that a text writes: year, month and day, with a time after `T` or blanks. -/
def moment? (text : List Char) : Option Moment := do
  let (year, rest) ← takeDigits? 4 4 text
  let rest ← after? '-' rest
  let (month, rest) ← takeDigits? 1 2 rest
  let rest ← after? '-' rest
  let (day, rest) ← takeDigits? 1 2 rest
  if rest.isEmpty then return ⟨year, month, day, none⟩
  let rest ←
    match rest with
    | 'T' :: rest => some rest
    | 't' :: rest => some rest
    | ' ' :: rest => some (rest.dropWhile isGap)
    | '\t' :: rest => some (rest.dropWhile isGap)
    | _ => none
  let (hour, rest) ← takeDigits? 1 2 rest
  let rest ← after? ':' rest
  let (minute, rest) ← takeDigits? 2 2 rest
  let rest ← after? ':' rest
  let (second, rest) ← takeDigits? 2 2 rest
  let rest := match rest with
    | '.' :: fraction => fraction.dropWhile Decimal.isDigit
    | _ => rest
  return ⟨year, month, day, some ⟨hour, minute, second, ← zone? rest⟩⟩

/-- A plain scalar is a moment if it has a time, or two digits for month and day. -/
def isMoment (text : List Char) : Bool :=
  match moment? text with
  | some moment => moment.time.isSome || text.length == 10
  | none => false

/-- The tag of a plain scalar. -/
def tagOf (scalar : String) : String :=
  let text := Text.dropFinalLineFeed scalar.toList
  let s := String.ofList text
  if s == "" then (if scalar == "" then Tag.null else Tag.text)
  else if isBool s then Tag.bool
  else if isFloat text then Tag.float
  else if isInt text then Tag.int
  else if s == "<<" then Tag.merge
  else if isNull s then Tag.null
  else if isMoment text then Tag.timestamp
  else if s == "=" then Tag.value
  else Tag.text

end Plain

end WorkspacePolicy.Yaml
