/-
# Yaml.Value — the values of scalars

The tag of a scalar decides what its text stands for. A truth value is one of six words in
small or capital letters. A whole number may be binary, octal, hexadecimal or sexagesimal
and may have underscores in it, and so may a floating number. A moment must exist in the
calendar and its time zone must be less than a day away. Bytes are written in base 64.

The value of a collection is its number in the document.
-/
import WorkspacePolicy.Number.Arithmetic
import WorkspacePolicy.Number.Whole
import WorkspacePolicy.Text.LowerCase
import WorkspacePolicy.Yaml.Cursor
import WorkspacePolicy.Yaml.Plain

namespace WorkspacePolicy.Yaml

set_option autoImplicit false

/-- A value in a document. -/
inductive Value where
  | null
  | bool (value : Bool)
  | number (value : Number)
  | text (value : String)
  | bytes (size : Nat)
  | moment (value : Plain.Moment)
  | collection (number : Nat)
  deriving Inhabited

namespace Value

/-- The word of a truth value. -/
def ofBoolWord (text : String) : Except Fault Value :=
  let word := Text.lower text
  match Plain.boolWords.find? (·.1 == word) with
  | some (_, value) => .ok (.bool value)
  | none => .error (.unknownWord word)

/-- The whole number that a text writes in a base. -/
def wholeOfBase (base : Nat) (text : List Char) : Except Fault Int :=
  match Whole.read base text with
  | .ok value => .ok value
  | .error .malformed => .error (.notWhole base (String.ofList text))
  | .error (.tooLong digits) => .error (.tooManyDigits digits)

/-- A number in places of base sixty. -/
def ofPlaces (places : List Int) : Int :=
  places.foldl (fun n place => 60 * n + place) 0

/-- The whole number of a text without a sign. -/
def wholeMagnitude (text : List Char) : Except Fault Int :=
  match text with
  | [] => .error .emptyScalar
  | ['0'] => .ok 0
  | '0' :: 'b' :: digits => wholeOfBase 2 digits
  | '0' :: 'x' :: digits => wholeOfBase 16 digits
  | '0' :: _ => wholeOfBase 8 text
  | _ =>
    if text.contains ':' then ofPlaces <$> (Text.pieces ':' text).mapM (wholeOfBase 10)
    else wholeOfBase 10 text

/-- The whole number of a scalar. -/
def ofWhole (text : String) : Except Fault Value := do
  let bare := text.toList.filter (· != '_')
  if bare.isEmpty then throw .emptyScalar
  let (negative, digits) := Number.splitSign bare
  let magnitude ← wholeMagnitude digits
  return .number (.int (if negative then -magnitude else magnitude))

/-- The double that a text writes. -/
def floatOf (text : List Char) : Except Fault Binary64 :=
  let plain := (Text.plainNumeral text).dropWhile Text.isNumeralSpace
  match Number.float? (Text.trimEnd Text.isNumeralSpace plain) with
  | some value => .ok value
  | none => .error (.notFloating (String.ofList text))

/-- The sum of places of base sixty, the last of which counts `unit`. The places are given from
the last one on, and each step is rounded. -/
def sumPlaces (sum : Binary64) (unit : Nat) : List Binary64 → Except Fault Binary64
  | [] => .ok sum
  | place :: places =>
    match Binary64.ofNat? unit with
    | some weight => sumPlaces (sum.add (place.mul weight)) (60 * unit) places
    | none => .error .tooManyPlaces

/-- The double of a text without a sign. -/
def floatMagnitude (text : List Char) : Except Fault Binary64 :=
  if text = ".inf".toList then .ok (.infinite false)
  else if text = ".nan".toList then .ok .nan
  else if text.contains ':' then do
    let places ← (Text.pieces ':' text).mapM floatOf
    sumPlaces (.zero false) 1 places.reverse
  else floatOf text

/-- The double of a scalar. -/
def ofFloating (text : String) : Except Fault Value := do
  let bare := (Text.lower (String.ofList (text.toList.filter (· != '_')))).toList
  if bare.isEmpty then throw .emptyScalar
  let (negative, magnitude) := Number.splitSign bare
  match ← floatMagnitude magnitude with
  | .nan => return .number (.float .nan)
  | .signed sign rank => return .number (.float (.signed (negative != sign) rank))

/-- The number of days of a month. -/
def daysIn (year month : Nat) : Nat :=
  if month = 2 then
    if year % 4 = 0 ∧ (year % 100 ≠ 0 ∨ year % 400 = 0) then 29 else 28
  else if [4, 6, 9, 11].contains month then 30
  else 31

/-- A part that does not exist in the calendar. -/
def outside (part : CalendarPart) : Except Fault Unit := .error (.outsideCalendar part)

/-- The date of a moment exists in the calendar. -/
def checkDate (m : Plain.Moment) : Except Fault Unit :=
  if m.year = 0 then outside (.year 0)
  else if m.month < 1 ∨ 12 < m.month then outside .month
  else if m.day < 1 ∨ daysIn m.year m.month < m.day then outside .day
  else .ok ()

/-- The time of day exists. -/
def checkTime (t : Plain.Time) : Except Fault Unit :=
  if 23 < t.hour then outside .hour
  else if 59 < t.minute then outside .minute
  else if 59 < t.second then outside .second
  else .ok ()

/-- A time zone is less than a day away. -/
def checkZone (t : Plain.Time) : Except Fault Unit :=
  match t.zone with
  | some minutes =>
    if minutes.natAbs < 24 * 60 then .ok () else .error (.zoneTooFar minutes)
  | none => .ok ()

/-- The moment of a scalar. The time zone is looked at first. -/
def ofMoment (text : String) : Except Fault Value := do
  match Plain.moment? (Text.dropFinalLineFeed text.toList) with
  | none => throw .noMoment
  | some m =>
    match m.time with
    | none => checkDate m
    | some t =>
      checkZone t
      checkDate m
      checkTime t
    return .moment m

/-- A character of base 64. -/
def isBase64Char (c : Char) : Bool :=
  Decimal.isDigit c || ('A' ≤ c && c ≤ 'Z') || ('a' ≤ c && c ≤ 'z') || c == '+' || c == '/'

/-- The number of bytes that a text in base 64 writes. Other characters are passed over;
`place` is the place in the group of four and `padding` the number of equals signs in a row. -/
def base64Size : Nat → Nat → List Char → Option Nat
  | place, _, [] => if place = 0 then some 0 else none
  | place, padding, c :: rest =>
    if c = '=' then
      if 2 ≤ place ∧ 4 ≤ place + padding + 1 then some 0
      else base64Size place (if 2 ≤ place then padding + 1 else padding) rest
    else if isBase64Char c then
      (base64Size ((place + 1) % 4) 0 rest).map fun n => if place = 0 then n else n + 1
    else base64Size place padding rest

/-- The bytes of a scalar in base 64. -/
def ofBase64 (text : String) : Except Fault Value :=
  if text.toList.all (·.toNat < 0x80) then
    match base64Size 0 0 text.toList with
    | some size => .ok (.bytes size)
    | none => .error .malformed
  else .error .malformed

/-- The tag makes a scalar. -/
def isScalarTag (tag : String) : Bool :=
  [Tag.text, Tag.null, Tag.bool, Tag.int, Tag.float, Tag.binary, Tag.timestamp].contains tag

/-- The value of a scalar by its tag. -/
def ofScalar (tag text : String) : Except Fault Value :=
  if tag = Tag.text then .ok (.text text)
  else if tag = Tag.null then .ok .null
  else if tag = Tag.bool then ofBoolWord text
  else if tag = Tag.int then ofWhole text
  else if tag = Tag.float then ofFloating text
  else if tag = Tag.binary then ofBase64 text
  else if tag = Tag.timestamp then ofMoment text
  else .error .malformed

end Value

end WorkspacePolicy.Yaml
