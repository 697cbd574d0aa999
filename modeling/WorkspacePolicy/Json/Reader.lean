/-
# Json.Reader — reading JSON text

The reader works on the rest of the text and reports a fault by the number of
characters that were left, from which the place follows. It accepts the grammar of
JSON with three additions: `NaN`, `Infinity` and `-Infinity` are numbers unless the
reader is strict, numbers out of the range of doubles are infinite, and a text may
hold any character from U+0020 on unescaped. Whole numbers have at most 4300 digits.
Of equal keys of an object the last value counts, at the place of the first key.

Arrays and objects nest to any depth here. The limit that a stack sets to the recursion of a
reader depends on the depth of the calls around it, and is left out.
-/
import WorkspacePolicy.Json.Basic
import WorkspacePolicy.Number.Whole
import WorkspacePolicy.Text.Lines
import WorkspacePolicy.Text.Surrogate

namespace WorkspacePolicy.Json

set_option autoImplicit false

/-- What is wrong with the grammar of a JSON text. -/
inductive Problem where
  | byteOrderMark
  | valueExpected
  | propertyNameExpected
  | colonExpected
  | commaExpected
  | extraData
  | unterminatedString
  | controlCharacter
  | invalidEscape
  | invalidUnicodeEscape
  deriving DecidableEq, Repr

namespace Problem

def message : Problem → String
  | .byteOrderMark => "Unexpected UTF-8 BOM (decode using utf-8-sig)"
  | .valueExpected => "Expecting value"
  | .propertyNameExpected => "Expecting property name enclosed in double quotes"
  | .colonExpected => "Expecting ':' delimiter"
  | .commaExpected => "Expecting ',' delimiter"
  | .extraData => "Extra data"
  | .unterminatedString => "Unterminated string starting at"
  | .controlCharacter => "Invalid control character at"
  | .invalidEscape => "Invalid \\escape"
  | .invalidUnicodeEscape => "Invalid \\uXXXX escape"

end Problem

/-- Why reading stops, with the number of characters from the fault to the end. -/
inductive Fault where
  | malformed (problem : Problem) (left : Nat)
  | integerTooLong (digits : Nat)
  | constantRefused (name : String)
  deriving DecidableEq, Repr

/-- Whether the constants that are not JSON are read. -/
structure ReaderOptions where
  strict : Bool

/-- White space between tokens. -/
def isSpace (c : Char) : Bool :=
  c == ' ' || c == '\t' || c == '\n' || c == '\r'

/-- The text from its next token on. -/
def skipSpace (text : List Char) : List Char :=
  text.dropWhile isSpace

/-- Four hexadecimal digits that do not end the text, and the text after them. -/
def readUnit? : List Char → Option (Nat × List Char)
  | a :: b :: c :: d :: rest =>
    if rest.isEmpty then none
    else do
      let a ← Whole.hexDigit? a
      let b ← Whole.hexDigit? b
      let c ← Whole.hexDigit? c
      let d ← Whole.hexDigit? d
      return (((a * 16 + b) * 16 + c) * 16 + d, rest)
  | _ => none

/-- The character of a simple escape. -/
def simpleEscape? (c : Char) : Option Char :=
  if c = '"' ∨ c = '\\' ∨ c = '/' then some c
  else if c = 'b' then some '\x08'
  else if c = 'f' then some '\x0c'
  else if c = 'n' then some '\n'
  else if c = 'r' then some '\r'
  else if c = 't' then some '\t'
  else none

/-- A unit that begins a surrogate pair. -/
def isHighSurrogate (unit : Nat) : Bool := 0xd800 ≤ unit && unit ≤ 0xdbff

/-- A unit that ends a surrogate pair. -/
def isLowSurrogate (unit : Nat) : Bool := 0xdc00 ≤ unit && unit ≤ 0xdfff

/-- The character of the surrogate pair that `high` begins, or `high` alone where the other
half does not follow. -/
def readLowSurrogate (high : Nat) (rest : List Char) : Except Fault (Char × List Char) :=
  match rest with
  | '\\' :: 'u' :: more =>
    if more.length < 5 then .ok (Text.ofCodePoint high, rest)
    else
      match readUnit? more with
      | none => .error (.malformed .invalidUnicodeEscape (more.length + 1))
      | some (low, after) =>
        if isLowSurrogate low then
          .ok (Char.ofNat (0x10000 + (high - 0xd800) * 0x400 + (low - 0xdc00)), after)
        else .ok (Text.ofCodePoint high, rest)
  | _ => .ok (Text.ofCodePoint high, rest)

/-- The character of an escape, given the text after its backslash, and the text after it. -/
def readEscape (start : Nat) : List Char → Except Fault (Char × List Char)
  | [] => .error (.malformed .unterminatedString start)
  | 'u' :: rest =>
    match readUnit? rest with
    | none => .error (.malformed .invalidUnicodeEscape (rest.length + 1))
    | some (unit, after) =>
      if isHighSurrogate unit then readLowSurrogate unit after
      else .ok (Text.ofCodePoint unit, after)
  | c :: rest =>
    match simpleEscape? c with
    | some e => .ok (e, rest)
    | none => .error (.malformed .invalidEscape (rest.length + 2))

/-- The characters up to the closing quote, and the text after it. `start` is the number of
characters from the opening quote to the end. -/
def readChars (start : Nat) : Nat → List Char → Except Fault (List Char × List Char)
  | 0, _ => .error (.malformed .unterminatedString start)
  | _ + 1, [] => .error (.malformed .unterminatedString start)
  | fuel + 1, c :: rest =>
    if c = '"' then .ok ([], rest)
    else if c = '\\' then do
      let (e, after) ← readEscape start rest
      let (chars, last) ← readChars start fuel after
      return (e :: chars, last)
    else if c.toNat < 0x20 then .error (.malformed .controlCharacter (rest.length + 1))
    else do
      let (chars, last) ← readChars start fuel rest
      return (c :: chars, last)

/-- The text whose opening quote has just been read. -/
def readString (rest : List Char) : Except Fault (String × List Char) := do
  let (chars, after) ← readChars (rest.length + 1) (rest.length + 1) rest
  return (String.ofList chars, after)

/-- The number that a numeral denotes: whole unless it has a fraction or an exponent. -/
def numberOf (negative : Bool) (numeral : Decimal.Numeral) : Except Fault Number :=
  if numeral.isWhole then
    if Number.digitLimit < numeral.whole.length then .error (.integerTooLong numeral.whole.length)
    else
      let value : Int := Decimal.value numeral.whole
      .ok (.int (if negative then -value else value))
  else .ok (.float (.ofDecimal negative numeral.decimal))

/-- A number at the front of a text. Its whole part is a single zero or does not begin with one. -/
def readNumber (text : List Char) : Except Fault (Number × List Char) :=
  let (negative, unsigned) :=
    match text with
    | '-' :: rest => (true, rest)
    | _ => (false, text)
  match unsigned with
  | '0' :: rest => do
    let (numeral, after) := Decimal.scanAfterWhole ['0'] rest
    return (← numberOf negative numeral, after)
  | _ =>
    match Decimal.spanDigits unsigned with
    | ([], _) => .error (.malformed .valueExpected text.length)
    | (whole, rest) => do
      let (numeral, after) := Decimal.scanAfterWhole whole rest
      return (← numberOf negative numeral, after)

/-- The words that stand for a value. -/
def words : List (List Char × Json) := [
  ("null".toList, .null), ("true".toList, .bool true), ("false".toList, .bool false)]

/-- The words that stand for the numbers that JSON cannot write. -/
def constants : List (List Char × Binary64) := [
  ("NaN".toList, .nan), ("Infinity".toList, .infinite false), ("-Infinity".toList, .infinite true)]

/-- The first entry of a table whose word begins the text, and the text after that word. -/
def matchWord? {α : Type} (table : List (List Char × α)) (text : List Char) :
    Option (List Char × α × List Char) :=
  match table.find? fun entry => entry.1.isPrefixOf text with
  | some (word, meaning) => some (word, meaning, text.drop word.length)
  | none => none

/-- A value that is neither a text nor a collection. -/
def readAtom (options : ReaderOptions) (text : List Char) : Except Fault (Json × List Char) :=
  match matchWord? words text with
  | some (_, value, rest) => .ok (value, rest)
  | none =>
    match matchWord? constants text with
    | some (word, value, rest) =>
      if options.strict then .error (.constantRefused (String.ofList word))
      else .ok (.number (.float value), rest)
    | none => do
      let (n, rest) ← readNumber text
      return (.number n, rest)

mutual

/-- A value at the front of a text, and the text after it. -/
def readValue (options : ReaderOptions) : Nat → List Char → Except Fault (Json × List Char)
  | 0, text => .error (.malformed .valueExpected text.length)
  | fuel + 1, text =>
    match text with
    | '"' :: rest => do
      let (s, after) ← readString rest
      return (.string s, after)
    | '[' :: rest =>
      match skipSpace rest with
      | ']' :: after => .ok (.array [], after)
      | items => do
        let (items, after) ← readItems options fuel items
        return (.array items, after)
    | '\x7b' :: rest =>
      match skipSpace rest with
      | '\x7d' :: after => .ok (.object [], after)
      | members => do
        let (members, after) ← readMembers options fuel members
        return (.object (Entries.ofList members), after)
    | _ => readAtom options text
termination_by structural fuel => fuel

/-- The items of an array up to its end. -/
def readItems (options : ReaderOptions) : Nat → List Char → Except Fault (List Json × List Char)
  | 0, text => .error (.malformed .valueExpected text.length)
  | fuel + 1, text => do
    let (item, rest) ← readValue options fuel text
    match skipSpace rest with
    | ']' :: after => return ([item], after)
    | ',' :: more =>
      let (items, after) ← readItems options fuel (skipSpace more)
      return (item :: items, after)
    | other => .error (.malformed .commaExpected other.length)
termination_by structural fuel => fuel

/-- The members of an object up to its end. -/
def readMembers (options : ReaderOptions) :
    Nat → List Char → Except Fault (List (String × Json) × List Char)
  | 0, text => .error (.malformed .propertyNameExpected text.length)
  | fuel + 1, text =>
    match text with
    | '"' :: rest => do
      let (key, afterKey) ← readString rest
      match skipSpace afterKey with
      | ':' :: more =>
        let (value, afterValue) ← readValue options fuel (skipSpace more)
        match skipSpace afterValue with
        | '\x7d' :: after => return ([(key, value)], after)
        | ',' :: next =>
          let (members, after) ← readMembers options fuel (skipSpace next)
          return ((key, value) :: members, after)
        | other => .error (.malformed .commaExpected other.length)
      | other => .error (.malformed .colonExpected other.length)
    | _ => .error (.malformed .propertyNameExpected text.length)
termination_by structural fuel => fuel

end

/-- The value that a whole text writes. -/
def readChecked (options : ReaderOptions) (text : List Char) : Except Fault Json :=
  match text with
  | '\ufeff' :: _ => .error (.malformed .byteOrderMark text.length)
  | _ => do
    let (value, rest) ← readValue options (2 * text.length + 2) (skipSpace text)
    match skipSpace rest with
    | [] => return value
    | extra => .error (.malformed .extraData extra.length)

/-- Why a text is not JSON, for the reader of a message. -/
inductive ReadError where
  | malformed (problem : Problem) (place : Text.Place)
  | integerTooLong (digits : Nat)
  | constantRefused (name : String)
  deriving DecidableEq, Repr

/-- Reads a whole text, refusing the constants that are not JSON if `strict` holds. -/
def read (strict : Bool) (text : String) : Except ReadError Json :=
  let chars := text.toList
  match readChecked ⟨strict⟩ chars with
  | .ok value => .ok value
  | .error (.malformed problem left) =>
    .error (.malformed problem (Text.placeAt chars (chars.length - left)))
  | .error (.integerTooLong digits) => .error (.integerTooLong digits)
  | .error (.constantRefused name) => .error (.constantRefused name)

namespace ReadError

def message : ReadError → String
  | .malformed problem place =>
    s!"{problem.message}: line {place.line} column {place.column} (char {place.offset})"
  | .integerTooLong digits => Whole.tooLongMessage digits
  | .constantRefused name => s!"{name} is not valid JSON"

end ReadError

end WorkspacePolicy.Json
