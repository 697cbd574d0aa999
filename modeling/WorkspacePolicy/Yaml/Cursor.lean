/-
# Yaml.Cursor — a place in YAML text

YAML text is read by looking ahead from a cursor and moving it. The cursor knows the
number of characters before it, its line and its column; past the end of the text it
sees the character U+0000, which the text itself cannot hold.

Line breaks are line feed, carriage return, both together, U+0085, U+2028 and U+2029.
-/
import WorkspacePolicy.Text.Blank

namespace WorkspacePolicy.Yaml

set_option autoImplicit false

/-- A part of a date or time that can lie outside the calendar. -/
inductive CalendarPart where
  | year (value : Nat)
  | month
  | day
  | hour
  | minute
  | second
  deriving DecidableEq, Repr

/-- Why YAML text has no value. -/
inductive Fault where
  /-- The text is not YAML, or its nodes make no value. -/
  | malformed
  /-- An escape by code names no code point. -/
  | codeOutOfRange
  /-- The code of an escape takes more than 31 bits. -/
  | codeTooLarge
  /-- A scalar is no whole number in a base. -/
  | notWhole (base : Nat) (text : String)
  /-- A whole number has too many digits. -/
  | tooManyDigits (digits : Nat)
  /-- A scalar is no floating number. -/
  | notFloating (text : String)
  /-- A place of a floating number counts more than the greatest double. -/
  | tooManyPlaces
  /-- A scalar is none of the words of its type. -/
  | unknownWord (word : String)
  /-- A scalar that must have a first character is empty. -/
  | emptyScalar
  /-- A scalar of the type of moments is no date. -/
  | noMoment
  /-- A mapping of the type of moments has a default entry, which does not make it a date. -/
  | momentOfMapping
  /-- A part of a date or time does not exist in the calendar. -/
  | outsideCalendar (part : CalendarPart)
  /-- A time zone is a day or more away, in minutes. -/
  | zoneTooFar (minutes : Int)
  /-- The default entry of a mapping leads back to the mapping. -/
  | endlessDefault
  deriving DecidableEq, Repr

/-- The rest of a text with the place where it begins. -/
structure Cursor where
  rest : List Char
  /-- The number of characters of the whole text. -/
  size : Nat
  index : Nat
  line : Nat
  column : Nat
  deriving Repr

/-- The character that stands for the end of the text. -/
def endMark : Char := '\x00'

/-- A character that ends a line. -/
def isBreak (c : Char) : Bool :=
  c == '\r' || c == '\n' || c == '\x85' || c == '\u2028' || c == '\u2029'

def isBreakOrEnd (c : Char) : Bool :=
  c == endMark || isBreak c

/-- Space, line break or end. -/
def isSpaceOrEnd (c : Char) : Bool :=
  c == ' ' || isBreakOrEnd c

/-- Space, tab, line break or end: what separates tokens. -/
def isSeparator (c : Char) : Bool :=
  c == '\t' || isSpaceOrEnd c

/-- A character of the names of anchors, directives and tag handles. -/
def isWordChar (c : Char) : Bool :=
  ('0' ≤ c && c ≤ '9') || ('A' ≤ c && c ≤ 'Z') || ('a' ≤ c && c ≤ 'z') || c == '-' || c == '_'

/-- The character may stand in YAML text. -/
def isAllowed (c : Char) : Bool :=
  let n := c.toNat
  n == 9 || n == 0xa || n == 0xd || (0x20 ≤ n && n ≤ 0x7e) || n == 0x85 ||
    (0xa0 ≤ n && n ≤ 0xd7ff) || (0xe000 ≤ n && n ≤ 0xfffd) || 0x10000 ≤ n

namespace Cursor

/-- The start of a text. -/
def start (text : List Char) : Cursor := ⟨text, text.length, 0, 0, 0⟩

/-- The character `n` places ahead. -/
def peek (c : Cursor) (n : Nat) : Char :=
  (c.rest[n]?).getD endMark

/-- The cursor one character on. -/
def next (c : Cursor) : Cursor :=
  match c.rest with
  | [] => c
  | x :: rest =>
    let breaks := x == '\n' || x == '\x85' || x == '\u2028' || x == '\u2029' ||
      (x == '\r' && rest.head? != some '\n')
    if breaks then ⟨rest, c.size, c.index + 1, c.line + 1, 0⟩
    else if x == '\ufeff' then ⟨rest, c.size, c.index + 1, c.line, c.column⟩
    else ⟨rest, c.size, c.index + 1, c.line, c.column + 1⟩

/-- The cursor `n` characters on. -/
def forward (c : Cursor) : Nat → Cursor
  | 0 => c
  | n + 1 => c.next.forward n

/-- The characters from the cursor on that satisfy `p`. -/
def span (c : Cursor) (p : Char → Bool) : List Char :=
  c.rest.takeWhile p

/-- The cursor after the characters that satisfy `p`. -/
def skip (c : Cursor) (p : Char → Bool) : Cursor :=
  c.forward (c.span p).length

/-- The line break at the cursor, as the text it stands for, and the cursor after it. -/
def lineBreak? (c : Cursor) : Option (Char × Cursor) :=
  let x := c.peek 0
  if x == '\r' && c.peek 1 == '\n' then some ('\n', c.forward 2)
  else if x == '\r' || x == '\n' || x == '\x85' then some ('\n', c.next)
  else if x == '\u2028' || x == '\u2029' then some (x, c.next)
  else none

/-- The cursor after the line break it stands at, if it stands at one. -/
def skipBreak (c : Cursor) : Cursor :=
  match c.lineBreak? with
  | some (_, after) => after
  | none => c

/-- The cursor stands at three hyphens or three periods that separate documents. -/
def isDocumentMark (c : Cursor) (mark : Char) : Bool :=
  c.peek 0 == mark && c.peek 1 == mark && c.peek 2 == mark && isSeparator (c.peek 3)

/-- The cursor stands at the start or the end of a document. -/
def atDocumentMark (c : Cursor) : Bool :=
  c.isDocumentMark '-' || c.isDocumentMark '.'

/-- The cursor at the end of its line, where only a comment may come before that. -/
def skipCommentLine? (c : Cursor) : Option Cursor :=
  let c := c.skip (· == ' ')
  let c := if c.peek 0 == '#' then c.skip (!isBreakOrEnd ·) else c
  if isBreakOrEnd (c.peek 0) then some c.skipBreak else none

end Cursor

end WorkspacePolicy.Yaml
