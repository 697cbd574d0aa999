/-
# Json.Writer — JSON text

A style fixes the white space between tokens and whether characters outside ASCII
are escaped. In every style a text is quoted with `\"`, `\\`, `\b`, `\f`, `\n`,
`\r`, `\t` and `\u00XX` for the other control characters below U+0020; the ASCII
styles also escape everything outside U+0020 to U+007E, in UTF-16 units, so that a lone
surrogate can be written in them too. A double
that is not finite is written `NaN`, `Infinity` or `-Infinity`, which strict readers
refuse.
-/
import WorkspacePolicy.Json.Basic
import WorkspacePolicy.Text.Quoted

namespace WorkspacePolicy.Json

set_option autoImplicit false

/-- How JSON text is laid out. -/
structure Style where
  /-- The text between two items that stand on one line. -/
  itemSeparator : List Char
  /-- The text between a key and its value. -/
  keySeparator : List Char
  /-- Escape everything outside ASCII. -/
  asciiOnly : Bool
  /-- With `some n`, items stand on lines of their own, indented by `n` more than their parent. -/
  indent : Option Nat

namespace Style

/-- No white space, all characters as they are. -/
def compact : Style := ⟨[','], [':'], false, none⟩

/-- One line in ASCII, with a blank after each separator. -/
def line : Style := ⟨[',', ' '], [':', ' '], true, none⟩

/-- ASCII with one item a line, indented by two. -/
def indented : Style := ⟨[','], [':', ' '], true, some 2⟩

end Style

/-- The escape of one UTF-16 unit. -/
def unitEscape (unit : Nat) : List Char :=
  '\\' :: 'u' :: Text.hexPadded 4 unit

/-- One character of a quoted text. -/
def escapeChar (asciiOnly : Bool) (c : Char) : List Char :=
  let n := if asciiOnly then Text.codePoint c else c.toNat
  if c = '"' then ['\\', '"']
  else if c = '\\' then ['\\', '\\']
  else if c = '\n' then ['\\', 'n']
  else if c = '\r' then ['\\', 'r']
  else if c = '\t' then ['\\', 't']
  else if n = 8 then ['\\', 'b']
  else if n = 12 then ['\\', 'f']
  else if n < 0x20 then unitEscape n
  else if asciiOnly && 0x7f ≤ n then
    if n < 0x10000 then unitEscape n
    else
      unitEscape (0xd800 + (n - 0x10000) / 0x400) ++ unitEscape (0xdc00 + (n - 0x10000) % 0x400)
  else [c]

/-- A quoted text. -/
def stringChars (asciiOnly : Bool) (s : String) : List Char :=
  '"' :: s.toList.flatMap (escapeChar asciiOnly) ++ ['"']

/-- The line break before an item at the given depth, empty for styles on one line. -/
def Style.lineBreak (style : Style) (depth : Nat) : List Char :=
  match style.indent with
  | none => []
  | some n => '\n' :: List.replicate (n * depth) ' '

mutual

/-- The text of a value that stands at the given depth. -/
def charsAt (style : Style) (depth : Nat) : Json → List Char
  | .null => "null".toList
  | .bool value => if value then "true".toList else "false".toList
  | .number value => value.charsWith .json
  | .string value => stringChars style.asciiOnly value
  | .array [] => ['[', ']']
  | .array (item :: items) =>
    '[' :: style.lineBreak (depth + 1) ++ charsAt style (depth + 1) item ++
      itemChars style (depth + 1) items ++ style.lineBreak depth ++ [']']
  | .object [] => ['\x7b', '\x7d']
  | .object ((key, value) :: members) =>
    '\x7b' :: style.lineBreak (depth + 1) ++ stringChars style.asciiOnly key ++
      style.keySeparator ++ charsAt style (depth + 1) value ++
      memberChars style (depth + 1) members ++ style.lineBreak depth ++ ['\x7d']
termination_by structural value => value

/-- The items after the first one. -/
def itemChars (style : Style) (depth : Nat) : List Json → List Char
  | [] => []
  | item :: items =>
    style.itemSeparator ++ style.lineBreak depth ++ charsAt style depth item ++
      itemChars style depth items
termination_by structural items => items

/-- The members after the first one. -/
def memberChars (style : Style) (depth : Nat) : List (String × Json) → List Char
  | [] => []
  | (key, value) :: members =>
    style.itemSeparator ++ style.lineBreak depth ++ stringChars style.asciiOnly key ++
      style.keySeparator ++ charsAt style depth value ++ memberChars style depth members
termination_by structural members => members

end

/-- The text of a value in the given style. -/
def text (style : Style) (value : Json) : String :=
  String.ofList (charsAt style 0 value)

end WorkspacePolicy.Json
