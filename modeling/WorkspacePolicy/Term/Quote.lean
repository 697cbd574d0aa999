/-
# Term.Quote — quoted names

A quoted name stands between single quotes. Inside, backslash and quote take a
backslash, line feed, tab and carriage return are written `\n`, `\t` and `\r`, and
every other control character is written by its code, `\x` with hexadecimal digits
and a closing backslash. Every other character stands for itself.

A compound may have its name bare when the name is a lower-case letter followed by
letters, digits and underscores, or such a name with one line feed at its end.
-/
import WorkspacePolicy.Text.Lines

namespace WorkspacePolicy.Term

set_option autoImplicit false

/-- A control character: below U+0020, or U+007F. -/
def isControl (c : Char) : Bool :=
  c.toNat < 0x20 || c.toNat == 0x7f

/-- One character of a quoted name. -/
def quoteChar (c : Char) : List Char :=
  if c = '\\' then ['\\', '\\']
  else if c = '\'' then ['\\', '\'']
  else if c = '\n' then ['\\', 'n']
  else if c = '\t' then ['\\', 't']
  else if c = '\r' then ['\\', 'r']
  else if isControl c then '\\' :: 'x' :: Nat.toDigits 16 c.toNat ++ ['\\']
  else [c]

/-- A name between quotes. -/
def quoteChars (name : List Char) : List Char :=
  '\'' :: name.flatMap quoteChar ++ ['\'']

/-- A text as a quoted name; a missing text is the empty list. -/
def quote : Option String → String
  | none => "[]"
  | some name => String.ofList (quoteChars name.toList)

/-- A letter, digit or underscore of ASCII. -/
def isNameChar (c : Char) : Bool :=
  ('a' ≤ c && c ≤ 'z') || ('A' ≤ c && c ≤ 'Z') || ('0' ≤ c && c ≤ '9') || c == '_'

/-- A name that stands bare before its arguments. -/
def isBareName (name : List Char) : Bool :=
  match Text.dropFinalLineFeed name with
  | [] => false
  | first :: rest => 'a' ≤ first && first ≤ 'z' && rest.all isNameChar

end WorkspacePolicy.Term
