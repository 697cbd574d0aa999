/-
# Text.Quoted — texts shown between quotes in messages

A text in a message stands between single quotes, or between double quotes when
it holds a single quote and no double one. Inside, the backslash and the
enclosing quote take a backslash, line feed, carriage return and tab are written
`\n`, `\r` and `\t`, and every other character without a visible form is written
by its code: `\x` with two digits, `\u` with four or `\U` with eight.
-/
import WorkspacePolicy.Text.Printable
import WorkspacePolicy.Text.Surrogate

namespace WorkspacePolicy.Text

set_option autoImplicit false

/-- The hexadecimal digits of `n` in lower case, at least `width` of them. -/
def hexPadded (width n : Nat) : List Char :=
  let digits := Nat.toDigits 16 n
  List.replicate (width - digits.length) '0' ++ digits

/-- One character inside the quotes. -/
def quotedChar (quote c : Char) : List Char :=
  if c = quote ∨ c = '\\' then ['\\', c]
  else if c = '\n' then ['\\', 'n']
  else if c = '\r' then ['\\', 'r']
  else if c = '\t' then ['\\', 't']
  else if isPrintable c then [c]
  else
    let n := codePoint c
    if n < 0x100 then '\\' :: 'x' :: hexPadded 2 n
    else if n < 0x10000 then '\\' :: 'u' :: hexPadded 4 n
    else '\\' :: 'U' :: hexPadded 8 n

/-- Double quotes enclose only a text that holds a single quote and no double one. -/
def enclosingQuote (s : String) : Char :=
  if s.toList.contains '\'' && !s.toList.contains '"' then '"' else '\''

/-- A text as messages show it. -/
def quoted (s : String) : String :=
  let quote := enclosingQuote s
  String.ofList (quote :: s.toList.flatMap (quotedChar quote) ++ [quote])

end WorkspacePolicy.Text
