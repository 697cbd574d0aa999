/-
# Text.Surrogate — half pairs that are no characters

Escapes by code can name a surrogate without the other half of its pair. Such a lone
surrogate is no character, and no text in UTF-8 holds it, but a text in memory may. Its place
in a text is taken by a number of plane 13 that no character has: U+D800 to U+DFFF stand as
U+DD800 to U+DDFFF, and `codePoint` gives the number that is meant.

So texts range over all characters, those for private use included, and over the lone
surrogates. The 2048 unassigned numbers from U+DD800 to U+DDFFF themselves are outside the
domain of texts: wherever one stands in a text, the surrogate is meant.
-/

namespace WorkspacePolicy.Text

set_option autoImplicit false

/-- The distance from a lone surrogate to the character that stands for it. -/
def surrogateShift : Nat := 0xd0000

/-- The number lies between the two ends of the surrogates. -/
def isSurrogateCode (n : Nat) : Bool :=
  0xd800 ≤ n && n ≤ 0xdfff

/-- The character stands for a lone surrogate. -/
def isLoneSurrogate (c : Char) : Bool :=
  isSurrogateCode (c.toNat - surrogateShift)

/-- The number of the character or lone surrogate that a character stands for. -/
def codePoint (c : Char) : Nat :=
  if isLoneSurrogate c then c.toNat - surrogateShift else c.toNat

/-- The character that stands for a number below 0x110000. -/
def ofCodePoint (n : Nat) : Char :=
  Char.ofNat (if isSurrogateCode n then n + surrogateShift else n)

/-- A lone surrogate that stands for a single byte in names of files. -/
def isByteSurrogate (c : Char) : Bool :=
  isLoneSurrogate c && 0xdc80 ≤ codePoint c && codePoint c ≤ 0xdcff

/-- The text can be written in UTF-8: it holds no lone surrogate. -/
def isEncodable (s : String) : Bool :=
  !s.toList.any isLoneSurrogate

end WorkspacePolicy.Text
