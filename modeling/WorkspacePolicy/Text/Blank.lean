/-
# Text.Blank — white space and its removal

White space is the set of code points with the Unicode property `White_Space`
together with the four information separators U+001C to U+001F. U+200B, U+FEFF
and U+180E are not in it.

`trimEnd p` removes the longest run of characters at the end of a text that all
satisfy `p`; `trim` removes white space at both ends.
-/

namespace WorkspacePolicy.Text

set_option autoImplicit false

/-- White space: the Unicode set, with the information separators. -/
def isBlank (c : Char) : Bool :=
  let n := c.toNat
  (9 ≤ n && n ≤ 13) || (0x1c ≤ n && n ≤ 0x20) || n == 0x85 || n == 0xa0 || n == 0x1680 ||
    (0x2000 ≤ n && n ≤ 0x200a) || n == 0x2028 || n == 0x2029 || n == 0x202f || n == 0x205f ||
    n == 0x3000

/-- A text without its longest run of characters at the end that satisfy `p`. -/
def trimEnd (p : Char → Bool) : List Char → List Char
  | [] => []
  | c :: rest =>
    match trimEnd p rest with
    | [] => if p c then [] else [c]
    | kept => c :: kept

theorem length_trimEnd_le (p : Char → Bool) (text : List Char) :
    (trimEnd p text).length ≤ text.length := by
  induction text with
  | nil => exact Nat.le_refl 0
  | cons c rest ih =>
      rw [trimEnd]
      split
      · split <;> simp
      · next kept =>
          simp only [List.length_cons]
          omega

/-- A text without the white space at its two ends. -/
def trim (s : String) : String :=
  String.ofList (trimEnd isBlank (s.toList.dropWhile isBlank))

/-- A text that holds nothing but white space. -/
def isBlankText (s : String) : Bool :=
  s.toList.all isBlank

/-- Cuts a text at every occurrence of `c`; there is one piece more than there are cuts. -/
def pieces (c : Char) : List Char → List (List Char)
  | [] => [[]]
  | d :: rest =>
    if d = c then [] :: pieces c rest
    else
      match pieces c rest with
      | [] => [[d]]
      | first :: others => (d :: first) :: others

/-- The lists between two copies of `separator`, put together. -/
def joined (separator : List Char) : List (List Char) → List Char
  | [] => []
  | [last] => last
  | first :: second :: others => first ++ separator ++ joined separator (second :: others)

end WorkspacePolicy.Text
