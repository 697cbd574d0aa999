/-
# Text.Lines — line ends and places in a text

A text file may end its lines with `\r\n`, `\r` or `\n`; all three read as `\n`.
A place in a text is told as its line and column, both counted from one.
-/

namespace WorkspacePolicy.Text

set_option autoImplicit false

/-- Every line end as a single `\n`. -/
def unifyLineEnds : List Char → List Char
  | [] => []
  | '\r' :: '\n' :: rest => '\n' :: unifyLineEnds rest
  | c :: rest => (if c = '\r' then '\n' else c) :: unifyLineEnds rest

/-- A line end of two characters as a single `\n`; a `\r` alone stays. -/
def joinLineEnds : List Char → List Char
  | [] => []
  | '\r' :: '\n' :: rest => '\n' :: joinLineEnds rest
  | c :: rest => c :: joinLineEnds rest

/-- A text without the line feed that ends it, if one does. -/
def dropFinalLineFeed : List Char → List Char
  | [] => []
  | ['\n'] => []
  | c :: rest => c :: dropFinalLineFeed rest

/-- At most a line feed is lost. -/
theorem dropFinalLineFeed_cases (text : List Char) :
    text = dropFinalLineFeed text ∨ text = dropFinalLineFeed text ++ ['\n'] := by
  fun_induction dropFinalLineFeed text with
  | case1 => exact .inl rfl
  | case2 => exact .inr rfl
  | case3 c rest notEnd ih =>
      rcases ih with same | same
      · exact .inl (congrArg (c :: ·) same)
      · exact .inr (congrArg (c :: ·) same)

/-- A place in a text: the number of characters before it, its line and its column. -/
structure Place where
  offset : Nat
  line : Nat
  column : Nat
  deriving DecidableEq, Repr

/-- The place after the first `offset` characters. -/
def placeAt (text : List Char) (offset : Nat) : Place :=
  let before := text.take offset
  let line := before.count '\n' + 1
  let column := (before.reverse.takeWhile (· ≠ '\n')).length + 1
  ⟨offset, line, column⟩

end WorkspacePolicy.Text
