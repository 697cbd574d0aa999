/-
# Files.NamePattern — patterns for one name

In a pattern `*` stands for any characters, `?` for one, and a class in brackets for
one character of a set; everything else stands for itself. A class may begin with `!`,
which means the characters outside the set, and a closing bracket right at its start
belongs to the set. A bracket that is never closed stands for itself.

Inside a class a hyphen with a character on either side makes a range. A character
that ends a range cannot begin another one, so the hyphen after it is an ordinary
member. A range whose ends are out of order is dropped, and its ends with it; a class
that loses all its members that way matches nothing.
-/
import WorkspacePolicy.Text.Blank
import WorkspacePolicy.Text.Surrogate

namespace WorkspacePolicy.NamePattern

set_option autoImplicit false

/-- The characters from `first` to `last`. -/
structure Range where
  first : Char
  last : Char
  deriving DecidableEq, Repr

/-- One part of a pattern. -/
inductive Part where
  | anyText
  | anyChar
  | char (c : Char)
  | oneOf (negated : Bool) (ranges : List Range)
  deriving DecidableEq, Repr

def Range.holds (r : Range) (c : Char) : Bool :=
  let n := Text.codePoint c
  Text.codePoint r.first ≤ n && n ≤ Text.codePoint r.last

/-- A single character as a range. -/
def Range.single (c : Char) : Range := ⟨c, c⟩

/-- Cuts the inside of a class at the hyphens that make ranges. `held` is the piece read so
far and `room` the number of characters that must come before the next such hyphen. -/
def cutAtHyphens : List Char → Nat → List Char → List (List Char)
  | held, _, [] => [held]
  | held, 0, '-' :: rest =>
    match rest with
    | [] => [held ++ ['-']]
    | _ => held :: cutAtHyphens [] 2 rest
  | held, room, c :: rest => cutAtHyphens (held ++ [c]) (room - 1) rest

/-- Drops the ranges between neighbouring pieces whose ends are out of order. -/
def dropEmptyRanges : List (List Char) → List (List Char)
  | [] => []
  | piece :: rest =>
    match dropEmptyRanges rest with
    | [] => [piece]
    | next :: others =>
      match piece.getLast?, next with
      | some a, b :: after =>
        if Text.codePoint b < Text.codePoint a then (piece.dropLast ++ after) :: others
        else piece :: next :: others
      | _, _ => piece :: next :: others

/-- The members that a piece and the pieces after it make: single characters, and a range
between the last character of each piece and the first of the next one. A hyphen with nothing
before it is a member itself. -/
def rangesFrom (piece : List Char) : List (List Char) → List Range
  | [] => piece.map .single
  | next :: others =>
    match piece.getLast?, next with
    | some a, b :: after => piece.dropLast.map .single ++ ⟨a, b⟩ :: rangesFrom after others
    | _, _ => piece.map .single ++ .single '-' :: rangesFrom next others

/-- The part that the inside of a class makes. -/
def classOf (inside : List Char) : Part :=
  let room := match inside with
    | '!' :: _ => 2
    | _ => 1
  let pieces :=
    if inside.contains '-' then dropEmptyRanges (cutAtHyphens [] room inside) else [inside]
  match pieces with
  | [[]] => .oneOf false []
  | [['!']] => .anyChar
  | ('!' :: piece) :: others => .oneOf true (rangesFrom piece others)
  | piece :: others => .oneOf false (rangesFrom piece others)
  | [] => .oneOf false []

/-- The inside of a class after its opening bracket, and the pattern after the class. -/
def splitClass? (rest : List Char) : Option (List Char × List Char) :=
  let (bang, afterBang) := match rest with
    | '!' :: more => (['!'], more)
    | _ => ([], rest)
  let (bracket, body) := match afterBang with
    | ']' :: more => ([']'], more)
    | _ => ([], afterBang)
  match body.dropWhile (· != ']') with
  | _ :: after => some (bang ++ bracket ++ body.takeWhile (· != ']'), after)
  | [] => none

/-- The parts of a pattern; `fuel` bounds their number. -/
def parseWith : Nat → List Char → List Part
  | 0, _ => []
  | _, [] => []
  | fuel + 1, c :: rest =>
    if c = '*' then .anyText :: parseWith fuel rest
    else if c = '?' then .anyChar :: parseWith fuel rest
    else if c = '[' then
      match splitClass? rest with
      | some (inside, after) => classOf inside :: parseWith fuel after
      | none => .char '[' :: parseWith fuel rest
    else .char c :: parseWith fuel rest

/-- The parts of a pattern. -/
def parse (pattern : List Char) : List Part :=
  parseWith pattern.length pattern

/-- What is left of a text after dropping any number of characters from its front. -/
def suffixes : List Char → List (List Char)
  | [] => [[]]
  | c :: rest => (c :: rest) :: suffixes rest

/-- The whole text is an instance of the parts. -/
def matchesParts : List Part → List Char → Bool
  | [], text => text.isEmpty
  | .anyText :: parts, text => (suffixes text).any (matchesParts parts)
  | _ :: _, [] => false
  | .anyChar :: parts, _ :: rest => matchesParts parts rest
  | .char d :: parts, c :: rest => c == d && matchesParts parts rest
  | .oneOf negated ranges :: parts, c :: rest =>
    ranges.any (·.holds c) != negated && matchesParts parts rest

/-- The pattern holds one of the characters that stand for others. -/
def hasWildcard (pattern : String) : Bool :=
  pattern.toList.any fun c => c == '*' || c == '?' || c == '['

/-- The name is an instance of the pattern. -/
def «matches» (pattern name : String) : Bool :=
  matchesParts (parse pattern.toList) name.toList

end WorkspacePolicy.NamePattern
