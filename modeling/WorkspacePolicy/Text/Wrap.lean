/-
# Text.Wrap — lines of a limited width

A line that is wider than its place is broken in front of words. A word with the white
space after it stays together where it fits on a line; a longer one is cut where the line
is full, or with `cut` false begins a line of its own. What is too wide after that is cut
off, with or without three points in one cell for what is missing.

Tabs move to the next multiple of eight cells, at least one cell on.
-/
import WorkspacePolicy.Text.CellWidth
import WorkspacePolicy.Text.Blank

namespace WorkspacePolicy.Text

set_option autoImplicit false

/-- A line with blanks for its tabs, from a cell on. -/
def expandTabsFrom : Nat → List Char → List Char
  | _, [] => []
  | cell, c :: rest =>
    if c = '\t' then
      let next := (cell + 8) / 8 * 8
      List.replicate (next - cell) ' ' ++ expandTabsFrom next rest
    else c :: expandTabsFrom (cell + cellWidth c) rest

/-- A line with blanks for its tabs. -/
def expandTabs (line : List Char) : List Char :=
  expandTabsFrom 0 line

/-- The words of a line, each with the white space after it, and the first one with the white
space before it too; `fuel` bounds their number. -/
def wordsFrom : Nat → List Char → List (List Char)
  | 0, _ => []
  | fuel + 1, line =>
    let before := line.takeWhile isBlank
    let rest := line.drop before.length
    let word := rest.takeWhile (!isBlank ·)
    let after := (rest.drop word.length).takeWhile isBlank
    if word.isEmpty then []
    else (before ++ word ++ after) :: wordsFrom fuel (rest.drop (word.length + after.length))

/-- The words of a line. -/
def words (line : List Char) : List (List Char) :=
  wordsFrom line.length line

/-- The pieces of a word that is cut where a line is full; `used` cells of the first line are
taken by the characters `line`, the last one first. -/
def cutWord (width : Nat) : Nat → List Char → List Char → List (List Char)
  | _, line, [] => [line.reverse]
  | used, line, c :: rest =>
    if width < used + cellWidth c then line.reverse :: cutWord width (cellWidth c) [c] rest
    else cutWord width (used + cellWidth c) (c :: line) rest

/-- Where a line is broken: the places of the breaks so far, the last one first, the place of the
next word, and the cells that are taken in the last line. -/
structure Breaks where
  places : List Nat
  next : Nat
  used : Nat

namespace Breaks

/-- A break at a place, except at the start. -/
def add (b : Breaks) (place : Nat) : Breaks :=
  if place = 0 then b else { b with places := place :: b.places }

/-- Breaks in front of the pieces of a word. -/
def addPieces (b : Breaks) : List (List Char) → Breaks
  | [] => b
  | piece :: pieces =>
    let here := b.add b.next
    addPieces { here with next := here.next + piece.length, used := lineWidth piece } pieces

/-- Puts a word on the last line, or breaks in front of it. -/
def addWord (cut : Bool) (width : Nat) (b : Breaks) (word : List Char) : Breaks :=
  let after := b.next + word.length
  let bare := lineWidth (trimEnd isBlank word)
  if b.used + bare ≤ width then { b with next := after, used := b.used + lineWidth word }
  else if width < bare then
    if cut then b.addPieces (cutWord width 0 [] word)
    else { b.add b.next with next := after, used := lineWidth word }
  else if b.used = 0 ∨ b.next = 0 then { b with next := after }
  else { b.add b.next with next := after, used := lineWidth word }

end Breaks

/-- The places where a line is broken, in ascending order. -/
def breaksOf (cut : Bool) (width : Nat) (line : List Char) : List Nat :=
  ((words line).foldl (Breaks.addWord cut width) ⟨[], 0, 0⟩).places.reverse

/-- The parts of a line between places, the first of which is at `start`. -/
def partsAt (start : Nat) (line : List Char) : List Nat → List (List Char)
  | [] => [line]
  | place :: places =>
    line.take (place - start) :: partsAt place (line.drop (place - start)) places

/-- Halves the range of places until the characters up to one of them take `width` cells; a
character of two cells that does not fit becomes a blank. -/
def fitBetween (width : Nat) (line : List Char) : Nat → Nat → Nat → List Char
  | 0, _, _ => line
  | fuel + 1, first, last =>
    let place := (first + last) / 2
    let part := line.take (place + 1)
    let size := lineWidth part
    if size = width + 1 ∧ ((part.getLast?).map cellWidth).getD 0 = 2 then part.dropLast ++ [' ']
    else if size = width then part
    else if width < size then fitBetween width line fuel first place
    else fitBetween width line fuel place last

/-- A line cut off or filled up with blanks to a width. -/
def setWidth (width : Nat) (line : List Char) : List Char :=
  let size := lineWidth line
  if size ≤ width then line ++ List.replicate (width - size) ' '
  else if width = 0 then []
  else fitBetween width line (line.length + 1) 0 line.length

/-- A line that may be too wide, cut off to a width. -/
def limit (withPoints : Bool) (width : Nat) (line : List Char) : List Char :=
  if lineWidth line ≤ width then line
  else if withPoints then setWidth (width - 1) line ++ ['…']
  else setWidth width line

/-- A line without the white space at its end that goes over a number of characters. -/
def dropExcessBlank (size : Nat) (line : List Char) : List Char :=
  let blanks := line.length - (trimEnd isBlank line).length
  line.take (line.length - min blanks (line.length - size))

/-- The lines that a line is broken into. -/
def wrap (cut : Bool) (width : Nat) (line : List Char) : List (List Char) :=
  let line := expandTabs line
  (partsAt 0 line (breaksOf cut width line)).map fun part =>
    limit (!cut) width (dropExcessBlank width part)

end WorkspacePolicy.Text
