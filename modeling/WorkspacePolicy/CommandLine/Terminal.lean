/-
# CommandLine.Terminal — what a terminal is given

A terminal has lines of a fixed width. A message is broken into lines of this width, and
its last line is ended. An error message is given without the control sequences that
would colour it. In the output for errors a lone surrogate is written by its code, which
the other output cannot do. A line end is a single line feed.
-/
import WorkspacePolicy.Text.Lines
import WorkspacePolicy.Text.Quoted
import WorkspacePolicy.Text.Wrap

namespace WorkspacePolicy.Terminal

set_option autoImplicit false

/-- The number of cells in a line. -/
def width : Nat := 400

/-- A message as lines of the terminal. -/
def message (text : String) : String :=
  let lines := (Text.pieces '\n' text.toList).flatMap (Text.wrap true width)
  String.ofList (Text.joined ['\n'] lines ++ ['\n'])

/-- The length of what follows the escape character in a control sequence, if one begins with it:
a bracket, parameters and a letter. -/
def sequenceLength? : List Char → Option Nat
  | '[' :: rest =>
    let parameters := rest.takeWhile fun c => c.isDigit || c == ';' || c == '?'
    match rest.drop parameters.length with
    | c :: _ => if c.isAlpha then some (parameters.length + 2) else none
    | [] => none
  | _ => none

/-- A text without control sequences, of whose first one `skipped` characters still follow. -/
def dropSequencesFrom : Nat → List Char → List Char
  | _, [] => []
  | skipped + 1, _ :: rest => dropSequencesFrom skipped rest
  | 0, c :: rest =>
    match if c = '\x1b' then sequenceLength? rest else none with
    | some length => dropSequencesFrom length rest
    | none => c :: dropSequencesFrom 0 rest

/-- A text without control sequences. -/
def dropSequences (text : String) : String :=
  String.ofList (dropSequencesFrom 0 text.toList)

/-- A text with codes for its lone surrogates. -/
def codeSurrogates (text : String) : String :=
  String.ofList (text.toList.flatMap fun c =>
    if Text.isLoneSurrogate c then '\\' :: 'u' :: Text.hexPadded 4 (Text.codePoint c) else [c])

/-- A text as the output holds it. -/
def output (text : String) : String :=
  String.ofList (Text.joinLineEnds text.toList)

/-- A text as the output for errors holds it. -/
def errorOutput (text : String) : String :=
  output (codeSurrogates text)

end WorkspacePolicy.Terminal
