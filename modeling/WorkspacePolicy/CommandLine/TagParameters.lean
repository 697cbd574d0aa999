/-
# CommandLine.TagParameters — the parameters of event tags

A tag whose name begins with `@` may have parameters: the name of a handler, values in
parentheses, or both. The values are literals: numbers, texts, words for truth values and
for nothing, and tuples, sets and dictionaries of literals. `fault?` says what is wrong
with parameters that are none, once a tag with them is closed.

The text of the values is cut into tokens first, and a fault of a token comes before any
fault in the order of the tokens.
-/
import WorkspacePolicy.Number.Whole
import WorkspacePolicy.Text.Printable
import WorkspacePolicy.Text.Quoted

namespace WorkspacePolicy.TagParameters

set_option autoImplicit false

/-- A token of a literal. -/
inductive Token where
  | word (text : String)
  | real
  | imaginary
  | text (bytes : Bool)
  | sign (text : String)
  /-- A backslash that ends no line; no token follows it. -/
  | backslash
  deriving DecidableEq, Repr

/-- A character of words. -/
def isWordChar (c : Char) : Bool :=
  c.isAlphanum || c == '_' || (0x80 ≤ c.toNat && Text.isPrintable c && !Text.isBlank c)

/-- Why a text has no tokens. -/
abbrev Reason := String

def unmatched (c : Char) : Reason := s!"unmatched '{c}'"

def neverClosed (c : Char) : Reason := s!"'{c}' was never closed"

def mismatch (closing opening : Char) : Reason :=
  s!"closing parenthesis '{closing}' does not match opening parenthesis '{opening}'"

/-- The character cannot stand outside texts. -/
def strangeCharacter (c : Char) : Reason :=
  let code := (Text.hexPadded 4 c.toNat).map Char.toUpper
  if Text.isPrintable c then s!"invalid character '{c}' (U+{String.ofList code})"
  else s!"invalid non-printable character U+{String.ofList code}"

def badNumber (kind : String) : Reason := s!"invalid {kind} literal"

/-- What ends a text that a quote has opened: its characters, without those that a backslash
protects. -/
def textEnd? (quote : List Char) (severalLines : Bool) : Nat → List Char → Option (List Char)
  | 0, _ => none
  | fuel + 1, text =>
    match text with
    | [] => none
    | '\\' :: _ :: rest => textEnd? quote severalLines fuel rest
    | c :: rest =>
      if quote.isPrefixOf text then some (text.drop quote.length)
      else if c = '\n' && !severalLines then none
      else textEnd? quote severalLines fuel rest

/-- A text from its opening quote on: what follows it. -/
def scanText (quote : Char) (rest : List Char) : Except Reason (List Char) :=
  let triple := [quote, quote, quote]
  if triple.isPrefixOf rest then
    match textEnd? triple true (rest.length + 1) (rest.drop 3) with
    | some after => .ok after
    | none => .error "unterminated triple-quoted string literal (detected at line 1)"
  else
    match textEnd? [quote] false (rest.length + 1) (rest.drop 1) with
    | some after => .ok after
    | none => .error "unterminated string literal (detected at line 1)"

/-- Digits with single underscores between them at the front of a text. -/
def scanDigits (text : List Char) : Except Reason (List Char × List Char) :=
  let run := text.takeWhile fun c => Decimal.isDigit c || c == '_'
  let groups := Text.pieces '_' run
  if run.isEmpty then .ok ([], text)
  else if groups.any (·.isEmpty) then .error (badNumber "decimal")
  else .ok (run.filter (· != '_'), text.drop run.length)

/-- What follows a number: no word but one that may stand between two operands. -/
def checkAfter (kind : String) (rest : List Char) : Except Reason Unit :=
  if ["and", "else", "for", "if", "in", "is", "not", "or"].any fun word =>
      word.toList.isPrefixOf rest then .ok ()
  else if ((rest.head?).map isWordChar).getD false then .error (badNumber kind)
  else .ok ()

/-- The name of a base that a letter after a zero marks. -/
def baseOf? (c : Char) : Option (Nat × String) :=
  match c.toLower with
  | 'x' => some (16, "hexadecimal")
  | 'o' => some (8, "octal")
  | 'b' => some (2, "binary")
  | _ => none

/-- A number in another base than ten after its mark, and what follows it. -/
def scanBased (base : Nat) (kind : String) (text : List Char) :
    Except Reason (Token × List Char) := do
  let run := text.takeWhile fun c => (Whole.digit? base c).isSome || c == '_'
  let groups := Text.pieces '_' run
  let groups := if run.head? == some '_' then groups.drop 1 else groups
  let rest := text.drop run.length
  match rest with
  | c :: _ =>
    if base < 10 && Decimal.isDigit c then throw s!"invalid digit '{c}' in {kind} literal"
  | [] => pure ()
  if groups.any (·.isEmpty) then throw (badNumber kind)
  checkAfter kind rest
  return (.real, rest)

/-- A number in base ten, with a point, an exponent and the mark of imaginary numbers where they
are there, and what follows it. -/
def scanDecimal (text : List Char) : Except Reason (Token × List Char) := do
  let (whole, rest) ← scanDigits text
  let (fraction?, rest) ←
    match rest with
    | '.' :: more => do
      let (digits, rest) ← scanDigits more
      pure (some digits, rest)
    | _ => pure (none, rest)
  let (exponent, rest) := (Decimal.scanExponent rest).map (fun (e, r) => (some e, r)) |>.getD
    (none, rest)
  match rest with
  | c :: after =>
    if c = 'j' ∨ c = 'J' then
      checkAfter "imaginary" after
      return (.imaginary, after)
  | [] => pure ()
  let leadingZero := whole.head? == some '0' && whole.any (· != '0')
  if leadingZero && fraction?.isNone && exponent.isNone then
    throw ("leading zeros in decimal integer literals are not permitted; " ++
      "use an 0o prefix for octal integers")
  checkAfter "decimal" rest
  return (.real, rest)

/-- A number at the front of a text, and what follows it. -/
def scanNumber (text : List Char) : Except Reason (Token × List Char) :=
  match text with
  | '0' :: c :: rest =>
    match baseOf? c with
    | some (base, kind) => scanBased base kind rest
    | none => scanDecimal text
  | _ => scanDecimal text

/-- The tokens of a text, where `brackets` are those that are open, the last one first. -/
def tokensFrom : Nat → List Char → List Char → Except Reason (List (Token × List Char))
  | 0, _, _ => .ok []
  | fuel + 1, brackets, text =>
    match text with
    | [] => .ok []
    | c :: rest =>
      let one : Except Reason (List (Token × List Char)) := do
        return (.sign (String.singleton c), brackets) :: (← tokensFrom fuel brackets rest)
      if c = ' ' ∨ c = '\t' ∨ c = '\x0c' then tokensFrom fuel brackets rest
      else if c = '\n' then if brackets.isEmpty then one else tokensFrom fuel brackets rest
      else if c = '#' then tokensFrom fuel brackets (rest.dropWhile (· != '\n'))
      else if c = '\\' then .ok [(.backslash, brackets)]
      else if c = '"' ∨ c = '\'' then do
        let after ← scanText c text
        return (.text false, brackets) :: (← tokensFrom fuel brackets after)
      else if Decimal.isDigit c ∨
          (c = '.' ∧ ((rest.head?).map Decimal.isDigit).getD false) then do
        let (token, after) ← scanNumber text
        return (token, brackets) :: (← tokensFrom fuel brackets after)
      else if isWordChar c then
        let word := text.takeWhile isWordChar
        let after := text.drop word.length
        let small := word.map Char.toLower
        let startsText := after.head? == some '"' || after.head? == some '\''
        if startsText && ["b".toList, "r".toList, "u".toList, "br".toList, "rb".toList].contains
            small then do
          let last ← scanText (after.head?.getD '"') after
          return (.text (small.contains 'b'), brackets) :: (← tokensFrom fuel brackets last)
        else do
          return (.word (String.ofList word), brackets) :: (← tokensFrom fuel brackets after)
      else if c = '(' ∨ c = '\x7b' then do
        let brackets := c :: brackets
        return (.sign (String.singleton c), brackets) :: (← tokensFrom fuel brackets rest)
      else if c = ')' ∨ c = '\x7d' then
        match brackets with
        | [] => .error (unmatched c)
        | opening :: outer =>
          if (opening = '(') = (c = ')') then do
            return (.sign (String.singleton c), outer) :: (← tokensFrom fuel outer rest)
          else .error (mismatch c opening)
      else if 0x80 ≤ c.toNat then .error (strangeCharacter c)
      else if ["**", "//", "<<", ">>", "<=", ">=", "==", "!=", ":="].any fun s =>
          s.toList.isPrefixOf text then do
        let sign := String.ofList (text.take 2)
        return (.sign sign, brackets) :: (← tokensFrom fuel brackets (rest.drop 1))
      else one

/-- What a part of a literal is. -/
inductive Shape where
  /-- A number with its sign, if it has one. -/
  | real (signed : Bool)
  | imaginary
  | hashable
  /-- A value that no set and no key may be. -/
  | unhashable (type : String)
  | notLiteral
  deriving DecidableEq, Repr

/-- What is wrong with a text of tokens. -/
inductive Fault where
  | grammar (reason : Reason)
  | unhashable (type : String)
  | notLiteral

/-- Words that an operand must not follow without parentheses. -/
def callWords : List String := ["print", "exec"]

def missingParentheses (word : String) : Reason :=
  s!"Missing parentheses in call to '{word}'. Did you mean {word}(...)?"

def commaMissing : Reason := "invalid syntax. Perhaps you forgot a comma?"

/-- The tokens that are left, each with the brackets that are open after it. -/
abbrev Rest := List (Token × List Char)

/-- Words that are no names. -/
def keywords : List String := [
  "and", "as", "assert", "async", "await", "break", "class", "continue", "def", "del", "elif",
  "else", "except", "finally", "for", "from", "global", "if", "import", "in", "is", "lambda",
  "nonlocal", "not", "or", "pass", "raise", "return", "try", "while", "with", "yield"]

/-- Signs and words between two operands. -/
def isBetween : Token → Bool
  | .sign s => ["+", "-", "*", "/", "%", "@", "|", "&", "^", "<", ">", "**", "//", "<<", ">>",
      "<=", ">=", "==", "!="].contains s
  | .word w => ["and", "or", "in", "is"].contains w
  | _ => false

/-- The token begins an operand. -/
def beginsOperand : Token → Bool
  | .word w => !keywords.contains w
  | .sign s => s == "\x7b" || s == "~"
  | .backslash => false
  | _ => true

/-- The tokens begin with a word right before a text, or with a word that is sometimes none. -/
def beginsAsPrefix : Rest → Bool
  | (.word _, _) :: (.text _, _) :: _ => true
  | (.word w, _) :: _ => ["match", "case", "_"].contains w
  | _ => false

/-- The fault of a token that does not belong where it is. -/
def misplaced (opened : List Char) : Rest → Fault
  | [] =>
    match opened with
    | c :: _ => .grammar (neverClosed c)
    | [] => .grammar "invalid syntax"
  | (.backslash, _) :: _ => .grammar "unexpected character after line continuation character"
  | _ => .grammar "invalid syntax"

/-- The shape of an operand followed by another one after a sign between them. -/
def combined (left : Shape) (sign : Token) (right : Shape) : Shape :=
  match left, sign, right with
  | .real _, .sign "+", .imaginary => .hashable
  | .real _, .sign "-", .imaginary => .hashable
  | _, _, _ => .notLiteral

/-- The shape of several parts together, of which the first one decides that is not hashable. -/
def joined (shapes : List Shape) : Shape :=
  if shapes.contains .notLiteral then .notLiteral
  else
    (shapes.find? fun shape => match shape with | .unhashable _ => true | _ => false).getD
      .hashable

/-- The keys of a dictionary or the members of a set are hashable. -/
def keyed (type : String) (keys : List Shape) (values : List Shape) : Except Fault Shape :=
  if (keys ++ values).contains .notLiteral then .ok .notLiteral
  else
    match joined keys with
    | .unhashable type => .error (.unhashable type)
    | _ => .ok (.unhashable type)

/-- The texts at the front, which are put together. -/
def takeTexts (bytes : Bool) : Rest → Except Fault Rest
  | (.text other, _) :: rest =>
    if other = bytes then takeTexts bytes rest
    else .error (.grammar "cannot mix bytes and nonbytes literals")
  | rest => .ok rest

mutual

/-- An expression: operands with signs between them. -/
def expression : Nat → List Char → Rest → Except Fault (Shape × Rest)
  | 0, opened, rest => .error (misplaced opened rest)
  | fuel + 1, opened, rest => do
    let (left, after) ← operand fuel opened rest
    match after with
    | (.word "not", _) :: (.word "in", _) :: more =>
      let (_, last) ← expression fuel opened more
      return (.notLiteral, last)
    | (.word "is", _) :: (.word "not", _) :: more =>
      let (_, last) ← expression fuel opened more
      return (.notLiteral, last)
    | (.word "if", _) :: more =>
      let (_, last) ← expression fuel opened more
      match last with
      | (.word "else", _) :: more =>
        let (_, last) ← expression fuel opened more
        return (.notLiteral, last)
      | [] =>
        if opened.isEmpty then throw (.grammar "expected 'else' after 'if' expression")
        else throw (misplaced opened [])
      | _ => throw (.grammar "expected 'else' after 'if' expression")
    | (between, _) :: more =>
      if isBetween between then
        let (right, last) ← expression fuel opened more
        return (combined left between right, last)
      else return (left, after)
    | [] => return (left, after)
termination_by structural fuel => fuel

/-- An operand with the signs in front of it. -/
def operand : Nat → List Char → Rest → Except Fault (Shape × Rest)
  | 0, opened, rest => .error (misplaced opened rest)
  | fuel + 1, opened, rest =>
    match rest with
    | (.sign "-", _) :: more => do
      let (shape, last) ← operand fuel opened more
      return (if shape = .real false then .real true else .notLiteral, last)
    | (.sign "+", _) :: more => do
      let (shape, last) ← operand fuel opened more
      return (if shape = .real false then .real true else .notLiteral, last)
    | (.sign "~", _) :: more => do
      let (_, last) ← operand fuel opened more
      return (.notLiteral, last)
    | (.word "not", _) :: more => do
      let (_, last) ← expression fuel opened more
      return (.notLiteral, last)
    | (.word "set", _) :: (.sign "(", _) :: (.sign ")", _) :: more =>
      trailers fuel opened (.unhashable "set") more
    | (.word w, _) :: more =>
      if keywords.contains w then .error (misplaced opened rest)
      else if callWords.contains w && ((more.head?).map (beginsOperand ·.1)).getD false then
        match expression fuel opened more with
        | .ok _ => .error (.grammar (missingParentheses w))
        | .error fault => .error fault
      else
        let shape := if ["None", "True", "False"].contains w then Shape.hashable else .notLiteral
        trailers fuel opened shape more
    | (.real, _) :: more => trailers fuel opened (.real false) more
    | (.imaginary, _) :: more => trailers fuel opened .imaginary more
    | (.text bytes, _) :: more => do trailers fuel opened .hashable (← takeTexts bytes more)
    | (.sign "(", inner) :: more => do
      let (shapes, commas, last) ← items fuel inner ")" more
      let shape := match shapes with
        | [shape] => if commas then joined [shape] else shape
        | shapes => joined shapes
      trailers fuel opened shape last
    | (.sign "\x7b", inner) :: more => do
      let (shape, last) ← braces fuel inner more
      trailers fuel opened shape last
    | (.sign ".", _) :: (.sign ".", _) :: (.sign ".", _) :: more =>
      trailers fuel opened .hashable more
    | _ => .error (misplaced opened rest)
termination_by structural fuel => fuel

/-- Calls and members after an operand. -/
def trailers : Nat → List Char → Shape → Rest → Except Fault (Shape × Rest)
  | 0, opened, _, rest => .error (misplaced opened rest)
  | fuel + 1, opened, shape, rest =>
    match rest with
    | (.sign "(", inner) :: more => do
      let (_, _, last) ← items fuel inner ")" more
      trailers fuel opened .notLiteral last
    | (.sign ".", _) :: (.word w, inner) :: more =>
      if keywords.contains w then .error (misplaced opened ((.word w, inner) :: more))
      else trailers fuel opened .notLiteral more
    | (.sign ".", _) :: more => .error (misplaced opened more)
    | _ => .ok (shape, rest)
termination_by structural fuel => fuel

/-- Expressions between commas up to a closing sign, and whether a comma is there. -/
def items : Nat → List Char → String → Rest → Except Fault (List Shape × Bool × Rest)
  | 0, opened, _, rest => .error (misplaced opened rest)
  | fuel + 1, opened, closing, rest =>
    match rest with
    | (.sign s, inner) :: more =>
      if s = closing then .ok ([], false, more)
      else continued fuel opened closing ((.sign s, inner) :: more)
    | _ => continued fuel opened closing rest
termination_by structural fuel => fuel

/-- An expression and what follows it up to a closing sign. -/
def continued : Nat → List Char → String → Rest → Except Fault (List Shape × Bool × Rest)
  | 0, opened, _, rest => .error (misplaced opened rest)
  | fuel + 1, opened, closing, rest => do
    let (shape, after) ← expression fuel opened rest
    match after with
    | (.sign ",", _) :: more =>
      let (shapes, _, last) ← items fuel opened closing more
      return (shape :: shapes, true, last)
    | (.sign s, inner) :: more =>
      if s = closing then return ([shape], false, more)
      else throw (← adjacent fuel opened rest ((.sign s, inner) :: more))
    | _ => throw (← adjacent fuel opened rest after)
termination_by structural fuel => fuel

/-- The fault of what follows the expression that begins at `start` inside brackets. -/
def adjacent : Nat → List Char → Rest → Rest → Except Fault Fault
  | 0, opened, _, rest => .ok (misplaced opened rest)
  | fuel + 1, opened, start, rest =>
    match rest with
    | (token, _) :: _ =>
      if beginsOperand token && !beginsAsPrefix start then
        match expression fuel opened rest with
        | .ok (_, []) => .ok (misplaced opened [])
        | .ok _ => .ok (.grammar commaMissing)
        | .error fault => .error fault
      else .ok (misplaced opened rest)
    | [] => .ok (misplaced opened [])
termination_by structural fuel => fuel

/-- A dictionary or a set after its opening brace. -/
def braces : Nat → List Char → Rest → Except Fault (Shape × Rest)
  | 0, opened, rest => .error (misplaced opened rest)
  | fuel + 1, opened, rest =>
    match rest with
    | (.sign "\x7d", _) :: more => .ok (.unhashable "dict", more)
    | _ => do
      let (_, after) ← expression fuel opened rest
      match after with
      | (.sign ":", _) :: _ =>
        let (keys, values, last) ← pairs fuel opened rest
        return (← keyed "dict" keys values, last)
      | _ =>
        let (shapes, _, last) ← continued fuel opened "\x7d" rest
        return (← keyed "set" shapes [], last)
termination_by structural fuel => fuel

/-- The keys and the values of a dictionary up to its closing brace. -/
def pairs : Nat → List Char → Rest → Except Fault (List Shape × List Shape × Rest)
  | 0, opened, rest => .error (misplaced opened rest)
  | fuel + 1, opened, rest =>
    match rest with
    | (.sign "\x7d", _) :: more => .ok ([], [], more)
    | _ => do
      let (key, after) ← expression fuel opened rest
      match after with
      | (.sign ":", _) :: (.sign "\x7d", _) :: _ =>
        throw (.grammar "expression expected after dictionary key and ':'")
      | (.sign ":", _) :: more =>
        let (value, after) ← expression fuel opened more
        match after with
        | (.sign "\x7d", _) :: last => return ([key], [value], last)
        | (.sign ",", _) :: more =>
          let (keys, values, last) ← pairs fuel opened more
          return (key :: keys, value :: values, last)
        | _ => throw (← adjacent fuel opened more after)
      | (.sign "\x7d", _) :: _ => throw (.grammar "':' expected after dictionary key")
      | _ => throw (← adjacent fuel opened rest after)
termination_by structural fuel => fuel

end

/-- Expressions between commas that end the text. -/
def sequence : Nat → Rest → Except Fault (List Shape)
  | 0, rest => .error (misplaced [] rest)
  | fuel + 1, rest => do
    let (shape, after) ← expression fuel [] rest
    match after with
    | [] => return [shape]
    | [(.sign ",", _)] => return [shape]
    | (.sign ",", _) :: more => return shape :: (← sequence fuel more)
    | _ => throw (misplaced [] after)

/-- What is wrong with the text of a literal. -/
def literalFault? (text : List Char) : Option Fault :=
  match tokensFrom (text.length + 1) [] text with
  | .error reason => some (.grammar reason)
  | .ok tokens =>
    match sequence (8 * tokens.length + 20) tokens with
    | .error fault => some fault
    | .ok shapes => if shapes.contains .notLiteral then some .notLiteral else none

/-- The values in parentheses after the name of a handler, if that is the form of the text; only
the name stands for no values. -/
def handlerValues? (text : List Char) : Option (List Char) :=
  let rest := text.dropWhile fun c => isWordChar c || c == '.'
  match rest with
  | [] => some ['(', ')']
  | '(' :: _ =>
    if rest.getLast? == some ')' && !rest.contains '\n' then some rest else none
  | _ => none

/-- What is said when a tag with the given parameters is closed, if they are wrong. -/
def fault? (parameters : String) : Option String :=
  let trimmed := (Text.trim parameters).toList
  let values := (handlerValues? trimmed).getD trimmed
  let whole := Text.quoted parameters
  if values.contains '\x00' then
    some (s!"error parsing {Text.quoted (String.ofList values)} in {whole}; " ++
      "source code string cannot contain null bytes")
  else
    match literalFault? (values.dropWhile fun c => c == ' ' || c == '\t') with
    | none => none
    | some (.grammar reason) =>
      some s!"error parsing {Text.quoted (String.ofList values)} in {whole}; {reason}"
    | some (.unhashable type) => some s!"error parsing {whole}; unhashable type: '{type}'"
    | some .notLiteral => some s!"error parsing {whole}; malformed node or string on line 1"

end WorkspacePolicy.TagParameters
