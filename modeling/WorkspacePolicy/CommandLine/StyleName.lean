/-
# CommandLine.StyleName — the names of styles

A style is named by words in any order: attributes, which may follow `not`, a colour, a
colour of the background after `on`, and an address after `link`. A colour is a name, `#`
with six hexadecimal digits, a number up to 255 in `color(...)`, or three such numbers in
`rgb(...)`. Names that mean the same style have the same normal form, in which each part
stands once and in a fixed order; a name that is none of a style is its own normal form,
in small letters.
-/
import WorkspacePolicy.Number.Whole
import WorkspacePolicy.Text.LowerCase

namespace WorkspacePolicy.StyleName

set_option autoImplicit false

/-- The attributes in the order of the normal form, each with its short names. -/
def attributes : List (String × List String) := [
  ("bold", ["b"]), ("dim", ["d"]), ("italic", ["i"]), ("underline", ["u"]), ("blink", []),
  ("blink2", []), ("reverse", ["r"]), ("conceal", ["c"]), ("strike", ["s"]),
  ("underline2", ["uu"]), ("frame", []), ("encircle", []), ("overline", ["o"])]

/-- The full name of an attribute. -/
def attribute? (word : String) : Option String :=
  (attributes.find? fun entry => entry.1 == word || entry.2.contains word).map (·.1)

/-- The colours with a name. -/
def colorNames : List String := ["default",
  "black", "red", "green", "yellow", "blue", "magenta", "cyan", "white", "bright_black",
  "bright_red", "bright_green", "bright_yellow", "bright_blue", "bright_magenta", "bright_cyan",
  "bright_white", "grey0", "gray0", "navy_blue", "dark_blue", "blue3", "blue1", "dark_green",
  "deep_sky_blue4", "dodger_blue3", "dodger_blue2", "green4", "spring_green4", "turquoise4",
  "deep_sky_blue3", "dodger_blue1", "green3", "spring_green3", "dark_cyan", "light_sea_green",
  "deep_sky_blue2", "deep_sky_blue1", "spring_green2", "cyan3", "dark_turquoise", "turquoise2",
  "green1", "spring_green1", "medium_spring_green", "cyan2", "cyan1", "dark_red", "deep_pink4",
  "purple4", "purple3", "blue_violet", "orange4", "grey37", "gray37", "medium_purple4",
  "slate_blue3", "royal_blue1", "chartreuse4", "dark_sea_green4", "pale_turquoise4", "steel_blue",
  "steel_blue3", "cornflower_blue", "chartreuse3", "cadet_blue", "sky_blue3", "steel_blue1",
  "pale_green3", "sea_green3", "aquamarine3", "medium_turquoise", "chartreuse2", "sea_green2",
  "sea_green1", "aquamarine1", "dark_slate_gray2", "dark_magenta", "dark_violet", "purple",
  "light_pink4", "plum4", "medium_purple3", "slate_blue1", "yellow4", "wheat4", "grey53", "gray53",
  "light_slate_grey", "light_slate_gray", "medium_purple", "light_slate_blue", "dark_olive_green3",
  "dark_sea_green", "light_sky_blue3", "sky_blue2", "dark_sea_green3", "dark_slate_gray3",
  "sky_blue1", "chartreuse1", "light_green", "pale_green1", "dark_slate_gray1", "red3",
  "medium_violet_red", "magenta3", "dark_orange3", "indian_red", "hot_pink3", "medium_orchid3",
  "medium_orchid", "medium_purple2", "dark_goldenrod", "light_salmon3", "rosy_brown", "grey63",
  "gray63", "medium_purple1", "gold3", "dark_khaki", "navajo_white3", "grey69", "gray69",
  "light_steel_blue3", "light_steel_blue", "yellow3", "dark_sea_green2", "light_cyan3",
  "light_sky_blue1", "green_yellow", "dark_olive_green2", "dark_sea_green1", "pale_turquoise1",
  "deep_pink3", "magenta2", "hot_pink2", "orchid", "medium_orchid1", "orange3", "light_pink3",
  "pink3", "plum3", "violet", "light_goldenrod3", "tan", "misty_rose3", "thistle3", "plum2",
  "khaki3", "light_goldenrod2", "light_yellow3", "grey84", "gray84", "light_steel_blue1", "yellow2",
  "dark_olive_green1", "honeydew2", "light_cyan1", "red1", "deep_pink2", "deep_pink1", "magenta1",
  "orange_red1", "indian_red1", "hot_pink", "dark_orange", "salmon1", "light_coral",
  "pale_violet_red1", "orchid2", "orchid1", "orange1", "sandy_brown", "light_salmon1",
  "light_pink1", "pink1", "plum1", "gold1", "navajo_white1", "misty_rose1", "thistle1", "yellow1",
  "light_goldenrod1", "khaki1", "wheat1", "cornsilk1", "grey100", "gray100", "grey3", "gray3",
  "grey7", "gray7", "grey11", "gray11", "grey15", "gray15", "grey19", "gray19", "grey23", "gray23",
  "grey27", "gray27", "grey30", "gray30", "grey35", "gray35", "grey39", "gray39", "grey42",
  "gray42", "grey46", "gray46", "grey50", "gray50", "grey54", "gray54", "grey58", "gray58",
  "grey62", "gray62", "grey66", "gray66", "grey70", "gray70", "grey74", "gray74", "grey78",
  "gray78", "grey82", "gray82", "grey85", "gray85", "grey89", "gray89", "grey93", "gray93"]

/-- A number in the name of a colour is none. -/
structure Fault where
  text : List Char
  cause : Whole.Fault
  deriving DecidableEq, Repr

def Fault.message (fault : Fault) : String :=
  Whole.Fault.message 10 fault.text fault.cause

/-- A word after some characters, without the bracket that ends it. -/
def inside? (opening : String) (word : List Char) : Option (List Char) :=
  if opening.toList.isPrefixOf word && word.getLast? == some ')' then
    some ((word.drop opening.length).dropLast)
  else none

/-- A number of three digits at most that is not above 255. -/
def isColorNumber (digits : List Char) : Bool :=
  1 ≤ digits.length && digits.length ≤ 3 && digits.all Decimal.isDigit &&
    Decimal.value digits ≤ 255

/-- The numbers of a colour in red, green and blue. -/
def components (texts : List (List Char)) : Except Fault (List Int) :=
  texts.mapM fun text =>
    match Whole.read 10 text with
    | .ok value => .ok value
    | .error cause => .error ⟨text, cause⟩

/-- A word in small letters is a colour. -/
def isColor (word : String) : Except Fault Bool :=
  if colorNames.contains word then .ok true
  else
    let chars := word.toList
    match chars, inside? "color(" chars, inside? "rgb(" chars with
    | '#' :: digits, _, _ =>
      .ok (digits.length == 6 && digits.all fun c => (Whole.hexDigit? c).isSome)
    | _, some digits, _ => .ok (isColorNumber digits)
    | _, _, some digits =>
      let allowed := digits.all fun c => c == ',' || (Text.decimalDigit? c).isSome
      let texts := Text.pieces ',' digits
      if !digits.isEmpty && allowed && texts.length == 3 then
        (components texts).map fun values => values.all (· ≤ 255)
      else .ok false
    | _, _, _ => .ok false

/-- The parts of a style: attributes that are on or off, colours and an address. -/
structure Style where
  attributes : List (String × Bool)
  color : Option String
  background : Option String
  link : Option String

namespace Style

def empty : Style := ⟨[], none, none, none⟩

/-- The parts in the order of the normal form. -/
def parts (style : Style) : List String :=
  let attributes := StyleName.attributes.flatMap fun (name, _) =>
    match style.attributes.find? (·.1 == name) with
    | some (_, true) => [name]
    | some (_, false) => ["not", name]
    | none => []
  let background := (style.background.map fun color => ["on", color]).getD []
  let link := (style.link.map fun address => ["link", address]).getD []
  attributes ++ style.color.toList ++ background ++ link

/-- The normal form of a style. -/
def text (style : Style) : String :=
  if style.parts.isEmpty then "none" else " ".intercalate style.parts

/-- Turns an attribute on or off. -/
def set (style : Style) (name : String) (value : Bool) : Style :=
  { style with attributes := (name, value) :: style.attributes }

end Style

/-- The style that words name; `none` if they name none. -/
def styleOf (style : Style) : List String → Except Fault (Option Style)
  | [] => .ok (some style)
  | word :: words =>
    let small := Text.lower word
    if small = "on" then
      match words with
      | [] => .ok none
      | color :: words => do
        if ← isColor (Text.lower color) then
          styleOf { style with background := some (Text.lower color) } words
        else return none
    else if small = "not" then
      match words with
      | [] => .ok none
      | name :: words =>
        match attribute? name with
        | some name => styleOf (style.set name false) words
        | none => .ok none
    else if small = "link" then
      match words with
      | [] => .ok none
      | address :: words => styleOf { style with link := some address } words
    else
      match attribute? small with
      | some name => styleOf (style.set name true) words
      | none => do
        if ← isColor small then styleOf { style with color := some small } words
        else return none

/-- The words of a text, which white space separates; `fuel` bounds their number. -/
def wordsFrom : Nat → List Char → List String
  | 0, _ => []
  | fuel + 1, text =>
    let rest := text.dropWhile Text.isBlank
    let word := rest.takeWhile (!Text.isBlank ·)
    if word.isEmpty then []
    else String.ofList word :: wordsFrom fuel (rest.drop word.length)

/-- The normal form of the name of a style. -/
def normal (name : String) : Except Fault String := do
  let style ←
    if Text.trim name = "none" then pure (some Style.empty)
    else styleOf .empty (wordsFrom (name.length + 1) name.toList)
  return (style.map Style.text).getD (Text.lower (Text.trim name))

end WorkspacePolicy.StyleName
