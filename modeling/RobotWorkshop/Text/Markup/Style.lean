import RobotWorkshop.Text.Blank
import RobotWorkshop.Text.Cases
import RobotWorkshop.Text.Digits

/-!
The styles that tags ask for.  A style is a list of words: attributes, each of which may be turned
off, a colour, a colour of the ground, and a link.  The words of one style can be given in any
order, and attributes have short names; `Style.normalized` is one and the same text for all of them.
-/

namespace RobotWorkshop.Markup

/-- The attributes, in the order in which a style names them, each with its short names. -/
def attributes : List (String × List String) := [
  ("bold", ["b"]), ("dim", ["d"]), ("italic", ["i"]), ("underline", ["u"]), ("blink", []),
  ("blink2", []), ("reverse", ["r"]), ("conceal", ["c"]), ("strike", ["s"]),
  ("underline2", ["uu"]), ("frame", []), ("encircle", []), ("overline", ["o"])]

/-- The attribute of a word. -/
def attribute? (word : String) : Option String :=
  (attributes.find? fun (name, short) => name = word ∨ word ∈ short).map (·.1)

/-- The names of the colours. -/
def colours : String := "default
black red green yellow blue magenta cyan white bright_black bright_red bright_green
bright_yellow bright_blue bright_magenta bright_cyan bright_white grey0 gray0 navy_blue
dark_blue blue3 blue1 dark_green deep_sky_blue4 dodger_blue3 dodger_blue2 green4
spring_green4 turquoise4 deep_sky_blue3 dodger_blue1 green3 spring_green3 dark_cyan
light_sea_green deep_sky_blue2 deep_sky_blue1 spring_green2 cyan3 dark_turquoise turquoise2
green1 spring_green1 medium_spring_green cyan2 cyan1 dark_red deep_pink4 purple4 purple3
blue_violet orange4 grey37 gray37 medium_purple4 slate_blue3 royal_blue1 chartreuse4
dark_sea_green4 pale_turquoise4 steel_blue steel_blue3 cornflower_blue chartreuse3 cadet_blue
sky_blue3 steel_blue1 pale_green3 sea_green3 aquamarine3 medium_turquoise chartreuse2
sea_green2 sea_green1 aquamarine1 dark_slate_gray2 dark_magenta dark_violet purple
light_pink4 plum4 medium_purple3 slate_blue1 yellow4 wheat4 grey53 gray53 light_slate_grey
light_slate_gray medium_purple light_slate_blue dark_olive_green3 dark_sea_green
light_sky_blue3 sky_blue2 dark_sea_green3 dark_slate_gray3 sky_blue1 chartreuse1 light_green
pale_green1 dark_slate_gray1 red3 medium_violet_red magenta3 dark_orange3 indian_red
hot_pink3 medium_orchid3 medium_orchid medium_purple2 dark_goldenrod light_salmon3 rosy_brown
grey63 gray63 medium_purple1 gold3 dark_khaki navajo_white3 grey69 gray69 light_steel_blue3
light_steel_blue yellow3 dark_sea_green2 light_cyan3 light_sky_blue1 green_yellow
dark_olive_green2 dark_sea_green1 pale_turquoise1 deep_pink3 magenta2 hot_pink2 orchid
medium_orchid1 orange3 light_pink3 pink3 plum3 violet light_goldenrod3 tan misty_rose3
thistle3 plum2 khaki3 light_goldenrod2 light_yellow3 grey84 gray84 light_steel_blue1 yellow2
dark_olive_green1 honeydew2 light_cyan1 red1 deep_pink2 deep_pink1 magenta1 orange_red1
indian_red1 hot_pink dark_orange salmon1 light_coral pale_violet_red1 orchid2 orchid1 orange1
sandy_brown light_salmon1 light_pink1 pink1 plum1 gold1 navajo_white1 misty_rose1 thistle1
yellow1 light_goldenrod1 khaki1 wheat1 cornsilk1 grey100 gray100 grey3 gray3 grey7 gray7
grey11 gray11 grey15 gray15 grey19 gray19 grey23 gray23 grey27 gray27 grey30 gray30 grey35
gray35 grey39 gray39 grey42 gray42 grey46 gray46 grey50 gray50 grey54 gray54 grey58 gray58
grey62 gray62 grey66 gray66 grey70 gray70 grey74 gray74 grey78 gray78 grey82 gray82 grey85
gray85 grey89 gray89 grey93 gray93"

/-- The characters of a text without spacing at both ends. -/
def trimSpacing (text : List Char) : List Char :=
  ((text.dropWhile isSpacing).reverse.dropWhile isSpacing).reverse

/-- The number that a text of decimal digits stands for. -/
def decimal? (text : List Char) : Option Nat :=
  let text := trimSpacing text
  if text.isEmpty then none
  else text.foldlM (fun n c => (decimalDigit? c).map (10 * n + ·)) 0

/-- What stands between the parentheses behind a word. -/
def argument? (word : String) (text : String) : Option (List Char) :=
  let start := word ++ "("
  if start.isPrefixOf text && text.toList.getLast? = some ')' then
    some ((text.toList.drop start.length).dropLast)
  else none

/-- Whether a text gives a colour by number: six hexadecimal digits, a number up to 255, or three of
them. -/
def isColourCode (text : String) : Bool :=
  let isShade (n : Nat) := n ≤ 255
  match text.toList, argument? "color" text, argument? "rgb" text with
  | '#' :: digits, _, _ =>
    digits.length = 6 && digits.all fun c => c.isDigit || ('a' ≤ c && c ≤ 'f')
  | _, some digits, _ =>
    digits.length ≤ 3 && digits.all Char.isDigit && (decimal? digits).any isShade
  | _, _, some parts =>
    match (String.ofList parts).splitOn "," with
    | [red, green, blue] => [red, green, blue].all fun part => (decimal? part.toList).any isShade
    | _ => false
  | _, _, _ => false

/-- The name of a colour. -/
def colour? (word : String) : Option String :=
  let name := lowerCase word
  let names := (colours.splitOn "\n").flatMap (·.splitOn " ")
  if name ∈ names ∨ isColourCode name then some name else none

structure Style where
  /-- The attributes that are set, and whether they are turned on. -/
  attributes : List (String × Bool) := []
  colour : Option String := none
  ground : Option String := none
  link : Option String := none

namespace Style

/-- Sets an attribute, over what was said of it before. -/
def set (s : Style) (name : String) (on : Bool) : Style :=
  { s with attributes := (name, on) :: s.attributes.filter (·.1 ≠ name) }

/-- Adds to a style what some words say; nothing when one of them means nothing. -/
def extended? (s : Style) : List String → Option Style
  | [] => some s
  | word :: rest =>
    match lowerCase word, rest with
    | "on", ground :: rest =>
      (colour? ground).bind fun ground => extended? { s with ground := some ground } rest
    | "not", word :: rest => (attribute? word).bind fun name => (s.set name false).extended? rest
    | "link", link :: rest => extended? { s with link := some link } rest
    | "on", [] | "not", [] | "link", [] => none
    | name, rest =>
      match attribute? name with
      | some name => (s.set name true).extended? rest
      | none => (colour? name).bind fun colour => extended? { s with colour := some colour } rest

/-- The words of a text. -/
def words (text : List Char) : List String :=
  (text.splitOnP isSpacing).filterMap fun word =>
    if word.isEmpty then none else some (String.ofList word)

/-- The style as a text. -/
def text (s : Style) : String :=
  let set := Markup.attributes.filterMap fun (name, _) =>
    (s.attributes.find? (·.1 = name)).map fun (_, on) => if on then name else "not " ++ name
  let words := set ++ s.colour.toList ++ (s.ground.map ("on " ++ ·)).toList ++
    (s.link.map ("link " ++ ·)).toList
  if words.isEmpty then "none" else " ".intercalate words

/-- The text that all spellings of a style share; what is no style is itself, in small letters. -/
def normalized (text : List Char) : String :=
  let bare := String.ofList (trimSpacing text)
  if bare = "none" then "none"
  else match extended? {} (words text) with
    | some style => style.text
    | none => lowerCase bare

end Style

end RobotWorkshop.Markup
