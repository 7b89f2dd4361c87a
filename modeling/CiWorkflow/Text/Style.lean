import CiWorkflow.Text.Class
import CiWorkflow.Text.Lines
import CiWorkflow.Text.Lower

/-! Styles of text as words, such as `bold red on white`. Words in another order, and short words
for long ones, give the same style: each has one normal form. -/

set_option autoImplicit false

namespace CiWorkflow.Text

def wordsOf (cs : List Char) : List String :=
  ((splitAt isBlank cs).filter fun w => !w.isEmpty).map String.ofList

def lowerText (s : String) : String := String.ofList (lower s.toList)

/-- What can be switched on and off, in the order of the normal form. -/
def attributeNames : List String := [
  "bold", "dim", "italic", "underline", "blink", "blink2", "reverse", "conceal", "strike",
  "underline2", "frame", "encircle", "overline"]

def shortAttributes : List (String × String) := [
  ("d", "dim"),
  ("b", "bold"),
  ("i", "italic"),
  ("u", "underline"),
  ("r", "reverse"),
  ("c", "conceal"),
  ("s", "strike"),
  ("uu", "underline2"),
  ("o", "overline")]

def attribute? (word : String) : Option String :=
  if attributeNames.contains word then some word else shortAttributes.lookup word

def colourNames : List String := [
  "black red green yellow blue magenta cyan white bright_black bright_red bright_green",
  "bright_yellow bright_blue bright_magenta bright_cyan bright_white grey0 gray0 navy_blue",
  "dark_blue blue3 blue1 dark_green deep_sky_blue4 dodger_blue3 dodger_blue2 green4 spring_green4",
  "turquoise4 deep_sky_blue3 dodger_blue1 green3 spring_green3 dark_cyan light_sea_green",
  "deep_sky_blue2 deep_sky_blue1 spring_green2 cyan3 dark_turquoise turquoise2 green1",
  "spring_green1 medium_spring_green cyan2 cyan1 dark_red deep_pink4 purple4 purple3 blue_violet",
  "orange4 grey37 gray37 medium_purple4 slate_blue3 royal_blue1 chartreuse4 dark_sea_green4",
  "pale_turquoise4 steel_blue steel_blue3 cornflower_blue chartreuse3 cadet_blue sky_blue3",
  "steel_blue1 pale_green3 sea_green3 aquamarine3 medium_turquoise chartreuse2 sea_green2",
  "sea_green1 aquamarine1 dark_slate_gray2 dark_magenta dark_violet purple light_pink4 plum4",
  "medium_purple3 slate_blue1 yellow4 wheat4 grey53 gray53 light_slate_grey light_slate_gray",
  "medium_purple light_slate_blue dark_olive_green3 dark_sea_green light_sky_blue3 sky_blue2",
  "dark_sea_green3 dark_slate_gray3 sky_blue1 chartreuse1 light_green pale_green1",
  "dark_slate_gray1 red3 medium_violet_red magenta3 dark_orange3 indian_red hot_pink3",
  "medium_orchid3 medium_orchid medium_purple2 dark_goldenrod light_salmon3 rosy_brown grey63",
  "gray63 medium_purple1 gold3 dark_khaki navajo_white3 grey69 gray69 light_steel_blue3",
  "light_steel_blue yellow3 dark_sea_green2 light_cyan3 light_sky_blue1 green_yellow",
  "dark_olive_green2 dark_sea_green1 pale_turquoise1 deep_pink3 magenta2 hot_pink2 orchid",
  "medium_orchid1 orange3 light_pink3 pink3 plum3 violet light_goldenrod3 tan misty_rose3",
  "thistle3 plum2 khaki3 light_goldenrod2 light_yellow3 grey84 gray84 light_steel_blue1 yellow2",
  "dark_olive_green1 honeydew2 light_cyan1 red1 deep_pink2 deep_pink1 magenta1 orange_red1",
  "indian_red1 hot_pink dark_orange salmon1 light_coral pale_violet_red1 orchid2 orchid1 orange1",
  "sandy_brown light_salmon1 light_pink1 pink1 plum1 gold1 navajo_white1 misty_rose1 thistle1",
  "yellow1 light_goldenrod1 khaki1 wheat1 cornsilk1 grey100 gray100 grey3 gray3 grey7 gray7",
  "grey11 gray11 grey15 gray15 grey19 gray19 grey23 gray23 grey27 gray27 grey30 gray30 grey35",
  "gray35 grey39 gray39 grey42 gray42 grey46 gray46 grey50 gray50 grey54 gray54 grey58 gray58",
  "grey62 gray62 grey66 gray66 grey70 gray70 grey74 gray74 grey78 gray78 grey82 gray82 grey85",
  "gray85 grey89 gray89 grey93 gray93"]

structure MissingPart where
  deriving DecidableEq, Repr

def MissingPart.message : MissingPart → String
  | _ => "invalid literal for int() with base 10: ''"

/-- What stands between a word with an opening bracket and the bracket that ends the text. -/
def bracketed? (start : String) (cs : List Char) : Option (List Char) :=
  let inner := cs.drop start.length
  if start.toList.isPrefixOf cs && inner.getLast? == some ')' then some inner.dropLast else none

def decimalValue (cs : List Char) : Nat :=
  cs.foldl (fun n c => n * 10 + (digitValue? c).getD 0) 0

/-- Three parts up to 255. Other counts of parts are no colour. -/
def isMixture (inner : List Char) : Except MissingPart Bool :=
  let parts := splitAt (· == ',') inner
  if inner.isEmpty || !inner.all (fun c => c == ',' || (digitValue? c).isSome)
      || parts.length != 3 then .ok false
  else if parts.any List.isEmpty then .error ⟨⟩
  else .ok (parts.all fun p => decimalValue p ≤ 255)

def isNumberedColour (inner : List Char) : Bool :=
  !inner.isEmpty && inner.length ≤ 3 && inner.all Char.isDigit && decimalValue inner ≤ 255

def isHexColour : List Char → Bool
  | '#' :: digits => digits.length == 6 && digits.all fun c => c.isDigit || ('a' ≤ c && c ≤ 'f')
  | _ => false

def colour? (word : String) : Except MissingPart (Option String) := do
  let name := lowerText word
  let cs := name.toList
  let isPlain := name == "default" || (colourNames.any fun line => (line.splitOn " ").contains name)
    || isHexColour cs || (bracketed? "color(" cs).any isNumberedColour
  let isMixed ← match bracketed? "rgb(" cs with
    | some inner => isMixture inner
    | none => pure false
  pure (if isPlain || isMixed then some name else none)

structure Style where
  /-- Attributes with whether they are on, the latest first. -/
  attributes : List (String × Bool)
  colour : Option String
  ground : Option String
  link : Option String
  deriving DecidableEq, Repr

namespace Style

def empty : Style := ⟨[], none, none, none⟩

def read (s : Style) : List String → Except MissingPart (Option Style)
  | [] => .ok (some s)
  | word :: rest =>
    match lowerText word, rest with
    | "on", [] | "not", [] | "link", [] => .ok none
    | "on", word :: rest => do
      match ← colour? word with
      | some name => read { s with ground := some name } rest
      | none => pure none
    | "not", word :: rest =>
      match attribute? word with
      | some name => read { s with attributes := (name, false) :: s.attributes } rest
      | none => .ok none
    | "link", address :: rest => read { s with link := some address } rest
    | word, rest =>
      match attribute? word with
      | some name => read { s with attributes := (name, true) :: s.attributes } rest
      | none => do
        match ← colour? word with
        | some name => read { s with colour := some name } rest
        | none => pure none

def words (s : Style) : List String :=
  let attributes := attributeNames.filterMap fun name =>
    (s.attributes.lookup name).map fun isOn => if isOn then name else "not " ++ name
  attributes ++ s.colour.toList ++ (s.ground.map ("on " ++ ·)).toList
    ++ (s.link.map ("link " ++ ·)).toList

def text (s : Style) : String := if s.words.isEmpty then "none" else " ".intercalate s.words

/-- The normal form of a style. Words that give none are one style by themselves, whatever their
case. -/
def normalize (cs : List Char) : Except MissingPart String := do
  let words := wordsOf cs
  if words == ["none"] then pure empty.text
  else match ← empty.read words with
    | some s => pure s.text
    | none => pure (lowerText (String.ofList (trim cs)))

end Style

end CiWorkflow.Text
