import CiWorkflow.Yaml.Timestamp

set_option autoImplicit false

namespace CiWorkflow.Yaml

inductive Tag where
  | null | bool | int | float | binary | timestamp | str | seq | map | set | omap | pairs
  | merge
  /-- The key `=`. -/
  | default
  | unknown
  deriving DecidableEq, Repr

namespace Tag

def standard : String := "tag:yaml.org,2002:"

def names : List (String × Tag) := [
  ("null", null), ("bool", bool), ("int", int), ("float", float), ("binary", binary),
  ("timestamp", timestamp), ("str", str), ("seq", seq), ("map", map), ("set", set),
  ("omap", omap), ("pairs", pairs), ("merge", merge), ("value", default)]

def ofName (name : String) : Tag :=
  ((names.find? fun p => standard ++ p.1 == name).map (·.2)).getD unknown

def boolWords : List String := [
  "yes", "Yes", "YES", "no", "No", "NO", "true", "True", "TRUE", "false", "False", "FALSE",
  "on", "On", "ON", "off", "Off", "OFF"]

def isDigitOrLow (c : Char) : Bool := c.isDigit || c == '_'

def isBase16 (c : Char) : Bool :=
  c.isDigit || ('a' ≤ c && c ≤ 'f') || ('A' ≤ c && c ≤ 'F') || c == '_'

def dropSign : List Char → List Char
  | c :: r => if c == '+' || c == '-' then r else c :: r
  | [] => []

/-- Base-sixty places, each `:` and one digit or two up to 59; what follows them, if there was one
at least. -/
def dropPlaces : List Char → Option (List Char)
  | ':' :: a :: b :: r =>
    if !a.isDigit then none
    else if b.isDigit then (if a ≤ '5' then some ((dropPlaces r).getD r) else none)
    else some ((dropPlaces (b :: r)).getD (b :: r))
  | [':', a] => if a.isDigit then some [] else none
  | _ => none

def isExponent : List Char → Bool
  | [] => true
  | e :: sign :: r =>
    (e == 'e' || e == 'E') && (sign == '+' || sign == '-') && !r.isEmpty && r.all Char.isDigit
  | _ => false

/-- The part of a float after its point: digits, then perhaps an exponent. -/
def isFraction (cs : List Char) : Bool := isExponent (cs.dropWhile isDigitOrLow)

def isFloat (cs : List Char) : Bool :=
  let body := dropSign cs
  let named (words : List String) (cs : List Char) := words.contains (String.ofList cs)
  match body with
  | '.' :: r =>
    named ["inf", "Inf", "INF"] r ||
      (body.length == cs.length &&
        (named ["nan", "NaN", "NAN"] r || ((r.head?.map Char.isDigit).getD false && isFraction r)))
  | c :: r =>
    c.isDigit && (match r.dropWhile isDigitOrLow with
      | '.' :: t => isFraction t
      | rest => match dropPlaces rest with
        | some ('.' :: t) => t.all isDigitOrLow
        | _ => false)
  | [] => false

def isInt (cs : List Char) : Bool :=
  match dropSign cs with
  | ['0'] => true
  | '0' :: 'b' :: r => !r.isEmpty && r.all fun c => c == '0' || c == '1' || c == '_'
  | '0' :: 'x' :: r => !r.isEmpty && r.all isBase16
  | '0' :: r => r.all fun c => ('0' ≤ c && c ≤ '7') || c == '_'
  | c :: r =>
    c.isDigit && (match r.dropWhile isDigitOrLow with
      | [] => true
      | rest => dropPlaces rest == some [])
  | [] => false

def isNull (cs : List Char) : Bool :=
  ["", "~", "null", "Null", "NULL"].contains (String.ofList cs)

def isTimestamp (cs : List Char) : Bool := ((readTimestamp cs).map (·.isPlain)).getD false

def ofPlain (cs : List Char) : Tag :=
  if boolWords.contains (String.ofList cs) then bool
  else if isFloat cs then float
  else if isInt cs then int
  else if cs == ['<', '<'] then merge
  else if isNull cs then null
  else if isTimestamp cs then timestamp
  else if cs == ['='] then default
  else if cs == ['!'] || cs == ['&'] || cs == ['*'] then unknown
  else str

/-- The tag of a scalar that is read as a plain one, a line break at its end being overlooked. -/
def ofScalar (cs : List Char) : Tag :=
  match cs.reverse with
  | '\n' :: r => if r.isEmpty then str else ofPlain r.reverse
  | _ => ofPlain cs

end Tag

end CiWorkflow.Yaml
