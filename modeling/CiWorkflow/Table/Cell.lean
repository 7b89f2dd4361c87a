import CiWorkflow.Number.Read
import CiWorkflow.Text.Terminal
import CiWorkflow.Value

set_option autoImplicit false

namespace CiWorkflow.Table

open Text Number

inductive Kind where
  | nothing
  | flag
  | whole
  | decimal
  | bytes
  | text
  deriving DecidableEq, Repr

def Kind.rank : Kind → Nat
  | nothing => 0
  | flag => 1
  | whole => 2
  | decimal => 3
  | bytes => 4
  | text => 5

def Kind.max (a b : Kind) : Kind := if a.rank < b.rank then b else a

def Kind.isNumber : Kind → Bool
  | whole | decimal => true
  | _ => false

def isFraction (needed : Bool) : List Char → Bool
  | '.' :: r => r.all Char.isDigit && (!needed || !r.isEmpty)
  | _ => false

def dropGroups : List Char → List Char
  | ',' :: a :: b :: c :: r =>
    if a.isDigit && b.isDigit && c.isDigit then dropGroups r else ',' :: a :: b :: c :: r
  | cs => cs

/-- Up to three digits, then groups of three after commas, then a fraction; or a fraction alone. A
line feed at the end does not count. -/
def isGrouped (cs : List Char) : Bool :=
  let body := if cs.getLast? == some '\n' then cs.dropLast else cs
  let digits := (splitSign body).2
  let first := digits.takeWhile Char.isDigit
  let rest := dropGroups (digits.drop first.length)
  if first.isEmpty then body.isEmpty || isFraction true body
  else first.length ≤ 3 && (rest.isEmpty || isFraction false rest)

/-- Infinities and NaN count only in their short spelling. -/
def isDecimal (cs : List Char) : Bool :=
  match readFloat? cs with
  | none => false
  | some x =>
    if x.isFinite then true
    else ["inf", "-inf", "nan"].contains (String.ofList (asciiLower cs))

def isWhole (cs : List Char) : Bool := digitCount cs ≤ digitLimit && (readInt? 10 cs).isSome

def kindOfText (cs : List Char) : Kind :=
  if cs.isEmpty then .nothing
  else if cs == "True".toList || cs == "False".toList then .flag
  else if isWhole cs || (isGrouped cs && !cs.contains '.') then .whole
  else if isDecimal cs || isGrouped cs then .decimal
  else .text

def charsOfBytes (bs : List UInt8) : List Char := bs.map fun b => Char.ofNat b.toNat

/-- Bytes that can stand in a number. The information separators are blank only in texts. -/
def isNumberByte (c : Char) : Bool := c.toNat < 0x1C || (0x20 ≤ c.toNat && c.toNat < 0x80)

def floatOfBytes? (cs : List Char) : Option Float :=
  if cs.all isNumberByte then readFloat? cs else none

/-- Infinities and NaN do not count. -/
def kindOfBytes (cs : List Char) : Kind :=
  if cs.isEmpty then .nothing
  else if cs.all isNumberByte && isWhole cs then .whole
  else if (floatOfBytes? cs).any Float.isFinite then .decimal
  else .bytes

def kind : Value → Kind
  | .null => .nothing
  | .bool _ => .flag
  | .int _ => .whole
  | .float _ => .decimal
  | .bytes bs => kindOfBytes (visible (charsOfBytes bs))
  | .text s => kindOfText (visible s.toList)
  | _ => .text

/-- A column without any content is one of flags. -/
def columnKind (cells : List Value) : Kind := (cells.map kind).foldl Kind.max .flag

inductive Fault where
  /-- A whole number beyond all floats in a column of decimals. -/
  | tooLarge
  /-- A number in bytes, where control sequences are to stay around numbers. -/
  | bytes
  /-- Dividers between rows that do not exist. -/
  | onlyDividers
  deriving DecidableEq, Repr

def Fault.message : Fault → String
  | .tooLarge => "int too large to convert to float"
  | .bytes => "a bytes-like object is required, not 'str'"
  | .onlyDividers => "list index out of range"

def shownText : Value → String
  | .null => ""
  | .bytes [] => ""
  | v => v.shown

/-- A number in a column of decimals: six significant digits. If control sequences `occur`, they
stay around the number; else commas are dropped. -/
def decimalText (occur : Bool) : Value → Except Fault String
  | .bool b => .ok (general (if b then 1.0 else 0.0))
  | .int n =>
    let x := nearest n.natAbs 0
    if x.isFinite then .ok (general (if n < 0 then -x else x)) else .error .tooLarge
  | .float x => .ok (general x)
  | .text s =>
    let digits := if occur then visible s.toList else s.toList.filter (· != ',')
    match readFloat? digits with
    | some x =>
      if occur then .ok ((general x).intercalate (s.splitOn (String.ofList digits)))
      else .ok (general x)
    | none => .ok s
  | .bytes bs =>
    let cs := charsOfBytes bs
    match floatOfBytes? (if occur then visible cs else cs) with
    | some x => if occur then .error .bytes else .ok (general x)
    | none => .ok (shownText (.bytes bs))
  | v => .ok (shownText v)

/-- A colour, a number, and what follows, if that is neither printable ASCII nor the end. -/
def coloured? : List Char → Option (List Char × List Char × List Char)
  | '\x1b' :: '[' :: r =>
    let colour := r.takeWhile Char.isDigit
    let marks := (r.drop colour.length).takeWhile fun c => c == 'm' || c == 'M'
    let r := r.drop (colour.length + marks.length)
    let digits := r.takeWhile fun c => c.isDigit || c == '.'
    match r.drop digits.length with
    | c :: rest =>
      let isPlain := ' ' ≤ c && c ≤ '~' && c != '\\'
      if isPlain || colour.isEmpty || marks.isEmpty || digits.isEmpty then none
      else some ('\x1b' :: '[' :: colour ++ marks, digits, c :: rest)
    | [] => none
  | _ => none

def firstColoured? : List Char → Option (List Char × List Char × List Char)
  | [] => none
  | c :: r => coloured? (c :: r) <|> firstColoured? r

def repainted (cs : List Char) : List Char :=
  match firstColoured? cs with
  | some (colour, digits, rest) =>
    if digits.all Char.isDigit then
      let digits := match digits.dropWhile (· == '0') with
        | [] => ['0']
        | ds => ds
      colour ++ digits ++ rest
    else cs
  | none => cs

def wholeText : Value → String
  | .text s => String.ofList (repainted s.toList)
  | v => shownText v

def bytesText : Value → String
  | .bytes bs =>
    if bs.all (· < 128) then String.ofList (charsOfBytes bs) else (Value.bytes bs).quoted
  | v => shownText v

def cellText (columnKind : Kind) (occur : Bool) (v : Value) : Except Fault String :=
  match columnKind with
  | .decimal => decimalText occur v
  | .whole => .ok (wholeText v)
  | .bytes => .ok (bytesText v)
  | _ => .ok (shownText v)

def charsAfterPoint (cs : List Char) : Option Nat :=
  if (isDecimal cs || isGrouped cs) && !isWhole cs then
    let after (p : Char → Bool) : Option Nat := cs.reverse.findIdx? p
    after (· == '.') <|> after fun c => c == 'e' || c == 'E'
  else none

end CiWorkflow.Table
