import CiWorkflow.Number.Read
import CiWorkflow.Text.Base64
import CiWorkflow.Value
import CiWorkflow.Yaml.Fault
import CiWorkflow.Yaml.Tag

set_option autoImplicit false

namespace CiWorkflow.Yaml

def dropLow (cs : List Char) : List Char := cs.filter (· != '_')

/-- Decimal whole numbers have a limited number of digits. -/
def readWhole (base : Nat) (cs : List Char) : Except Fault Int :=
  match Number.readInt? base cs with
  | some n =>
    let digits := Number.digitCount cs
    if base == 10 && Number.digitLimit < digits then .error (.longInteger digits) else .ok n
  | none => .error (.integer base (String.ofList cs))

def splitAt (mark : Char) : List Char → List (List Char)
  | [] => [[]]
  | c :: r =>
    if c == mark then [] :: splitAt mark r
    else match splitAt mark r with
      | part :: parts => (c :: part) :: parts
      | [] => [[c]]

/-- Binary after `0b`, hexadecimal after `0x`, octal after `0`, base sixty with `:` between the
places, and decimal otherwise. -/
def readMagnitude (cs : List Char) : Except Fault Int :=
  match cs with
  | [] => .error .emptyNumber
  | ['0'] => .ok 0
  | '0' :: 'b' :: r => readWhole 2 r
  | '0' :: 'x' :: r => readWhole 16 r
  | '0' :: _ => readWhole 8 cs
  | _ =>
    if cs.contains ':' then do
      let places ← (splitAt ':' cs).mapM (readWhole 10)
      pure (places.foldl (fun n d => n * 60 + d) 0)
    else readWhole 10 cs

def readInteger (text : List Char) : Except Fault Int :=
  match dropLow text with
  | [] => .error .emptyNumber
  | '-' :: r => (readMagnitude r).map fun n => -n
  | '+' :: r => readMagnitude r
  | cs => readMagnitude cs

def readReal (cs : List Char) : Except Fault Float :=
  match Number.readFloat? cs with
  | some x => .ok x
  | none => .error (.decimal (String.ofList cs))

def sumPlaces (sum : Float) (base : Nat) : List Float → Except Fault Float
  | [] => .ok sum
  | x :: rest =>
    if 1 <<< 1024 ≤ base then .error .hugePlace
    else sumPlaces (sum + x * Float.ofScientific base false 0) (base * 60) rest

def readUnsigned (cs : List Char) : Except Fault Float :=
  if cs == ['.', 'i', 'n', 'f'] then .ok (1.0 / 0.0)
  else if cs == ['.', 'n', 'a', 'n'] then .ok (0.0 / 0.0)
  else if cs.contains ':' then do
    let places ← (splitAt ':' cs).mapM readReal
    sumPlaces 0.0 1 places.reverse
  else readReal cs

def readFloat (text : List Char) : Except Fault Float :=
  match Number.asciiLower (dropLow text) with
  | [] => .error .emptyNumber
  | '-' :: r => (readUnsigned r).map fun x => -x
  | '+' :: r => readUnsigned r
  | cs => readUnsigned cs

def readBool (text : String) : Except Fault Bool :=
  let word := text.toLower
  if ["yes", "true", "on"].contains word then .ok true
  else if ["no", "false", "off"].contains word then .ok false
  else .error (.boolWord word)

def dropFinalBreak (cs : List Char) : List Char :=
  match cs.reverse with
  | '\n' :: r => r.reverse
  | _ => cs

def readMoment (text : List Char) : Except Fault Value :=
  match readTimestamp (dropFinalBreak text) with
  | none => .error .timestamp
  | some t =>
    match t.clock with
    | none => match t.date.check with
      | .ok () => .ok (.date t.date)
      | .error f => .error (.calendar f)
    | some m => match m.check with
      | .ok () => .ok (.moment m)
      | .error f => .error (.calendar f)

def readBytes (text : List Char) : Except Fault (List UInt8) :=
  if text.all fun c => c.toNat < 0x80 then
    match Text.decodeBase64 text with
    | some bytes => .ok bytes
    | none => .error .malformed
  else .error .malformed

def scalarValue (tag : Tag) (text : String) : Except Fault Value :=
  match tag with
  | .null => .ok .null
  | .bool => (readBool text).map .bool
  | .int => (readInteger text.toList).map .int
  | .float => (readFloat text.toList).map .float
  | .binary => (readBytes text.toList).map .bytes
  | .timestamp => readMoment text.toList
  | .str => .ok (.text text)
  | _ => .error .malformed

/-- The value of a mapping that gives a text for the key `=` and is tagged as a scalar. A timestamp
is looked for in the mapping itself. -/
def mappedValue (tag : Tag) (text : String) : Except Fault Value :=
  match tag with
  | .timestamp => .error .mappedTimestamp
  | _ => scalarValue tag text

end CiWorkflow.Yaml
