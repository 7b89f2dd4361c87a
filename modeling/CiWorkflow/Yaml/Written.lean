import CiWorkflow.Value
import CiWorkflow.Yaml.Gap
import CiWorkflow.Yaml.Tag

/-! Texts and collections as block style YAML in ASCII. A text is plain where it reads back as
itself, in single quotes where these can hold it, and otherwise in double quotes with escapes. Long
lines are folded at spaces. -/

set_option autoImplicit false

namespace CiWorkflow.Yaml

def lineWidth : Nat := 80

inductive Style where
  | plain
  | single
  | double
  deriving DecidableEq, Repr

def isLeadingIndicator (c : Char) : Bool := "#,[]\x7b\x7d&*!|>'\"%@`".toList.contains c

def startsBadly : List Char → Bool
  | [] => false
  | c :: r => isLeadingIndicator c || ((c == '?' || c == ':' || c == '-') && atGap r)

/-- A `:` at the end of a word, or a `#` at the start of one. -/
def hasMark : (previous : Option Char) → List Char → Bool
  | _, [] => false
  | previous, c :: r =>
    (c == ':' && previous.isSome && atGap r) || (c == '#' && previous.any isGap)
      || hasMark (some c) r

def isMarker (cs : List Char) : Bool :=
  ['-', '-', '-'].isPrefixOf cs || ['.', '.', '.'].isPrefixOf cs

def hasSpacedBreak : List Char → Bool
  | a :: b :: r => (a == ' ' && b == '\n') || (a == '\n' && b == ' ') || hasSpacedBreak (b :: r)
  | _ => false

def isPlainAscii (c : Char) : Bool := ' ' ≤ c && c ≤ '~'

def isEdge (c : Option Char) : Bool := c == some ' ' || c == some '\n'

def isPlain (cs : List Char) : Bool :=
  !cs.isEmpty && cs.all isPlainAscii && !isEdge cs.head? && !isEdge cs.getLast?
    && !isMarker cs && !startsBadly cs && !hasMark none cs

def styleOf (cs : List Char) : Style :=
  if isPlain cs && Tag.ofPlain cs == .str then .plain
  else if cs.all (fun c => isPlainAscii c || c == '\n') && !hasSpacedBreak cs then .single
  else .double

def spaces (n : Nat) : List Char := List.replicate n ' '

def foldPlain (indent : Nat) : (afterSpace : Bool) → (column : Nat) → List Char → List Char
  | _, _, [] => []
  | afterSpace, column, c :: r =>
    if c == ' ' && !afterSpace && lineWidth < column && r.head? != some ' ' then
      '\n' :: spaces indent ++ foldPlain indent true indent r
    else c :: foldPlain indent (c == ' ') (column + 1) r

/-- What stands between single quotes: quotes doubled, one line break more than the text has, and
folds at single spaces inside. -/
def foldSingle (indent : Nat) : (previous : Option Char) → (column : Nat) → List Char → List Char
  | _, _, [] => []
  | previous, column, c :: r =>
    if c == '\n' then
      let first := if previous == some '\n' then [] else ['\n']
      let last := if r.head? == some '\n' then [] else spaces indent
      first ++ '\n' :: last ++ foldSingle indent (some c) indent r
    else if c == ' ' && previous.isSome && previous != some ' ' && lineWidth < column
        && !r.isEmpty && r.head? != some ' ' then
      '\n' :: spaces indent ++ foldSingle indent (some c) indent r
    else if c == '\'' then '\'' :: '\'' :: foldSingle indent (some c) (column + 2) r
    else c :: foldSingle indent (some c) (column + 1) r

def upperHexDigit (n : Nat) : Char :=
  if n < 10 then Char.ofNat (48 + n) else Char.ofNat (55 + n)

def upperHex : Nat → Nat → List Char
  | 0, _ => []
  | k + 1, n => upperHex k (n / 16) ++ [upperHexDigit (n % 16)]

def escapeLetter? : Char → Option Char
  | '\x00' => some '0'
  | '\x07' => some 'a'
  | '\x08' => some 'b'
  | '\t' => some 't'
  | '\n' => some 'n'
  | '\x0b' => some 'v'
  | '\x0c' => some 'f'
  | '\r' => some 'r'
  | '\x1b' => some 'e'
  | '"' => some '"'
  | '\\' => some '\\'
  | '\u0085' => some 'N'
  | '\u00a0' => some '_'
  | '\u2028' => some 'L'
  | '\u2029' => some 'P'
  | _ => none

def escape? (c : Char) : Option (List Char) :=
  match escapeLetter? c with
  | some l => some ['\\', l]
  | none =>
    if isPlainAscii c then none
    else if c.toNat ≤ 0xFF then some ('\\' :: 'x' :: upperHex 2 c.toNat)
    else if c.toNat ≤ 0xFFFF then some ('\\' :: 'u' :: upperHex 4 c.toNat)
    else some ('\\' :: 'U' :: upperHex 8 c.toNat)

/-- A line break that the reader skips, with the indentation behind it. A space that comes next is
kept by a backslash. -/
def breakLine (indent : Nat) (next : Option Char) : List Char :=
  '\\' :: '\n' :: spaces indent ++ (if next == some ' ' then ['\\'] else [])

/-- What comes before a character: nothing, an escape, or anything else. -/
inductive Before where
  | start
  | escape
  | other
  deriving DecidableEq, Repr

/-- What stands between double quotes: folds in front of spaces and on both sides of escapes,
neither at the first nor at the last character. -/
def foldDouble (indent : Nat) : Before → (column : Nat) → List Char → List Char
  | _, _, [] => []
  | before, column, c :: r =>
    let inside := before != .start && !r.isEmpty
    match escape? c with
    | some e =>
      let column := column + e.length
      if inside && lineWidth + 1 < column then
        let b := breakLine indent r.head?
        e ++ b ++ foldDouble indent .escape (b.length - 2) r
      else e ++ foldDouble indent .escape column r
    | none =>
      if inside && (c == ' ' || before == .escape) && lineWidth < column then
        let b := breakLine indent (some c)
        b ++ c :: foldDouble indent .other (b.length - 1) r
      else c :: foldDouble indent .other (column + 1) r

def writeText (indent column : Nat) (s : String) : List Char :=
  let cs := s.toList
  match styleOf cs with
  | .plain => foldPlain indent false column cs
  | .single => '\'' :: foldSingle indent none (column + 1) cs ++ ['\'']
  | .double => '"' :: foldDouble indent .start (column + 1) cs ++ ['"']

inductive Content where
  | text (s : String)
  | flag (b : Bool)
  | list (items : List Content)
  | record (fields : List (String × Content))

def flagText (b : Bool) : List Char := if b then "true\n".toList else "false\n".toList

mutual

def writeItems (indent : Nat) (first : Bool) : List Content → List Char
  | [] => []
  | c :: rest =>
    (if first then [] else spaces indent) ++ '-' :: ' ' :: writeItem indent c
      ++ writeItems indent false rest

def writeItem (indent : Nat) : Content → List Char
  | .text s => writeText (indent + 2) (indent + 2) s ++ ['\n']
  | .flag b => flagText b
  | .list [] => "[]\n".toList
  | .list items => writeItems (indent + 2) true items
  | .record [] => "\x7b\x7d\n".toList
  | .record fields => writeFields (indent + 2) true fields

def writeFields (indent : Nat) (first : Bool) : List (String × Content) → List Char
  | [] => []
  | (k, c) :: rest =>
    (if first then [] else spaces indent) ++ k.toList ++ ':' :: writeField indent k.length c
      ++ writeFields indent false rest

/-- What comes after a key and its `:`. A list is not indented under its key. -/
def writeField (indent key : Nat) : Content → List Char
  | .text s => ' ' :: writeText (indent + 2) (indent + key + 2) s ++ ['\n']
  | .flag b => ' ' :: flagText b
  | .list [] => " []\n".toList
  | .list items => '\n' :: spaces indent ++ writeItems indent true items
  | .record [] => " \x7b\x7d\n".toList
  | .record fields => '\n' :: spaces (indent + 2) ++ writeFields (indent + 2) true fields

end

def write (fields : List (String × Content)) : String := String.ofList (writeFields 0 true fields)

end CiWorkflow.Yaml
