import CiWorkflow.Number.Read
import CiWorkflow.Text.Escape
import CiWorkflow.Value

/-! JSON texts as values. A number without fraction and exponent is whole, `NaN` and `Infinity` are
numbers, and of members with one name the last counts. -/

set_option autoImplicit false

namespace CiWorkflow.Json

open Text (hexValue? isFirstHalf pairChar? charOfCode)

inductive Fault where
  | malformed
  /-- A whole number with more digits than are accepted. -/
  | longInteger
  deriving DecidableEq, Repr

def Fault.ofOption {α : Type} : Option α → Except Fault α
  | some a => .ok a
  | none => .error .malformed

def isBlank (c : Char) : Bool := c == ' ' || c == '\t' || c == '\n' || c == '\r'

def skipBlanks (cs : List Char) : List Char := cs.dropWhile isBlank

def unit? (a b c d : Char) : Option Nat := do
  pure ((((← hexValue? a) * 16 + (← hexValue? b)) * 16 + (← hexValue? c)) * 16 + (← hexValue? d))

def escaped? : Char → Option Char
  | '"' => some '"'
  | '\\' => some '\\'
  | '/' => some '/'
  | 'b' => some '\x08'
  | 'f' => some '\x0c'
  | 'n' => some '\n'
  | 'r' => some '\r'
  | 't' => some '\t'
  | _ => none

/-- The text of an escaped unit behind `half`, a first half of a pair whose text is still due. A
first half is due itself. -/
def unitText [Half] (half : Option Nat) (n : Nat) : List Char :=
  match half.bind (pairChar? · n) with
  | some c => [c]
  | none => (half.map charOfCode).toList ++ if isFirstHalf n then [] else [charOfCode n]

def readString [Half] (half : Option Nat) : List Char → Option (List Char × List Char)
  | [] => none
  | '\\' :: 'u' :: a :: b :: c :: d :: r => do
    let n ← unit? a b c d
    let (cs, rest) ← readString (if isFirstHalf n then some n else none) r
    pure (unitText half n ++ cs, rest)
  | '\\' :: e :: r => do
    let c ← escaped? e
    let (cs, rest) ← readString none r
    pure ((half.map charOfCode).toList ++ c :: cs, rest)
  | c :: r =>
    if c == '"' then some ((half.map charOfCode).toList, r)
    else if c.toNat < 0x20 || c == '\\' then none
    else do
      let (cs, rest) ← readString none r
      pure ((half.map charOfCode).toList ++ c :: cs, rest)

def takeDigits (cs : List Char) : List Char × List Char :=
  (cs.takeWhile Char.isDigit, cs.dropWhile Char.isDigit)

def digitsValue (ds : List Char) : Nat := ds.foldl (fun n c => n * 10 + (c.toNat - 48)) 0

def readExponent (cs : List Char) : Option (Int × List Char) :=
  match cs with
  | e :: r =>
    if e == 'e' || e == 'E' then
      let (negative, r) := Number.splitSign r
      match takeDigits r with
      | ([], _) => none
      | (ds, rest) => some (if negative then -(digitsValue ds : Int) else digitsValue ds, rest)
    else none
  | [] => none

def readNumber (negative : Bool) (cs : List Char) : Except Fault (Value × List Char) :=
  let (whole, r) := match cs with
    | '0' :: r => (['0'], r)
    | _ => takeDigits cs
  if whole.isEmpty then .error .malformed
  else
    let (fraction, r) := match r with
      | '.' :: t => match takeDigits t with
        | ([], _) => ([], r)
        | (ds, rest) => (ds, rest)
      | _ => ([], r)
    let n := digitsValue (whole ++ fraction)
    let real (e : Int) : Value :=
      let x := Number.nearest n (e - fraction.length)
      .float (if negative then -x else x)
    match readExponent r with
    | some (e, rest) => .ok (real e, rest)
    | none =>
      if !fraction.isEmpty then .ok (real 0, r)
      else if Number.digitLimit < whole.length then .error .longInteger
      else .ok (.int (if negative then -(n : Int) else n), r)

def stripStart (word : String) (cs : List Char) : Option (List Char) :=
  if word.toList.isPrefixOf cs then some (cs.drop word.length) else none

def words : List (String × Value) := [
  ("null", .null), ("true", .bool true), ("false", .bool false), ("NaN", .float (0.0 / 0.0)),
  ("Infinity", .float (1.0 / 0.0)), ("-Infinity", .float (-1.0 / 0.0))]

def readWord (cs : List Char) : Option (Value × List Char) :=
  words.findSome? fun (word, v) => (stripStart word cs).map fun rest => (v, rest)

mutual

/-- A value where one has to come; blanks in front of it are skipped by the caller. -/
def readValue [Half] : Nat → List Char → Except Fault (Value × List Char)
  | 0, _ => .error .malformed
  | fuel + 1, cs =>
    match cs with
    | '"' :: r =>
      (Fault.ofOption (readString none r)).map fun (s, rest) => (.text (String.ofList s), rest)
    | '[' :: r => do
      let r := skipBlanks r
      match r with
      | ']' :: rest => pure (.list [], rest)
      | _ =>
        let (items, rest) ← readItems fuel r
        pure (.list items, rest)
    | '\x7b' :: r => do
      let r := skipBlanks r
      match r with
      | '\x7d' :: rest => pure (.map [], rest)
      | _ =>
        let (members, rest) ← readMembers fuel r
        pure (.map (Value.ofPairs members), rest)
    | _ => match readWord cs with
      | some found => .ok found
      | none => match cs with
        | '-' :: r => readNumber true r
        | _ => readNumber false cs

def readItems [Half] : Nat → List Char → Except Fault (List Value × List Char)
  | 0, _ => .error .malformed
  | fuel + 1, cs => do
    let (v, r) ← readValue fuel cs
    match skipBlanks r with
    | ',' :: r =>
      let (items, rest) ← readItems fuel (skipBlanks r)
      pure (v :: items, rest)
    | ']' :: rest => pure ([v], rest)
    | _ => throw .malformed

def readMembers [Half] : Nat → List Char → Except Fault (List (Value × Value) × List Char)
  | 0, _ => .error .malformed
  | fuel + 1, cs => do
    match cs with
    | '"' :: r =>
      let (name, r) ← Fault.ofOption (readString none r)
      match skipBlanks r with
      | ':' :: r =>
        let (v, r) ← readValue fuel (skipBlanks r)
        let member := (.text (String.ofList name), v)
        match skipBlanks r with
        | ',' :: r =>
          let (members, rest) ← readMembers fuel (skipBlanks r)
          pure (member :: members, rest)
        | '\x7d' :: rest => pure ([member], rest)
        | _ => throw .malformed
      | _ => throw .malformed
    | _ => throw .malformed

end

def read [Half] (text : String) : Except Fault Value := do
  let cs := text.toList
  let (v, rest) ← readValue (cs.length + 1) (skipBlanks cs)
  if (skipBlanks rest).isEmpty then pure v else throw .malformed

end CiWorkflow.Json
