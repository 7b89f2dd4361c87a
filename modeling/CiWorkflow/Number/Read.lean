import CiWorkflow.Text.Class

set_option autoImplicit false

namespace CiWorkflow.Number
open CiWorkflow.Text

def baseDigit? (c : Char) : Option Nat :=
  match digitValue? c with
  | some d => some d
  | none =>
    if 'a' ≤ c ∧ c ≤ 'z' then some (c.toNat - 'a'.toNat + 10)
    else if 'A' ≤ c ∧ c ≤ 'Z' then some (c.toNat - 'A'.toNat + 10)
    else none

/-- Digits with single underscores between them; `ready` says that the last character was a
digit. -/
def digitsFrom (base : Nat) : Bool → Nat → List Char → Option Nat
  | ready, n, [] => if ready then some n else none
  | ready, n, '_' :: r => if ready && !r.isEmpty then digitsFrom base false n r else none
  | _, n, c :: r => do
    let d ← baseDigit? c
    if d < base then digitsFrom base true (n * base + d) r else none

def splitSign : List Char → Bool × List Char
  | '-' :: r => (true, r)
  | '+' :: r => (false, r)
  | cs => (false, cs)

def dropMarker (base : Nat) : List Char → List Char
  | '0' :: m :: r =>
    let marked := (base == 16 && (m == 'x' || m == 'X')) || (base == 8 && (m == 'o' || m == 'O'))
      || (base == 2 && (m == 'b' || m == 'B'))
    if marked then (match r with | '_' :: t => t | _ => r) else '0' :: m :: r
  | cs => cs

/-- A whole number in a base: blanks around it, a sign, the base's marker, and single underscores
between digits are allowed. -/
def readInt? (base : Nat) (cs : List Char) : Option Int :=
  let (negative, body) := splitSign (trim cs)
  (digitsFrom base false 0 (dropMarker base body)).map fun n => if negative then -(n : Int) else n

/-- Decimal whole numbers of more digits are refused where texts are checked. -/
def digitLimit : Nat := 4300

def digitCount (cs : List Char) : Nat := cs.countP fun c => (digitValue? c).isSome

/-- The nearest float to `digits · 10 ^ expo`. -/
def nearest (digits : Nat) (expo : Int) : Float :=
  let size : Int := (Nat.toDigits 10 digits).length
  if digits == 0 || expo + size < -400 then 0.0
  else if expo + size > 400 then 1.0 / 0.0
  else Float.ofScientific digits (decide (expo < 0)) expo.natAbs

/-- A run of digits with single underscores between them: value, length, and what follows. -/
def takeDigits : Nat → Nat → List Char → Nat × Nat × List Char
  | n, k, '_' :: c :: r =>
    match k, digitValue? c with
    | _ + 1, some d => takeDigits (n * 10 + d) (k + 1) r
    | _, _ => (n, k, '_' :: c :: r)
  | n, k, c :: r =>
    match digitValue? c with
    | some d => takeDigits (n * 10 + d) (k + 1) r
    | none => (n, k, c :: r)
  | n, k, [] => (n, k, [])

def readExponent? : List Char → Option Int
  | [] => some 0
  | m :: r =>
    if m == 'e' || m == 'E' then
      let (negative, body) := splitSign r
      match takeDigits 0 0 body with
      | (n, _ + 1, []) => some (if negative then -(n : Int) else n)
      | _ => none
    else none

def asciiLower (cs : List Char) : List Char := cs.map Char.toLower

def readMagnitude? (cs : List Char) : Option Float :=
  let word := String.ofList (asciiLower cs)
  if word == "inf" || word == "infinity" then some (1.0 / 0.0)
  else if word == "nan" then some (0.0 / 0.0)
  else
    let (whole, k, rest) := takeDigits 0 0 cs
    match rest with
    | '.' :: tail =>
      let (both, j, rest) := takeDigits whole 0 tail
      if k + j == 0 then none
      else (readExponent? rest).map fun e => nearest both (e - j)
    | _ => if k == 0 then none else (readExponent? rest).map fun e => nearest whole e

/-- A decimal, `inf`, `infinity` or `nan` with an optional sign and blanks around it. -/
def readFloat? (cs : List Char) : Option Float :=
  let (negative, body) := splitSign (trim cs)
  (readMagnitude? body).map fun x => if negative then -x else x

end CiWorkflow.Number
