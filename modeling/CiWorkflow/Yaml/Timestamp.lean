import CiWorkflow.Calendar

set_option autoImplicit false

namespace CiWorkflow.Yaml

structure Timestamp where
  date : Date
  /-- Month and day both have two digits. -/
  wide : Bool
  clock : Option Moment
  deriving DecidableEq, Repr

def digit? (c : Char) : Option Nat := if c.isDigit then some (c.toNat - 48) else none

def fixedDigits : Nat → Nat → List Char → Option (Nat × List Char)
  | 0, n, cs => some (n, cs)
  | _ + 1, _, [] => none
  | k + 1, n, c :: r => (digit? c).bind fun d => fixedDigits k (n * 10 + d) r

def oneOrTwo (cs : List Char) : Option (Nat × Bool × List Char) :=
  match fixedDigits 2 0 cs with
  | some (n, r) => some (n, true, r)
  | none => (fixedDigits 1 0 cs).map fun (n, r) => (n, false, r)

def expect (c : Char) : List Char → Option (List Char)
  | d :: r => if c == d then some r else none
  | [] => none

def skipBlanks (cs : List Char) : List Char := cs.dropWhile fun c => c == ' ' || c == '\t'

/-- A fraction of a second in microseconds; digits past the sixth are dropped. -/
def micros (ds : List Char) : Nat :=
  (ds.take 6 ++ List.replicate (6 - ds.length) '0').foldl (fun n c => n * 10 + (c.toNat - 48)) 0

/-- `Z`, or a signed offset in hours and perhaps minutes, up to the end. -/
def readOffset : List Char → Option (Option Int)
  | [] => some none
  | ['Z'] => some (some 0)
  | sign :: r =>
    if sign == '+' || sign == '-' then do
      let (h, _, r) ← oneOrTwo r
      let m ← match r with
        | [] => some 0
        | _ => do
          let r ← expect ':' r
          let (m, r) ← fixedDigits 2 0 r
          if r.isEmpty then some m else none
      let total : Int := (h * 60 + m : Nat)
      pure (some (if sign == '-' then -total else total))
    else none

def readClock (date : Date) (cs : List Char) : Option Moment := do
  let (hour, _, r) ← oneOrTwo cs
  let r ← expect ':' r
  let (minute, r) ← fixedDigits 2 0 r
  let r ← expect ':' r
  let (second, r) ← fixedDigits 2 0 r
  let (fraction, r) := match r with
    | '.' :: t => (t.takeWhile Char.isDigit, t.dropWhile Char.isDigit)
    | _ => ([], r)
  let rest := skipBlanks r
  let offset ← if rest.isEmpty && !r.isEmpty then none else readOffset rest
  pure ⟨date, hour, minute, second, micros fraction, offset⟩

def readTimestamp (cs : List Char) : Option Timestamp := do
  let (year, r) ← fixedDigits 4 0 cs
  let r ← expect '-' r
  let (month, wideMonth, r) ← oneOrTwo r
  let r ← expect '-' r
  let (day, wideDay, r) ← oneOrTwo r
  let date : Date := ⟨year, month, day⟩
  let wide := wideMonth && wideDay
  match r with
  | [] => pure ⟨date, wide, none⟩
  | c :: t =>
    let clock ←
      if c == 'T' || c == 't' then readClock date t
      else if c == ' ' || c == '\t' then readClock date (skipBlanks t)
      else none
    pure ⟨date, wide, some clock⟩

/-- A plain scalar counts as a timestamp if it has a time of day or a date in full width. -/
def Timestamp.isPlain (t : Timestamp) : Bool := t.clock.isSome || t.wide

end CiWorkflow.Yaml
