import CiWorkflow.Number.Read
import CiWorkflow.Value

/-! Checking values against what is expected of them. Issues and warnings add up in the order in
which they are met, and fresh ids are numbered through. -/

set_option autoImplicit false

namespace CiWorkflow

inductive Place where
  | key (name : String)
  | index (n : Int)
  deriving DecidableEq, Repr

inductive Cause where
  | notText
  | notUnicode
  | notFlag
  | unclearFlag
  | notOutput
  | notList
  | notRecord (name : String)
  | extraKey
  | keyNotText
  deriving DecidableEq, Repr

structure Issue where
  cause : Cause
  place : List Place
  deriving DecidableEq, Repr

def Cause.code : Cause → String
  | .notText => "string_type"
  | .notUnicode => "string_unicode"
  | .notFlag => "bool_type"
  | .unclearFlag => "bool_parsing"
  | .notOutput => "enum"
  | .notList => "list_type"
  | .notRecord _ => "model_type"
  | .extraKey => "extra_forbidden"
  | .keyNotText => "invalid_key"

def Cause.message : Cause → String
  | .notText => "Input should be a valid string"
  | .notUnicode =>
    "Input should be a valid string, unable to parse raw data as a unicode string"
  | .notFlag => "Input should be a valid boolean"
  | .unclearFlag => "Input should be a valid boolean, unable to interpret input"
  | .notOutput => "Input should be 'REGISTRY' or 'OCI_LOCAL'"
  | .notList => "Input should be a valid list"
  | .notRecord name => "Input should be a valid dictionary or instance of " ++ name
  | .extraKey => "Extra inputs are not permitted"
  | .keyNotText => "Keys should be strings"

/-- A text field was given as a float, so its spelling may be lost. -/
structure Warning where
  field : String
  number : Float

def Warning.message (w : Warning) : String :=
  w.field ++ " was read as the number " ++ Number.full w.number
    ++ "; quote it in the configuration file to keep the value exactly as written"

inductive Rejection where
  | issues (found : List Issue)
  /-- A whole number cannot be written out as a text. All checking ends there, and what was found
  before does not count. -/
  | longNumber
  deriving DecidableEq, Repr

namespace Rejection

def message (record : String) : Rejection → String
  | .issues found =>
    let noun := if found.length == 1 then "error" else "errors"
    toString found.length ++ " validation " ++ noun ++ " for " ++ record
  | .longNumber => "Exceeds the limit (4300 digits) for integer string conversion; "
    ++ "use sys.set_int_max_str_digits() to increase the limit"

def and : Rejection → Rejection → Rejection
  | .issues es, .issues es' => .issues (es ++ es')
  | _, _ => .longNumber

def under (p : Place) : Rejection → Rejection
  | .issues es => .issues (es.map fun e => { e with place := p :: e.place })
  | .longNumber => .longNumber

end Rejection

structure Checked (α : Type) where
  /-- The number of ids drawn so far. -/
  drawn : Nat
  warnings : List Warning
  result : Except Rejection α

def Checked.isCut {α : Type} (c : Checked α) : Bool :=
  match c.result with
  | .error .longNumber => true
  | _ => false

def Check (α : Type) : Type := Nat → Checked α

namespace Check
variable {α β : Type}

def ok (a : α) : Check α := fun n => ⟨n, [], .ok a⟩

def fail (rejection : Rejection) : Check α := fun n => ⟨n, [], .error rejection⟩

def issue (cause : Cause) : Check α := fail (.issues [⟨cause, []⟩])

def join : Except Rejection (α → β) → Except Rejection α → Except Rejection β
  | .ok f, .ok a => .ok (f a)
  | .ok _, .error e => .error e
  | .error e, .ok _ => .error e
  | .error e, .error e' => .error (e.and e')

/-- Runs both checks, also if the first one finds issues. -/
def also (f : Check (α → β)) (x : Check α) : Check β := fun n =>
  let a := f n
  if a.isCut then ⟨a.drawn, a.warnings, .error .longNumber⟩
  else
    let b := x a.drawn
    ⟨b.drawn, a.warnings ++ b.warnings, join a.result b.result⟩

theorem also_eq_ok_iff {f : Check (α → β)} {x : Check α} {n : Nat} {b : β} :
    (also f x n).result = .ok b ↔
      ∃ g a, (f n).result = .ok g ∧ (x (f n).drawn).result = .ok a ∧ g a = b := by
  simp only [also]
  split
  · rename_i cut
    have rejected (g : α → β) : (f n).result ≠ .ok g := by
      intro given
      simp [Checked.isCut, given] at cut
    simp [rejected]
  · cases (f n).result <;> cases (x (f n).drawn).result <;> simp [join]

def map (f : α → β) (x : Check α) : Check β := fun n =>
  let a := x n
  ⟨a.drawn, a.warnings, a.result.map f⟩

def bind (x : Check α) (f : α → Check β) : Check β := fun n =>
  let a := x n
  match a.result with
  | .ok v => let b := f v a.drawn; { b with warnings := a.warnings ++ b.warnings }
  | .error e => ⟨a.drawn, a.warnings, .error e⟩

def under (p : Place) (x : Check α) : Check α := fun n =>
  let a := x n
  { a with result := a.result.mapError (.under p) }

def all : List (Check α) → Check (List α)
  | [] => ok []
  | x :: rest => (x.map List.cons).also (all rest)

def warn (ws : List Warning) (x : Check α) : Check α := fun n =>
  let a := x n
  { a with warnings := ws ++ a.warnings }

def freshId : Check String := fun n => ⟨n + 1, [], .ok (String.ofList (Text.hex 8 (n + 1)))⟩

end Check

def isLong (n : Int) : Bool := Number.digitLimit < (Nat.toDigits 10 n.natAbs).length

/-- A text as it is, a number as its shortest text, bytes as the text that they encode. -/
def checkText : Value → Check String
  | .text s => .ok s
  | .int n => if isLong n then .fail .longNumber else .ok (toString n)
  | .float x => .ok (Number.full x)
  | .bytes bs => match String.fromUTF8? (ByteArray.mk bs.toArray) with
    | some s => .ok s
    | none => .issue .notUnicode
  | _ => .issue .notText

def checkWarnedText (field : String) (v : Value) : Check String :=
  match v with
  | .float x => (checkText v).warn [⟨field, x⟩]
  | _ => checkText v

def trueWords : List String := ["1", "on", "t", "true", "y", "yes"]

def falseWords : List String := ["0", "off", "f", "false", "n", "no"]

def checkFlagWord (cs : List Char) : Check Bool :=
  let word := String.ofList (cs.map Char.toLower)
  if trueWords.contains word then .ok true
  else if falseWords.contains word then .ok false
  else .issue .unclearFlag

def checkFlagNumber (n : Int) : Check Bool :=
  if n = 0 then .ok false
  else if n = 1 then .ok true
  else if -0x8000000000000000 ≤ n ∧ n < 0x8000000000000000 then .issue .unclearFlag
  else .issue .notFlag

def checkFlag : Value → Check Bool
  | .bool b => .ok b
  | .int n => checkFlagNumber n
  | .float x => match (Number.Binary.ofFloat x).toInt? with
    | some n => checkFlagNumber n
    | none => .issue .notFlag
  | .text s => checkFlagWord s.toList
  | .bytes bs => checkFlagWord (bs.map fun b => Char.ofNat b.toNat)
  | _ => .issue .notFlag

def checkItems {α : Type} (check : Value → Check α) (items : List Value) : Check (List α) :=
  .all (items.zipIdx.map fun (v, i) => (check v).under (.index i))

def checkList {α : Type} (check : Value → Check α) : Value → Check (List α)
  | .list items | .tuple items | .set items => checkItems check items
  | _ => .issue .notList

end CiWorkflow
