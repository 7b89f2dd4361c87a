import CiWorkflow.Json

/-! The texts that are JSON: what the signs of a value are, how each may be spelled, and the white
space behind it. A text and what it denotes are two readings of one tree. A surrogate pair is a
letter, and half of one is none. -/

set_option autoImplicit false

namespace CiWorkflow.Json

inductive Letter where
  | raw (c : Char) (free : 0x20 ≤ c.toNat ∧ c ≠ '"' ∧ c ≠ '\\')
  /-- A backslash and the letter that stands for `c`. -/
  | short (e c : Char) (known : escaped? e = some c)
  /-- A backslash, a `u` and four hexadecimal digits. -/
  | code (p q r s c : Char) (known : unit? p q r s = some c.toNat)
  /-- Two units that make up a surrogate pair. -/
  | pair (p q r s p' q' r' s' c : Char) {first second : Nat}
      (units : unit? p q r s = some first ∧ unit? p' q' r' s' = some second)
      (known : Text.pairChar? first second = some c)

namespace Letter

def spelling : Letter → List Char
  | raw c _ => [c]
  | short e _ _ => ['\\', e]
  | code p q r s _ _ => ['\\', 'u', p, q, r, s]
  | pair p q r s p' q' r' s' _ _ _ => ['\\', 'u', p, q, r, s, '\\', 'u', p', q', r', s']

def char : Letter → Char
  | raw c _ => c
  | short _ c _ => c
  | code _ _ _ _ c _ => c
  | pair _ _ _ _ _ _ _ _ c _ _ => c

/-- The letter itself, if it is not escaped. -/
def raw? : Letter → Option Char
  | raw c _ => some c
  | _ => none

end Letter

/-- What stands behind the opening quote, the closing quote included. -/
def unquoted (ls : List Letter) : List Char := ls.flatMap Letter.spelling ++ ['"']

def content (ls : List Letter) : String := String.ofList (ls.map Letter.char)

structure Exponent where
  mark : Char
  sign : Option Char
  digits : List Char
  isMark : mark = 'e' ∨ mark = 'E'
  isSign : ∀ c ∈ sign, c = '+' ∨ c = '-'
  nonempty : digits ≠ []
  decimal : ∀ c ∈ digits, c.isDigit = true

def Exponent.spelling (e : Exponent) : List Char := e.mark :: (e.sign.toList ++ e.digits)

def Exponent.value (e : Exponent) : Int :=
  if e.sign = some '-' then -(digitsValue e.digits : Int) else digitsValue e.digits

structure Numeral where
  negative : Bool
  whole : List Char
  fraction : List Char
  exponent : Option Exponent
  nonempty : whole ≠ []
  leading : whole.head? = some '0' → whole = ['0']
  decimal : ∀ c ∈ whole ++ fraction, c.isDigit = true

namespace Numeral

def point (n : Numeral) : List Char := if n.fraction = [] then [] else '.' :: n.fraction

def tail (n : Numeral) : List Char := (n.exponent.map Exponent.spelling).getD []

def size (n : Numeral) : List Char := n.whole ++ (n.point ++ n.tail)

def spelling (n : Numeral) : List Char := if n.negative then '-' :: n.size else n.size

/-- A number with a fraction or an exponent is a float, and any other one is whole. -/
def IsWhole (n : Numeral) : Prop := n.fraction = [] ∧ n.exponent = none

instance (n : Numeral) : Decidable n.IsWhole :=
  decidable_of_iff (n.fraction.isEmpty && n.exponent.isNone) (by simp [IsWhole])

def value (n : Numeral) : Value :=
  let digits := digitsValue (n.whole ++ n.fraction)
  if n.IsWhole then .int (if n.negative then -(digits : Int) else digits)
  else
    let x := Number.nearest digits ((n.exponent.map Exponent.value).getD 0 - n.fraction.length)
    .float (if n.negative then -x else x)

end Numeral

inductive Literal where
  | null
  | flag (b : Bool)
  | number (n : Numeral)

namespace Literal

def spelling : Literal → List Char
  | null => ['n', 'u', 'l', 'l']
  | flag true => ['t', 'r', 'u', 'e']
  | flag false => ['f', 'a', 'l', 's', 'e']
  | number n => n.spelling

def value : Literal → Value
  | null => .null
  | flag b => .bool b
  | number n => n.value

end Literal

inductive Sign where
  | openObject
  | closeObject
  | openArray
  | closeArray
  | comma
  | colon
  | name (ls : List Letter)
  | text (ls : List Letter)
  | literal (l : Literal)

def Sign.spelling : Sign → List Char
  | openObject => ['\x7b']
  | closeObject => ['\x7d']
  | openArray => ['[']
  | closeArray => [']']
  | comma => [',']
  | colon => [':']
  | name ls => '"' :: unquoted ls
  | text ls => '"' :: unquoted ls
  | literal l => l.spelling

inductive Tree where
  | literal (l : Literal)
  | text (ls : List Letter)
  | array (items : List Tree)
  | object (members : List (List Letter × Tree))

def between (first : Bool) : List Sign := if first then [] else [.comma]

mutual

def Tree.signs : Tree → List Sign
  | .literal l => [.literal l]
  | .text ls => [.text ls]
  | .array items => .openArray :: (itemSigns true items ++ [.closeArray])
  | .object members => .openObject :: (memberSigns true members ++ [.closeObject])

def itemSigns (first : Bool) : List Tree → List Sign
  | [] => []
  | t :: rest => between first ++ (t.signs ++ itemSigns false rest)

def memberSigns (first : Bool) : List (List Letter × Tree) → List Sign
  | [] => []
  | (ls, t) :: rest => between first ++ .name ls :: .colon :: (t.signs ++ memberSigns false rest)

end

mutual

def Tree.value : Tree → Value
  | .literal l => l.value
  | .text ls => .text (content ls)
  | .array items => .list (itemValues items)
  | .object members => .map (memberValues members)

def itemValues : List Tree → List Value
  | [] => []
  | t :: rest => t.value :: itemValues rest

def memberValues : List (List Letter × Tree) → List (Value × Value)
  | [] => []
  | (ls, t) :: rest => (.text (content ls), t.value) :: memberValues rest

end

mutual

def Tree.Distinct : Tree → Prop
  | .literal _ => True
  | .text _ => True
  | .array items => ItemsDistinct items
  | .object members =>
    (members.map fun m => content m.1).Pairwise (· ≠ ·) ∧ MembersDistinct members

def ItemsDistinct : List Tree → Prop
  | [] => True
  | t :: rest => t.Distinct ∧ ItemsDistinct rest

def MembersDistinct : List (List Letter × Tree) → Prop
  | [] => True
  | (_, t) :: rest => t.Distinct ∧ MembersDistinct rest

end

def laid (signs : List (Sign × List Char)) : List Char :=
  signs.flatMap fun p => p.1.spelling ++ p.2

structure Document where
  members : List (List Letter × Tree)
  lead : List Char
  signs : List (Sign × List Char)
  spelled : signs.map (·.1) = (Tree.object members).signs
  blank : ∀ b ∈ lead :: signs.map (·.2), ∀ c ∈ b, isBlank c = true

namespace Document

def text (d : Document) : String := String.ofList (d.lead ++ laid d.signs)

def entries (d : Document) : List (Value × Value) := memberValues d.members

def Distinct (d : Document) : Prop := (Tree.object d.members).Distinct

end Document

end CiWorkflow.Json
