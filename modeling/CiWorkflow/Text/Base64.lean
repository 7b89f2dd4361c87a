set_option autoImplicit false

namespace CiWorkflow.Text

def sextet? (c : Char) : Option Nat :=
  if 'A' ≤ c ∧ c ≤ 'Z' then some (c.toNat - 65)
  else if 'a' ≤ c ∧ c ≤ 'z' then some (c.toNat - 71)
  else if c.isDigit then some (c.toNat + 4)
  else if c == '+' then some 62
  else if c == '/' then some 63
  else none

/-- Reads on with `place` characters of a group of four taken, the bits `left` over from the last
one, and `pads` marks of padding in a row. The text ends where a group is complete, or padded. -/
def decodeBase64From : (place left pads : Nat) → List Char → Option (List UInt8)
  | place, _, _, [] => if place == 0 then some [] else none
  | place, left, pads, c :: r =>
    if c == '=' then
      if 2 ≤ place && 4 ≤ place + pads + 1 then some []
      else decodeBase64From place left (if 2 ≤ place then pads + 1 else pads) r
    else match sextet? c with
      | none => decodeBase64From place left pads r
      | some n =>
        match place with
        | 0 => decodeBase64From 1 n 0 r
        | 1 => (decodeBase64From 2 (n % 16) 0 r).map (UInt8.ofNat (left * 4 + n / 16) :: ·)
        | 2 => (decodeBase64From 3 (n % 4) 0 r).map (UInt8.ofNat (left * 16 + n / 4) :: ·)
        | _ => (decodeBase64From 0 0 0 r).map (UInt8.ofNat (left * 64 + n) :: ·)

def decodeBase64 (cs : List Char) : Option (List UInt8) := decodeBase64From 0 0 0 cs

end CiWorkflow.Text
