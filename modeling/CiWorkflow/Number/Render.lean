import CiWorkflow.Number.Shortest

set_option autoImplicit false

namespace CiWorkflow.Number

def digitChars (n : Nat) : List Char := Nat.toDigits 10 n

def zeros (n : Nat) : List Char := List.replicate n '0'

def exponentChars (e : Int) : List Char :=
  let ds := digitChars e.natAbs
  'e' :: (if e < 0 then '-' else '+') :: (zeros (2 - ds.length) ++ ds)

/-- Digits `ds` with the point after the first `point` of them, zeros filling any gap. -/
def positional (ds : List Char) (point : Int) (wholeTail : List Char) : List Char :=
  if point ≤ 0 then '0' :: '.' :: (zeros (-point).toNat ++ ds)
  else
    let k := point.toNat
    if ds.length ≤ k then ds ++ zeros (k - ds.length) ++ wholeTail
    else ds.take k ++ '.' :: ds.drop k

def scientific (ds : List Char) (e : Int) : List Char :=
  match ds with
  | [] => []
  | [d] => d :: exponentChars e
  | d :: rest => d :: '.' :: rest ++ exponentChars e

def signed (negative : Bool) (cs : List Char) : List Char :=
  if negative then '-' :: cs else cs

/-- The fewest digits that identify the value: positional from `0.0001` to below `10 ^ 16`, with a
point even in whole numbers, and otherwise with an exponent. -/
def full (x : Float) : String :=
  match Binary.ofFloat x with
  | .nan => "nan"
  | .infinite negative => String.ofList (signed negative "inf".toList)
  | .finite negative m =>
    let d := m.shortest
    let ds := digitChars d.digits
    let point := d.expo + ds.length
    String.ofList <| signed negative <|
      if m.mant == 0 then "0.0".toList
      else if -4 < point && point ≤ 16 then positional ds point ['.', '0']
      else scientific ds (point - 1)

/-- The quotient rounded to nearest, ties to even. -/
def roundDiv (num den : Nat) : Nat :=
  let q := num / den
  match compare (2 * (num % den)) den with
  | .lt => q
  | .gt => q + 1
  | .eq => if q % 2 == 0 then q else q + 1

/-- Six significant digits of the exact value, trailing zeros dropped: positional from `0.0001` to
below `10 ^ 6`, and otherwise with an exponent. -/
def general (x : Float) : String :=
  match Binary.ofFloat x with
  | .nan => "nan"
  | .infinite negative => String.ofList (signed negative "inf".toList)
  | .finite negative m =>
    String.ofList <| signed negative <|
      if m.mant == 0 then ['0']
      else
        let grid := m.scale - 6
        let (num, den) := ratio m.mant m.expo (-grid)
        let d := stripZeros 20 ⟨roundDiv num den, grid⟩
        let ds := digitChars d.digits
        let point := d.expo + ds.length
        if -4 < point && point ≤ 6 then positional ds point []
        else scientific ds (point - 1)

end CiWorkflow.Number
