set_option autoImplicit false

namespace CiWorkflow.Number

structure Dyadic where
  mant : Nat
  expo : Int
  /-- The gap to the value below is half the gap to the value above. -/
  narrowBelow : Bool
  deriving DecidableEq, Repr

inductive Binary where
  | nan
  | infinite (negative : Bool)
  | finite (negative : Bool) (magnitude : Dyadic)
  deriving DecidableEq, Repr

def Binary.ofFloat (x : Float) : Binary :=
  let bits : Nat := x.toBits.toNat
  let negative := bits >>> 63 == 1
  let field : Nat := bits >>> 52 % 2048
  let fraction : Nat := bits % (1 <<< 52)
  if field == 2047 then
    if fraction == 0 then .infinite negative else .nan
  else if field == 0 then .finite negative ⟨fraction, -1074, false⟩
  else .finite negative ⟨1 <<< 52 + fraction, Int.ofNat field - 1075, fraction == 0 && 1 < field⟩

/-- A numerator and a denominator of `n · 2 ^ i · 10 ^ j`. -/
def ratio (n : Nat) (i j : Int) : Nat × Nat :=
  (n * Nat.pow 2 i.toNat * Nat.pow 10 j.toNat, Nat.pow 2 (-i).toNat * Nat.pow 10 (-j).toNat)

/-- Compares `a · 10 ^ i` with `n · 2 ^ j`. -/
def compareScaled (a : Nat) (i : Int) (n : Nat) (j : Int) : Ordering :=
  let left := ratio a 0 i
  let right := ratio n j 0
  compare (left.1 * right.2) (right.1 * left.2)

def Binary.toInt? : Binary → Option Int
  | .finite negative d =>
    let (num, den) := ratio d.mant d.expo 0
    if num % den == 0 then
      let n : Int := (num / den : Nat)
      some (if negative then -n else n)
    else none
  | _ => none

end CiWorkflow.Number
