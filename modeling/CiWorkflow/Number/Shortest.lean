import CiWorkflow.Number.Dyadic

set_option autoImplicit false

namespace CiWorkflow.Number

structure Decimal where
  digits : Nat
  expo : Int
  deriving DecidableEq, Repr

/-- The decimal lies among the reals that round to `x`: from halfway to the neighbour below to
halfway to the neighbour above, the ends belonging to the even mantissa. -/
def Dyadic.holds (x : Dyadic) (d : Decimal) : Bool :=
  let low := if x.narrowBelow then 4 * x.mant - 1 else 4 * x.mant - 2
  let even := x.mant % 2 == 0
  let below := compareScaled d.digits d.expo low (x.expo - 2)
  let above := compareScaled d.digits d.expo (4 * x.mant + 2) (x.expo - 2)
  (below == .gt || (even && below == .eq)) && (above == .lt || (even && above == .eq))

/-- The least `k` with `x < 10 ^ k`, found by walking up from a lower bound. -/
def scaleFrom (x : Dyadic) : Nat → Int → Int
  | 0, k => k
  | steps + 1, k => if compareScaled 1 k x.mant x.expo == .gt then k else scaleFrom x steps (k + 1)

def Dyadic.scale (x : Dyadic) : Int :=
  let bits : Int := x.expo + x.mant.log2
  scaleFrom x 8 (bits * 30103 / 100000 - 2)

/-- The neighbours of `x` on the grid of multiples of `10 ^ grid`, nearer one first; the even one
first if both are equally near. -/
def Dyadic.neighbours (x : Dyadic) (grid : Int) : List Decimal :=
  let (num, den) := ratio x.mant x.expo (-grid)
  let below := num / den
  let first := match compare (2 * (num % den)) den with
    | .lt => below
    | .gt => below + 1
    | .eq => if below % 2 == 0 then below else below + 1
  let second := if first == below then below + 1 else below
  [⟨first, grid⟩, ⟨second, grid⟩]

def stripZeros : Nat → Decimal → Decimal
  | 0, d => d
  | steps + 1, d =>
    if d.digits != 0 && d.digits % 10 == 0 then stripZeros steps ⟨d.digits / 10, d.expo + 1⟩ else d

/-- Tries one digit, then two, and so on up to seventeen, which always suffice. -/
def Dyadic.search (x : Dyadic) (top : Int) : Nat → Int → Option Decimal
  | 0, _ => none
  | more + 1, used =>
    match (x.neighbours (top - used)).find? x.holds with
    | some d => some d
    | none => x.search top more (used + 1)

def Dyadic.exact (x : Dyadic) : Decimal :=
  if x.expo < 0 then ⟨x.mant * Nat.pow 5 (-x.expo).toNat, x.expo⟩
  else ⟨x.mant * Nat.pow 2 x.expo.toNat, 0⟩

def Dyadic.shortest (x : Dyadic) : Decimal :=
  if x.mant == 0 then ⟨0, 0⟩
  else stripZeros 20 ((x.search x.scale 17 1).getD x.exact)

end CiWorkflow.Number
