set_option autoImplicit false

namespace CiWorkflow.Text

def commonLength : List Char → List Char → Nat
  | a :: as, b :: bs => if a == b then commonLength as bs + 1 else 0
  | _, _ => 0

structure Piece where
  left : Nat
  right : Nat
  size : Nat
  deriving DecidableEq, Repr

def longestPiece (a b : List Char) : Piece :=
  let starts := (List.range a.length).flatMap fun i => (List.range b.length).map fun j => (i, j)
  starts.foldl (fun best p =>
    let n := commonLength (a.drop p.1) (b.drop p.2)
    if best.size < n then ⟨p.1, p.2, n⟩ else best) ⟨0, 0, 0⟩

/-- Characters in the longest common piece, and likewise in what lies before and after it. -/
def matchedWithin : (fuel : Nat) → List Char → List Char → Nat
  | 0, _, _ => 0
  | fuel + 1, a, b =>
    let p := longestPiece a b
    if p.size == 0 then 0
    else p.size + matchedWithin fuel (a.take p.left) (b.take p.right)
      + matchedWithin fuel (a.drop (p.left + p.size)) (b.drop (p.right + p.size))

structure Share where
  matched : Nat
  total : Nat
  deriving DecidableEq, Repr

/-- Texts of very different lengths are not looked at. -/
def share (a b : List Char) : Share :=
  let total := a.length + b.length
  if 10 * min a.length b.length < 3 * total then ⟨0, total⟩
  else ⟨2 * matchedWithin a.length a b, total⟩

def Share.isHigh (s : Share) : Bool := 3 * s.total ≤ 5 * s.matched

def Share.le (s t : Share) : Bool := s.matched * t.total ≤ t.matched * s.total

/-- The three most similar texts at most, in order of the alphabet. -/
def similarTexts (word : String) (known : List String) : List String :=
  let scored := known.map fun k => (share k.toList word.toList, k)
  let better (p q : Share × String) : Bool :=
    if p.1.le q.1 && q.1.le p.1 then decide (q.2 ≤ p.2) else q.1.le p.1
  let best := ((scored.filter fun p => p.1.isHigh).mergeSort better).take 3
  (best.map Prod.snd).mergeSort fun a b => decide (a ≤ b)

end CiWorkflow.Text
