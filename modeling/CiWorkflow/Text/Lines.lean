import CiWorkflow.Text.Class

set_option autoImplicit false

namespace CiWorkflow.Text

/-- What ends a line: feeds, separators, and returns, with U+0085, U+2028 and U+2029. -/
def isLineEnd (c : Char) : Bool :=
  inRanges [(0x0A, 0x0D), (0x1C, 0x1E), (0x85, 0x85), (0x2028, 0x2029)] c.toNat

/-- The pieces between the characters that are marked by `p`. -/
def splitAt (p : Char → Bool) : List Char → List (List Char)
  | [] => [[]]
  | c :: r =>
    if p c then [] :: splitAt p r
    else match splitAt p r with
      | piece :: rest => (c :: piece) :: rest
      | [] => [[c]]

section
variable {p : Char → Bool} {cs : List Char}

theorem splitAt_of_none (h : ∀ c ∈ cs, p c = false) : splitAt p cs = [cs] := by
  induction cs with
  | nil => rfl
  | cons c cs ih =>
    have first := h c List.mem_cons_self
    have more := ih fun x hx => h x (List.mem_cons_of_mem _ hx)
    simp [splitAt, first, more]

theorem splitAt_ne_nil (cs : List Char) : splitAt p cs ≠ [] := by
  cases cs with
  | nil => exact List.cons_ne_nil _ _
  | cons c cs =>
    rw [splitAt]
    repeat' split
    all_goals exact List.cons_ne_nil _ _

theorem splitAt_append {d : Char} (hd : p d) (cs rest : List Char) :
    splitAt p (cs ++ d :: rest) = splitAt p cs ++ splitAt p rest := by
  induction cs with
  | nil => simp [splitAt, hd]
  | cons c cs ih =>
    rw [List.cons_append, splitAt, splitAt, ih]
    obtain ⟨piece, more, cut⟩ := List.exists_cons_of_ne_nil (splitAt_ne_nil (p := p) cs)
    rw [cut]
    cases p c <;> rfl

theorem splitAt_ended (h : ∀ c ∈ cs, p c = false) {d : Char} (hd : p d) (rest : List Char) :
    splitAt p (cs ++ d :: rest) = cs :: splitAt p rest := by
  rw [splitAt_append hd, splitAt_of_none h]
  rfl

end

def unifyReturns : List Char → List Char
  | '\r' :: '\n' :: r => '\n' :: unifyReturns r
  | c :: r => c :: unifyReturns r
  | [] => []

/-- The lines of a text. An end at the very end begins no further line. -/
def lines (cs : List Char) : List (List Char) :=
  let pieces := splitAt isLineEnd (unifyReturns cs)
  if pieces.getLast? == some [] then pieces.dropLast else pieces

end CiWorkflow.Text
