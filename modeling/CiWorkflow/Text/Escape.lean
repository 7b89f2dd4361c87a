import CiWorkflow.Text.Quoted

/-! Characters that a text names by their numbers. Half of a surrogate pair may be named by itself,
and as it is no character, one for private use is read in its place. -/

set_option autoImplicit false

namespace CiWorkflow

class Half where
  char : Nat → Char

/-- A character for private use. The last two planes have one for each half. -/
@[irreducible] def privateChar (plane n : Nat) : Char := Char.ofNat (plane * 0x10000 + 0x1800 + n)

instance Half.standIn : Half := ⟨privateChar 16⟩

/-- Other characters. Where they make a difference, there is half of a pair. -/
@[reducible] def Half.other : Half := ⟨privateChar 15⟩

theorem Half.le_standIn {n : Nat} (first : 0xD800 ≤ n) (last : n < 0xE000) :
    0x10F000 ≤ (Half.standIn.char n).toNat := by
  have valid : (16 * 0x10000 + 0x1800 + n).isValidChar := .inr (by omega)
  change 0x10F000 ≤ (privateChar 16 n).toNat
  rw [privateChar, Char.ofNat, dif_pos valid]
  change 0x10F000 ≤ 16 * 0x10000 + 0x1800 + n
  omega

namespace Text

def hexValue? (c : Char) : Option Nat :=
  if c.isDigit then some (c.toNat - 48)
  else if 'a' ≤ c ∧ c ≤ 'f' then some (c.toNat - 87)
  else if 'A' ≤ c ∧ c ≤ 'F' then some (c.toNat - 55)
  else none

theorem lt_of_hexValue? {c : Char} {n : Nat} (h : hexValue? c = some n) : n < 16 := by
  have codes {a b : Char} (h : a ≤ c ∧ c ≤ b) : a.toNat ≤ c.toNat ∧ c.toNat ≤ b.toNat := h
  have digit (h : c.isDigit = true) : 48 ≤ c.toNat ∧ c.toNat ≤ 57 := by
    simpa [Char.isDigit, UInt32.le_iff_toNat_le] using h
  have small (h : 'a' ≤ c ∧ c ≤ 'f') : 97 ≤ c.toNat ∧ c.toNat ≤ 102 := codes h
  have large (h : 'A' ≤ c ∧ c ≤ 'F') : 65 ≤ c.toNat ∧ c.toNat ≤ 70 := codes h
  unfold hexValue? at h
  split at h
  · grind
  split at h
  · grind
  split at h
  · grind
  · cases h

def isFirstHalf (n : Nat) : Bool := 0xD800 ≤ n && n < 0xDC00

def isSecondHalf (n : Nat) : Bool := 0xDC00 ≤ n && n < 0xE000

def charOfCode [Half] (n : Nat) : Char :=
  if isFirstHalf n || isSecondHalf n then Half.char n else Char.ofNat n

theorem charOfCode_toNat [Half] (c : Char) : charOfCode c.toNat = c := by
  have valid : c.toNat < 0xD800 ∨ (0xDFFF < c.toNat ∧ c.toNat < 0x110000) := c.valid
  have whole : (isFirstHalf c.toNat || isSecondHalf c.toNat) = false := by
    simp only [isFirstHalf, isSecondHalf, Bool.or_eq_false_iff, Bool.and_eq_false_iff,
      decide_eq_false_iff_not]
    omega
  rw [charOfCode, whole, if_neg Bool.false_ne_true, Char.ofNat_toNat]

theorem isFirstHalf_of_isSecondHalf {n : Nat} (h : isSecondHalf n = true) :
    isFirstHalf n = false := by
  simp only [isSecondHalf, Bool.and_eq_true, decide_eq_true_eq] at h
  simp only [isFirstHalf, Bool.and_eq_false_iff, decide_eq_false_iff_not]
  omega

def pairChar? (first second : Nat) : Option Char :=
  if isFirstHalf first && isSecondHalf second then
    some (Char.ofNat (first * 0x400 + second - 0x35FDC00))
  else none

theorem halves_of_pairChar? {first second : Nat} {c : Char} (h : pairChar? first second = some c) :
    isFirstHalf first = true ∧ isSecondHalf second = true ∧ 0x10000 ≤ c.toNat := by
  rw [pairChar?] at h
  split at h
  · rename_i halves
    rw [Bool.and_eq_true] at halves
    refine ⟨halves.1, halves.2, ?_⟩
    simp only [isFirstHalf, isSecondHalf, Bool.and_eq_true, decide_eq_true_eq] at halves
    have valid : (first * 0x400 + second - 0x35FDC00).isValidChar := .inr (by omega)
    obtain rfl := Option.some.inj h
    rw [Char.ofNat, dif_pos valid]
    change 0x10000 ≤ first * 0x400 + second - 0x35FDC00
    omega
  · cases h

/-- Halves of surrogate pairs that stand together in a text. No bytes stand for them. -/
structure Tear where
  position : Nat
  halves : List Nat
  deriving DecidableEq, Repr

/-- The first halves of pairs in a text, given the same text with the other characters for them. -/
def tear? (cs other : List Char) : Option Tear :=
  let pairs := cs.zip other
  let whole := pairs.takeWhile fun p => p.1 == p.2
  let torn := (pairs.drop whole.length).takeWhile fun p => p.1 != p.2
  if torn.isEmpty then none
  else some ⟨whole.length, torn.map fun p => p.1.toNat - 0x101800⟩

/-- Where other characters make no difference, there is no half of a pair. -/
theorem tear?_self (cs : List Char) : tear? cs cs = none := by
  have whole : (cs.zip cs).takeWhile (fun p => p.1 == p.2) = cs.zip cs := by
    induction cs with
    | nil => rfl
    | cons c cs ih => simp [ih]
  simp only [tear?, whole, List.drop_length]
  rfl

def Tear.message (t : Tear) : String :=
  let place := match t.halves with
    | [n] => "character '\\u" ++ String.ofList (hex 4 n) ++ "' in position " ++ toString t.position
    | halves => "characters in position " ++ toString t.position ++ "-"
      ++ toString (t.position + halves.length - 1)
  "'utf-8' codec can't encode " ++ place ++ ": surrogates not allowed"

end Text

end CiWorkflow
