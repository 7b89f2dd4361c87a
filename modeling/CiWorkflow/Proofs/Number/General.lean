import CiWorkflow.Number.Render
import CiWorkflow.Proofs.Text.Printed
import CiWorkflow.Text.Lines
import Mathlib.Algebra.Group.Nat.Defs

/-! Numbers in six significant digits, as texts: never empty and without white space, and not with
a zero at the end that stands for nothing. -/

set_option autoImplicit false

namespace CiWorkflow.Number

open Text

theorem isDigit_of_mem_digitChars {n : Nat} {c : Char} (h : c ∈ digitChars n) :
    c.isDigit = true := Nat.isDigit_of_mem_toDigits (by decide) (by decide) h

/-- A text of characters with a sign, a point or an exponent's mark among the digits. -/
def IsNumeral (cs : List Char) : Prop := cs ≠ [] ∧ ∀ c ∈ cs, isSolid c = true

instance (cs : List Char) : Decidable (IsNumeral cs) :=
  decidable_of_iff (cs ≠ [] ∧ cs.all isSolid = true) (and_congr_right fun _ => List.all_eq_true)

section
variable {ds : List Char} {n : Nat}

theorem isSolid_of_isDigit {c : Char} (h : c.isDigit = true) : isSolid c = true := by
  obtain ⟨low, high⟩ := Bool.and_eq_true_iff.1 h
  have low : 48 ≤ c.toNat := of_decide_eq_true low
  have high : c.toNat ≤ 57 := of_decide_eq_true high
  refine Bool.and_eq_true_iff.2 ⟨decide_eq_true ?_, decide_eq_true ?_⟩
  · exact (show 33 ≤ c.toNat by omega)
  · exact (show c.toNat ≤ 126 by omega)

theorem isNumeral_digitChars (n : Nat) : IsNumeral (digitChars n) :=
  ⟨Nat.toDigits_ne_nil, fun _ hc => isSolid_of_isDigit (isDigit_of_mem_digitChars hc)⟩

theorem solid_zeros (n : Nat) : ∀ c ∈ zeros n, isSolid c = true := by
  intro c hc
  rw [List.eq_of_mem_replicate hc]
  decide

theorem IsNumeral.cons {c : Char} (hc : isSolid c = true) (h : ∀ d ∈ ds, isSolid d = true) :
    IsNumeral (c :: ds) :=
  ⟨List.cons_ne_nil _ _, List.forall_mem_cons.2 ⟨hc, h⟩⟩

theorem isNumeral_exponentChars (e : Int) : IsNumeral (exponentChars e) := by
  refine .cons (by decide) (List.forall_mem_cons.2 ⟨?_, ?_⟩)
  · split <;> decide
  · exact List.forall_mem_append.2 ⟨solid_zeros _, (isNumeral_digitChars _).2⟩

theorem IsNumeral.positional (h : IsNumeral ds) (point : Int) :
    IsNumeral (positional ds point []) := by
  obtain ⟨some, solid⟩ := h
  rw [Number.positional]
  split
  · refine .cons (by decide) (List.forall_mem_cons.2 ⟨by decide, ?_⟩)
    exact List.forall_mem_append.2 ⟨solid_zeros _, solid⟩
  · dsimp only
    split
    · rw [List.append_nil]
      exact ⟨List.append_ne_nil_of_left_ne_nil some _,
        List.forall_mem_append.2 ⟨solid, solid_zeros _⟩⟩
    · refine ⟨List.append_ne_nil_of_right_ne_nil _ (List.cons_ne_nil _ _), ?_⟩
      refine List.forall_mem_append.2 ⟨fun c hc => solid c (List.mem_of_mem_take hc),
        List.forall_mem_cons.2 ⟨by decide, fun c hc => solid c (List.mem_of_mem_drop hc)⟩⟩

theorem IsNumeral.scientific (h : IsNumeral ds) (e : Int) : IsNumeral (scientific ds e) := by
  obtain ⟨some, solid⟩ := h
  have exponent := (isNumeral_exponentChars e).2
  match ds, some with
  | [d], _ => exact .cons (solid d List.mem_cons_self) exponent
  | d :: d' :: rest, _ =>
    obtain ⟨first, others⟩ := List.forall_mem_cons.1 solid
    exact .cons first (List.forall_mem_cons.2 ⟨by decide,
      List.forall_mem_append.2 ⟨others, exponent⟩⟩)

theorem IsNumeral.signed (h : IsNumeral ds) (negative : Bool) : IsNumeral (signed negative ds) := by
  rw [Number.signed]
  split
  · exact .cons (by decide) h.2
  · exact h

theorem isNumeral_general (x : Float) : IsNumeral (general x).toList := by
  rw [general]
  split
  · decide
  · rw [String.toList_ofList]
    exact IsNumeral.signed (by decide) _
  · rw [String.toList_ofList]
    refine IsNumeral.signed ?_ _
    split
    · decide
    · dsimp only
      split
      · exact (isNumeral_digitChars _).positional _
      · exact (isNumeral_digitChars _).scientific _

theorem isNeat_general (x : Float) : IsNeat (general x).toList :=
  isNeat_of_solid (isNumeral_general x).1 (isNumeral_general x).2

theorem ne_point_of_isDigit {c : Char} (h : c.isDigit = true) : (c == '.') = false := by
  refine beq_eq_false_iff_ne.2 ?_
  rintro rfl
  exact absurd h (by decide)

/-- The digits and the place of the point can be read off, unless there is nothing before it. -/
theorem eq_of_positional {whole fraction : List Char} {point : Int}
    (hds : ∀ c ∈ ds, c.isDigit = true) (digits : ∀ c ∈ whole ++ fraction, c.isDigit = true)
    (some : whole ≠ ['0']) (h : positional ds point [] = whole ++ '.' :: fraction) :
    ds = whole ++ fraction ∧ point = whole.length := by
  obtain ⟨before, after⟩ := List.forall_mem_append.1 digits
  have pointless {cs : List Char} (hcs : ∀ c ∈ cs, c.isDigit = true) (c) (hc : c ∈ cs) :
      (c == '.') = false := ne_point_of_isDigit (hcs c hc)
  have cut : splitAt (· == '.') (whole ++ '.' :: fraction) = [whole, fraction] := by
    rw [splitAt_ended (pointless before) (by decide), splitAt_of_none (pointless after)]
  rw [← h, positional] at cut
  split at cut
  · have first : splitAt (· == '.') (['0'] ++ '.' :: (zeros (-point).toNat ++ ds)) =
        ['0'] :: _ := splitAt_ended (List.forall_mem_singleton.2 (by decide)) (by decide) _
    rw [List.singleton_append, cut] at first
    exact absurd (List.cons.inj first).1 some
  · dsimp only at cut
    split at cut
    · rw [List.append_nil, splitAt_of_none] at cut
      · cases cut
      · refine pointless (List.forall_mem_append.2 ⟨hds, fun c hc => ?_⟩)
        rw [List.eq_of_mem_replicate hc]
        decide
    · rw [splitAt_ended (pointless fun c hc => hds c (List.mem_of_mem_take hc)) (by decide),
        splitAt_of_none (pointless fun c hc => hds c (List.mem_of_mem_drop hc))] at cut
      obtain ⟨first, others⟩ := List.cons.inj cut
      obtain ⟨second, -⟩ := List.cons.inj others
      rw [← first, ← second, List.length_take]
      exact ⟨(List.take_append_drop _ _).symm, by omega⟩

theorem mem_scientific (some : ds ≠ []) (e : Int) : 'e' ∈ scientific ds e := by
  match ds, some with
  | [d], _ => exact List.mem_cons_of_mem d List.mem_cons_self
  | d :: d' :: rest, _ =>
    refine List.mem_cons_of_mem d (List.mem_cons_of_mem _ ?_)
    exact List.mem_append_right _ List.mem_cons_self

end

theorem eq_of_stripZeros {steps : Nat} {d : Decimal} (some : (stripZeros steps d).digits ≠ 0)
    (zero : (stripZeros steps d).digits % 10 = 0) :
    d = ⟨(stripZeros steps d).digits * 10 ^ steps, (stripZeros steps d).expo - steps⟩ := by
  induction steps generalizing d with
  | zero => simp [stripZeros]
  | succ steps ih =>
    rw [stripZeros] at some zero ⊢
    split at some
    · next more =>
      rw [if_pos more] at zero
      rw [if_pos more]
      have rest := ih some zero
      obtain ⟨-, tens⟩ : d.digits ≠ 0 ∧ d.digits % 10 = 0 := by simpa using more
      have digits := congrArg Decimal.digits rest
      have expo := congrArg Decimal.expo rest
      dsimp only at digits expo
      refine Decimal.mk.injEq .. ▸ ⟨?_, ?_⟩
      · rw [Nat.pow_succ, ← Nat.mul_assoc, ← digits]
        omega
      · omega
    · next done =>
      rw [if_neg done] at zero
      exact absurd (by simpa using ⟨some, zero⟩) done

theorem le_scaleFrom (x : Dyadic) (steps : Nat) (k : Int) : k ≤ scaleFrom x steps k := by
  induction steps generalizing k with
  | zero => exact Int.le_refl k
  | succ steps ih =>
    rw [scaleFrom]
    split
    · exact Int.le_refl k
    · exact Int.le_trans (Int.le_of_lt (Int.lt_succ k)) (ih (k + 1))

theorem mant_lt_of_scale {m : Dyadic} (h : m.scale = -16) :
    m.expo < 0 ∧ m.mant < 2 ^ (-m.expo).toNat := by
  have scale : ((m.expo + m.mant.log2) * 30103 / 100000 - 2 : Int) ≤ m.scale :=
    le_scaleFrom m 8 _
  have small : m.mant.log2 + 1 ≤ (-m.expo).toNat := by omega
  refine ⟨by omega, Nat.lt_log2_self.trans_le ?_⟩
  exact Nat.pow_le_pow_right (by decide) small

theorem roundDiv_le (num den : Nat) : roundDiv num den ≤ num / den + 1 := by
  rw [roundDiv]
  split
  · omega
  · omega
  · split <;> omega

/-- The six digits of a number with the digits `110` before `10 ^ -2` are no more than these. -/
theorem stripZeros_ne {m : Dyadic} {d : Decimal}
    (stripped : stripZeros 20 ⟨roundDiv (ratio m.mant m.expo (-(m.scale - 6))).1
      (ratio m.mant m.expo (-(m.scale - 6))).2, m.scale - 6⟩ = d)
    (digits : d.digits = 110) : d.expo ≠ -2 := by
  intro point
  have whole := eq_of_stripZeros (by rw [stripped, digits]; decide)
    (by rw [stripped, digits])
  rw [stripped, digits, point] at whole
  obtain ⟨rounded, grid⟩ := Decimal.mk.inj whole
  have scale : m.scale = -16 := by omega
  obtain ⟨expo, mant⟩ := mant_lt_of_scale scale
  have parts : ratio m.mant m.expo (-(m.scale - 6)) =
      (m.mant * 10 ^ 22, 2 ^ (-m.expo).toNat) := by
    rw [scale, ratio, Int.toNat_of_nonpos (Int.le_of_lt expo)]
    simp
  -- A number below one has a quotient of no more than `10 ^ 22`, which is less than it should be.
  have most : m.mant * 10 ^ 22 / 2 ^ (-m.expo).toNat ≤ 10 ^ 22 :=
    Nat.div_le_of_le_mul (Nat.mul_le_mul_right _ (Nat.le_of_lt mant))
  have bound := roundDiv_le (m.mant * 10 ^ 22) (2 ^ (-m.expo).toNat)
  rw [parts] at rounded
  have rounded : roundDiv (m.mant * 10 ^ 22) (2 ^ (-m.expo).toNat) = 110 * 10 ^ 20 := rounded
  omega

/-- No number is shown with a zero behind its digits that stands for nothing. -/
theorem general_ne (x : Float) : general x ≠ "1.10" := by
  intro shown
  have chars := congrArg String.toList shown
  rw [general] at chars
  split at chars
  · exact absurd chars (by decide)
  · rename_i negative _
    cases negative <;> exact absurd chars (by decide)
  · rename_i negative m _
    rw [String.toList_ofList] at chars
    cases negative with
    | true => exact absurd (List.cons.inj chars).1 (by decide)
    | false =>
      rw [signed, if_neg Bool.false_ne_true] at chars
      split at chars
      · exact absurd chars (by decide)
      · dsimp only at chars
        split at chars
        -- Only here can the digits and the point be read off; the other forms have other marks.
        · have chars : positional _ _ [] = ['1'] ++ '.' :: ['1', '0'] := chars
          obtain ⟨ds, point⟩ := eq_of_positional (fun c => isDigit_of_mem_digitChars)
            (List.all_eq_true.1 (by decide)) (by decide) chars
          have digits := congrArg (Nat.ofDigitChars 10 · 0) ds
          simp only [digitChars, Nat.ofDigitChars_ten_toDigits] at digits
          simp only [ds, List.length_append, List.length_cons, List.length_nil] at point
          exact stripZeros_ne (m := m) rfl digits (by omega)
        · have mark := chars ▸ mem_scientific Nat.toDigits_ne_nil _
          exact absurd mark (by decide)

end CiWorkflow.Number
