import CiWorkflow.Proofs.Text.Trim
import CiWorkflow.Text.Terminal
import CiWorkflow.Text.Width

set_option autoImplicit false

namespace CiWorkflow.Text

def isPrinted (c : Char) : Bool := ' ' ≤ c && c ≤ '~'

def IsPrinted (cs : List Char) : Prop := ∀ c ∈ cs, isPrinted c = true

instance (cs : List Char) : Decidable (IsPrinted cs) :=
  decidable_of_iff (cs.all isPrinted = true) List.all_eq_true

/-- Printable ASCII with no white space at either end, and not nothing. -/
structure IsNeat (cs : List Char) : Prop where
  nonempty : cs ≠ []
  printed : IsPrinted cs
  bare : IsBare cs

instance (cs : List Char) : Decidable (IsNeat cs) :=
  decidable_of_iff (cs ≠ [] ∧ IsPrinted cs ∧ IsBare cs)
    ⟨fun ⟨nonempty, printed, bare⟩ => ⟨nonempty, printed, bare⟩,
      fun ⟨nonempty, printed, bare⟩ => ⟨nonempty, printed, bare⟩⟩

/-- Printable ASCII but the blank. -/
def isSolid (c : Char) : Bool := '!' ≤ c && c ≤ '~'

section
variable {c d : Char} {cs ds : List Char}

theorem toNat_of_printed (h : isPrinted c = true) : 32 ≤ c.toNat ∧ c.toNat < 127 := by
  obtain ⟨low, high⟩ := Bool.and_eq_true_iff.1 h
  exact ⟨of_decide_eq_true low, Nat.lt_succ_of_le (of_decide_eq_true high)⟩

theorem isBlank_of_printed (h : isPrinted c = true) : isBlank c = true ↔ c = ' ' := by
  obtain ⟨low, high⟩ := toNat_of_printed h
  constructor
  · intro blank
    refine Char.toNat_inj.1 ?_
    simp only [isBlank, inRanges, blankRanges, List.any_cons, List.any_nil, Bool.or_false,
      Bool.or_eq_true, Bool.and_eq_true, decide_eq_true_eq] at blank
    have space : ' '.toNat = 32 := rfl
    omega
  · rintro rfl
    decide

theorem isPrinted_of_solid (h : isSolid c = true) : isPrinted c = true ∧ isBlank c = false := by
  obtain ⟨low, high⟩ := Bool.and_eq_true_iff.1 h
  have low : 33 ≤ c.toNat := of_decide_eq_true low
  have low' : 32 ≤ c.toNat := by omega
  have printed : isPrinted c = true := Bool.and_eq_true_iff.2 ⟨decide_eq_true low', high⟩
  refine ⟨printed, Bool.eq_false_iff.2 fun blank => ?_⟩
  rw [(isBlank_of_printed printed).1 blank] at low
  exact absurd low (by decide)

theorem isNeat_of_solid (nonempty : cs ≠ []) (h : ∀ c ∈ cs, isSolid c = true) : IsNeat cs where
  nonempty := nonempty
  printed c hc := (isPrinted_of_solid (h c hc)).1
  bare := ⟨fun c hc => (isPrinted_of_solid (h c (List.mem_of_mem_head? hc))).2,
    fun c hc => (isPrinted_of_solid (h c (List.mem_of_mem_getLast? hc))).2⟩

theorem ne_of_printed (h : isPrinted c = true) (other : isPrinted d = false) : c ≠ d := by
  rintro rfl
  exact absurd h (by rw [other]; decide)

theorem IsPrinted.not_mem (h : IsPrinted cs) (other : isPrinted d = false) : d ∉ cs :=
  fun hd => ne_of_printed (h d hd) other rfl

theorem isPrinted_append : IsPrinted (cs ++ ds) ↔ IsPrinted cs ∧ IsPrinted ds :=
  List.forall_mem_append

theorem isPrinted_blanks (n : Nat) : IsPrinted (List.replicate n ' ') := by
  intro c hc
  rw [List.eq_of_mem_replicate hc]
  decide

theorem visible_of_printed (h : IsPrinted cs) : visible cs = cs :=
  visible_of_no_escape (h.not_mem (by decide))

/-- No range that begins after ASCII takes a printed character in. -/
theorem inRanges_of_printed {rs : List (Nat × Nat)} (beyond : rs.all fun r => 127 ≤ r.1)
    (h : isPrinted c = true) : inRanges rs c.toNat = false := by
  refine List.any_eq_false.2 fun r hr within => ?_
  have low : 127 ≤ r.1 := of_decide_eq_true (List.all_eq_true.1 beyond r hr)
  have low' : r.1 ≤ c.toNat := of_decide_eq_true (Bool.and_eq_true_iff.1 within).1
  exact absurd (toNat_of_printed h).2 (Nat.not_lt.2 (low.trans low'))

theorem columns?_of_printed (h : isPrinted c = true) : columns? c = some 1 := by
  obtain ⟨low, high⟩ := toNat_of_printed h
  have zero : c.toNat ≠ 0 := by omega
  have control : ¬ (c.toNat < 0x20 ∨ 0x7F ≤ c.toNat ∧ c.toNat < 0xA0) := by omega
  simp [columns?, zero, control, high]

/-- A printed character takes one column, whatever stands before it. -/
theorem Measure.step?_of_printed (h : isPrinted c = true) (m : Measure) :
    m.step? c = some ({ m with flagLetters := 0 }.add c 1) := by
  have letter : isFlagLetter c = false := inRanges_of_printed (by decide) h
  have tone : isSkinTone c = false := inRanges_of_printed (by decide) h
  have consonant : inRanges consonantRanges c.toNat = false :=
    inRanges_of_printed (by decide) h
  have wide : (c == '\ufe0f') = false := by simpa using ne_of_printed h (by decide)
  have narrow : (c == '\ufe0e') = false := by simpa using ne_of_printed h (by decide)
  simp [step?, letter, tone, consonant, wide, narrow, columns?_of_printed h]

theorem measure_of_printed (h : IsPrinted cs) {m : Measure} (settled : m.owes = false) :
    measure m cs = some (m.columns + cs.length) := by
  induction cs generalizing m with
  | nil => simp [measure, settled]
  | cons c cs ih =>
    obtain ⟨first, others⟩ := List.forall_mem_cons.1 h
    have other : (c == joiner) = false := by simpa using ne_of_printed first (by decide)
    rw [measure.eq_def]
    simp only [other, Bool.false_eq_true, if_false, Measure.step?_of_printed first,
      Option.bind_some]
    rw [ih others rfl]
    simp only [Measure.add, settled, Bool.false_eq_true, if_false, List.length_cons]
    congr 1
    omega

theorem width?_of_printed (h : IsPrinted cs) : width? cs = some (cs.length : Int) := by
  rw [width?, measure_of_printed h rfl]
  exact congrArg some (Int.zero_add _)

end

end CiWorkflow.Text
