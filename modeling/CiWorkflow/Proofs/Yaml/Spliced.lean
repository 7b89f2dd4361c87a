import CiWorkflow.Proofs.Yaml.Layout
import CiWorkflow.Text.Class
import CiWorkflow.Text.Printable
import CiWorkflow.Yaml.Meaning

set_option autoImplicit false

namespace CiWorkflow

namespace Text
variable {c : Char}

theorem not_mem_of_isPrintable (h : isPrintable c) {a b : Nat} (range : (a, b) ∈ hiddenRanges) :
    ¬ (0x80 ≤ c.toNat ∧ a ≤ c.toNat ∧ c.toNat ≤ b) := by
  rintro ⟨wide, low, high⟩
  rw [isPrintable, if_neg (by omega), Bool.not_eq_true'] at h
  have outside := List.any_eq_false.1 h (a, b) range
  simp [low, high] at outside

theorem isAllowed_of_isPrintable (h : isPrintable c) : Yaml.isAllowed c := by
  have first := not_mem_of_isPrintable h (a := 0x80) (b := 0xA0) (by decide +kernel)
  have last := not_mem_of_isPrintable h (a := 0xFFFE) (b := 0xFFFF) (by decide +kernel)
  have valid : c.toNat < 0xD800 ∨ 0xDFFF < c.toNat ∧ c.toNat < 0x110000 := c.valid
  by_cases ascii : c.toNat < 0x80
  · rw [isPrintable, if_pos ascii] at h
    simp [Yaml.isAllowed] at h ⊢
    omega
  · simp [Yaml.isAllowed]
    omega

theorem isInline_of_isPrintable (h : isPrintable c) : Yaml.IsInline c where
  line := by
    rw [Yaml.isBreak, Bool.eq_false_iff]
    simp only [ne_eq, Bool.or_eq_true, beq_iff_eq]
    rintro (((rfl | rfl) | rfl) | rfl) <;> exact absurd h (by decide +kernel)
  tab := by
    rintro rfl
    exact absurd h (by decide)
  wide := by
    rintro rfl
    exact absurd h (by decide +kernel)

/-- A printable text, not empty and without blanks at its ends. -/
structure IsTidy (cs : List Char) : Prop where
  nonempty : cs ≠ []
  printable : ∀ c ∈ cs, isPrintable c
  trimmed : trim cs = cs

instance (cs : List Char) : Decidable (IsTidy cs) :=
  let _ : Decidable (∀ c ∈ cs, isPrintable c) := List.decidableBAll _ _
  decidable_of_iff (cs ≠ [] ∧ (∀ c ∈ cs, isPrintable c) ∧ trim cs = cs)
    ⟨fun ⟨nonempty, printable, trimmed⟩ => ⟨nonempty, printable, trimmed⟩,
      fun ⟨nonempty, printable, trimmed⟩ => ⟨nonempty, printable, trimmed⟩⟩

theorem not_of_getLast?_dropWhile (p : Char → Bool) (cs : List Char) {d : Char}
    (h : (cs.reverse.dropWhile p).reverse.getLast? = some d) : p d = false := by
  rw [List.getLast?_reverse] at h
  have first := List.head?_dropWhile_not p cs.reverse
  rw [h] at first
  exact first

section Tidy
variable {cs : List Char} (h : IsTidy cs)
include h

theorem IsTidy.inline : ∀ c ∈ cs, Yaml.IsInline c :=
  fun c hc => isInline_of_isPrintable (h.printable c hc)

theorem IsTidy.head : cs.head? ≠ some ' ' := by
  intro first
  obtain ⟨r, rfl⟩ : ∃ r, cs = ' ' :: r := by
    cases cs with
    | nil => cases first
    | cons c r => exact ⟨r, by rw [Option.some.inj first]⟩
  have shorter : (trim (' ' :: r)).length ≤ r.length := by
    have start : trimStart (' ' :: r) = trimStart r := by
      rw [trimStart, List.dropWhile_cons_of_pos (by decide)]
      rfl
    rw [trim, start, trimEnd, List.length_reverse]
    refine Nat.le_trans (List.dropWhile_sublist _).length_le ?_
    rw [List.length_reverse]
    exact (List.dropWhile_sublist _).length_le
  rw [h.trimmed, List.length_cons] at shorter
  omega

theorem IsTidy.last : cs.getLast? ≠ some ' ' := by
  rw [← h.trimmed]
  intro last
  exact absurd (not_of_getLast?_dropWhile isBlank _ last) (by decide)

end Tidy

end Text

namespace Yaml

/-- A `#` behind a blank. -/
def hasComment : (previous : Option Char) → List Char → Bool
  | _, [] => false
  | previous, c :: r => (c == '#' && previous == some ' ') || hasComment (some c) r

def dropComment : (previous : Option Char) → List Char → List Char
  | _, [] => []
  | previous, c :: r =>
    if c == '#' && previous == some ' ' then [] else c :: dropComment (some c) r

/-- What is left of a plain scalar on its line: neither a comment nor the blanks in front of it. -/
def uncomment (cs : List Char) : List Char :=
  ((dropComment none cs).reverse.dropWhile (· == ' ')).reverse

theorem dropComment_of_hasComment {cs : List Char} (p : Option Char) (h : hasComment p cs = false) :
    dropComment p cs = cs := by
  induction cs generalizing p with
  | nil => rfl
  | cons c r ih =>
    obtain ⟨here, later⟩ := Bool.or_eq_false_iff.1 h
    rw [dropComment, here, ih _ later]
    rfl

theorem exists_comment {cs : List Char} (p : Option Char) (h : hasComment p cs) :
    ∃ z, cs = dropComment p cs ++ '#' :: z ∧
      (p.toList ++ dropComment p cs).getLast? = some ' ' := by
  induction cs generalizing p with
  | nil => cases h
  | cons c r ih =>
    rw [dropComment]
    split
    next here =>
      simp only [Bool.and_eq_true, beq_iff_eq] at here
      obtain ⟨rfl, rfl⟩ := here
      exact ⟨r, rfl, rfl⟩
    next here =>
      have later : hasComment (some c) r := (Bool.or_eq_true_iff.1 h).resolve_left here
      obtain ⟨z, text, last⟩ := ih _ later
      refine ⟨z, by rw [List.cons_append, ← text], ?_⟩
      cases p with
      | none => exact last
      | some q => exact last

theorem exists_spaces (cs : List Char) :
    ∃ n, cs = (cs.reverse.dropWhile (· == ' ')).reverse ++ spaces n := by
  let blanks := cs.reverse.takeWhile (· == ' ')
  have only : blanks.reverse = spaces blanks.length := by
    refine List.eq_replicate_iff.2 ⟨List.length_reverse, fun c hc => ?_⟩
    simpa using List.all_eq_true.1 List.all_takeWhile c (List.mem_reverse.1 hc)
  refine ⟨blanks.length, ?_⟩
  rw [← only, ← List.reverse_append, List.takeWhile_append_dropWhile, List.reverse_reverse]

theorem getLast?_uncomment (cs : List Char) : (uncomment cs).getLast? ≠ some ' ' := by
  intro last
  exact absurd (Text.not_of_getLast?_dropWhile (· == ' ') _ last) (by decide)

section Uncomment
variable {cs : List Char}

theorem uncomment_of_hasComment (last : cs.getLast? ≠ some ' ') (h : hasComment none cs = false) :
    uncomment cs = cs := by
  rw [uncomment, dropComment_of_hasComment none h]
  cases hr : cs.reverse with
  | nil => simpa using hr
  | cons c r =>
    have other : (c == ' ') = false := by
      rw [List.getLast?_eq_head?_reverse, hr] at last
      simpa using last
    rw [List.dropWhile_cons, other, if_neg (by decide), ← hr, List.reverse_reverse]

/-- What is cut off is a comment with the blanks in front of it. -/
theorem exists_remark (inline : ∀ c ∈ cs, IsInline c) (last : cs.getLast? ≠ some ' ') :
    ∃ remark, cs = uncomment cs ++ remark ∧ IsRemark remark ∧
      (remark = [] ↔ hasComment none cs = false) := by
  cases h : hasComment none cs with
  | false => exact ⟨[], by rw [uncomment_of_hasComment last h, List.append_nil], .nothing, by simp⟩
  | true =>
    obtain ⟨z, text, behind⟩ := exists_comment none h
    obtain ⟨n, blanks⟩ := exists_spaces (dropComment none cs)
    -- The comment has a blank in front of it, which is cut off as well.
    have some : n ≠ 0 := by
      rintro rfl
      rw [show spaces 0 = [] from rfl, List.append_nil] at blanks
      rw [Option.toList_none, List.nil_append, blanks] at behind
      exact getLast?_uncomment cs behind
    obtain ⟨m, rfl⟩ := Nat.exists_eq_succ_of_ne_zero some
    have rest (c : Char) (hc : c ∈ z) : IsInline c := inline c (by rw [text]; simp [hc])
    refine ⟨spaces (m + 1) ++ '#' :: z, ?_, .comment m rest, by simp⟩
    rw [uncomment, ← List.append_assoc, ← blanks]
    exact text

theorem uncomment_eq_iff (tidy : Text.IsTidy cs) :
    uncomment cs = cs ↔ hasComment none cs = false := by
  obtain ⟨remark, text, -, none⟩ := exists_remark tidy.inline tidy.last
  rw [← none]
  constructor
  · intro same
    rw [same] at text
    exact List.append_right_eq_self.1 text.symm
  · rintro rfl
    simpa using text.symm

end Uncomment

/-- A text that is read as itself, but for a comment, where it stands without quotes. -/
structure ReadsPlain (cs : List Char) : Prop where
  start : startsBadly (uncomment cs) = false
  mark : hasMark none (uncomment cs) = false
  str : Tag.ofPlain (uncomment cs) = .str

instance (cs : List Char) : Decidable (ReadsPlain cs) :=
  decidable_of_iff (startsBadly (uncomment cs) = false ∧ hasMark none (uncomment cs) = false ∧
      Tag.ofPlain (uncomment cs) = .str)
    ⟨fun ⟨start, mark, str⟩ => ⟨start, mark, str⟩, fun ⟨start, mark, str⟩ => ⟨start, mark, str⟩⟩

/-- A text that was put into a line without quotes: a word, and perhaps a comment. -/
def Layout.spliced (s : String) : Layout :=
  .word (.ofText (String.ofList (uncomment s.toList))) (s.toList.drop (uncomment s.toList).length)

section Spliced
variable {s : String} (tidy : Text.IsTidy s.toList)
include tidy

theorem uncomment_append_drop : uncomment s.toList ++ s.toList.drop (uncomment s.toList).length =
    s.toList ∧ IsRemark (s.toList.drop (uncomment s.toList).length) := by
  obtain ⟨remark, text, after, -⟩ := exists_remark tidy.inline tidy.last
  generalize uncomment s.toList = word at text ⊢
  rw [text, List.drop_left]
  exact ⟨rfl, after⟩

theorem write_spliced (inline : Bool) (indent : Nat) :
    (Layout.spliced s).write inline indent = ' ' :: s.toList := by
  rw [Layout.spliced, Layout.write, Word.ofText, String.toList_ofList,
    (uncomment_append_drop tidy).1]

theorem ReadsPlain.stands (h : ReadsPlain s.toList) : Stands (uncomment s.toList) := by
  have text := (uncomment_append_drop tidy).1
  have nonempty : uncomment s.toList ≠ [] := by
    intro none
    have str := h.str
    rw [none] at str
    exact absurd str (by decide)
  refine ⟨nonempty, fun c hc => tidy.inline c ?_, ?_, getLast?_uncomment _, h.start, h.mark⟩
  · rw [← text]
    exact List.mem_append_left _ hc
  · intro head
    refine tidy.head ?_
    rw [← text, List.head?_append, head]
    rfl

theorem fits_spliced (h : ReadsPlain s.toList) : (Layout.spliced s).Fits := by
  refine ⟨Word.reads_ofText_iff.2 ?_, (uncomment_append_drop tidy).2⟩
  rw [IsWord, String.toList_ofList]
  exact ⟨h.stands tidy, h.str⟩

end Spliced

end Yaml

end CiWorkflow
