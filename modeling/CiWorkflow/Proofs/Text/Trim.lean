import CiWorkflow.Text.Class
import Mathlib.Data.List.DropRight

/-! What is left of a text without the white space around it: a piece of the text with no white
space at either end, and all of the text if it had none. -/

set_option autoImplicit false

namespace CiWorkflow.Text

structure IsBare (cs : List Char) : Prop where
  head : ∀ c ∈ cs.head?, isBlank c = false
  last : ∀ c ∈ cs.getLast?, isBlank c = false

instance (cs : List Char) : Decidable (IsBare cs) :=
  decidable_of_iff (cs.head?.all (!isBlank ·) = true ∧ cs.getLast?.all (!isBlank ·) = true) <| by
    simp only [Option.all_eq_true, Bool.not_eq_true']
    exact ⟨fun ⟨head, last⟩ => ⟨head, last⟩, fun ⟨head, last⟩ => ⟨head, last⟩⟩

section
variable {cs : List Char}

theorem suffix_trimStart (cs : List Char) : trimStart cs <:+ cs := List.dropWhile_suffix _

theorem prefix_trimEnd (cs : List Char) : trimEnd cs <+: cs :=
  List.rdropWhile_prefix (p := isBlank) cs

theorem infix_trim (cs : List Char) : trim cs <:+: cs :=
  (prefix_trimEnd _).isInfix.trans (suffix_trimStart cs).isInfix

theorem trimStart_of_head (h : ∀ c ∈ cs.head?, isBlank c = false) : trimStart cs = cs := by
  cases cs with
  | nil => rfl
  | cons c r => exact trimStart_cons_of_not_blank (h c rfl)

theorem trimEnd_of_last (h : ∀ c ∈ cs.getLast?, isBlank c = false) : trimEnd cs = cs := by
  have reversed : trimStart cs.reverse = cs.reverse :=
    trimStart_of_head (by rwa [List.head?_reverse])
  rw [trimEnd, ← trimStart, reversed, List.reverse_reverse]

theorem head_trimStart (cs : List Char) : ∀ c ∈ (trimStart cs).head?, isBlank c = false := by
  intro c hc
  have first := List.head?_dropWhile_not isBlank cs
  rw [← trimStart, hc] at first
  exact first

theorem last_trimEnd (cs : List Char) : ∀ c ∈ (trimEnd cs).getLast?, isBlank c = false := by
  intro c hc
  rw [trimEnd, List.getLast?_reverse] at hc
  exact head_trimStart cs.reverse c hc

theorem IsBare.trim_eq (h : IsBare cs) : trim cs = cs := by
  rw [trim, trimStart_of_head h.head, trimEnd_of_last h.last]

theorem isBare_trim (cs : List Char) : IsBare (trim cs) := by
  refine ⟨fun c hc => ?_, last_trimEnd _⟩
  obtain ⟨blanks, whole⟩ := prefix_trimEnd (trimStart cs)
  have first : c ∈ (trimStart cs).head? := by
    rw [← whole, List.head?_append, ← trim, hc]
    rfl
  exact head_trimStart cs c first

theorem exists_blank_after (cs : List Char) :
    ∃ after, cs = trimEnd cs ++ after ∧ ∀ b ∈ after, isBlank b = true := by
  refine ⟨(cs.reverse.takeWhile isBlank).reverse, ?_, fun b hb => ?_⟩
  · rw [trimEnd, ← List.reverse_append, List.takeWhile_append_dropWhile, List.reverse_reverse]
  · exact List.mem_takeWhile_imp (List.mem_reverse.1 hb)

theorem exists_blank_before (cs : List Char) :
    ∃ before, cs = before ++ trimStart cs ∧ ∀ b ∈ before, isBlank b = true :=
  ⟨cs.takeWhile isBlank, List.takeWhile_append_dropWhile.symm, fun _ => List.mem_takeWhile_imp⟩

theorem exists_blank_around (cs : List Char) :
    ∃ before after, cs = before ++ trim cs ++ after ∧ ∀ b ∈ before ++ after, isBlank b = true := by
  obtain ⟨before, start, blank⟩ := exists_blank_before cs
  obtain ⟨after, rest, blank'⟩ := exists_blank_after (trimStart cs)
  refine ⟨before, after, ?_, List.forall_mem_append.2 ⟨blank, blank'⟩⟩
  rw [List.append_assoc, trim, ← rest, ← start]

theorem IsBare.trim_around (h : IsBare cs) {before after : List Char}
    (blank : ∀ b ∈ before ++ after, isBlank b = true) : trim (before ++ cs ++ after) = cs := by
  obtain ⟨start, tail⟩ := List.forall_mem_append.1 blank
  rw [trim, List.append_assoc, trimStart_append_of_blank start]
  cases cs with
  | nil =>
    have none : trimStart after = [] := by simpa [trimStart] using tail
    rw [List.nil_append, none]
    rfl
  | cons c r =>
    rw [List.cons_append, trimStart_cons_of_not_blank (h.head c rfl), ← List.cons_append,
      trimEnd_append_of_blank tail, trimEnd_of_last h.last]

theorem trim_eq_nil_iff : trim cs = [] ↔ ∀ c ∈ cs, isBlank c = true := by
  constructor
  · intro nothing
    obtain ⟨before, after, around, blank⟩ := exists_blank_around cs
    rwa [around, nothing, List.append_nil]
  · intro blank
    have bare : IsBare [] := ⟨by simp, by simp⟩
    have around : ∀ b ∈ cs ++ [], isBlank b = true := by simpa using blank
    have nothing : trim (cs ++ [] ++ []) = [] := bare.trim_around around
    simpa using nothing

theorem trim_append_of_blank {bs : List Char} (h : ∀ b ∈ bs, isBlank b = true) (cs : List Char) :
    trim (cs ++ bs) = trim cs := by
  obtain ⟨before, after, around, blank⟩ := exists_blank_around cs
  have whole : cs ++ bs = before ++ trim cs ++ (after ++ bs) := by
    rw [← List.append_assoc, ← around]
  rw [whole]
  refine (isBare_trim cs).trim_around ?_
  rw [← List.append_assoc]
  exact List.forall_mem_append.2 ⟨blank, h⟩

end

end CiWorkflow.Text
