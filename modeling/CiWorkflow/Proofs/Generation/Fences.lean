import CiWorkflow.Generation.Fence
import CiWorkflow.Proofs.Text.Trim

set_option autoImplicit false

namespace CiWorkflow.Generation

open Text

theorem isTag_iff {c : Char} : isTag c = true ↔ isWord c = true ∨ c = '-' := by
  simp [isTag]

def fence : List Char := ['`', '`', '`']

section
variable {cs : List Char}

theorem dropOpening_fence (cs : List Char) :
    dropOpening (fence ++ cs) = trimStart (cs.dropWhile isTag) := rfl

theorem dropOpening_of_not_start (h : ¬ fence <+: cs) : dropOpening cs = cs := by
  rw [dropOpening.eq_def]
  split
  · rename_i r
    exact absurd ⟨r, rfl⟩ h
  · rfl

theorem suffix_dropOpening (cs : List Char) : dropOpening cs <:+ cs := by
  by_cases h : fence <+: cs
  · obtain ⟨r, rfl⟩ := h
    exact (suffix_trimStart _).trans ((List.dropWhile_suffix _).trans (List.suffix_append _ _))
  · simp only [dropOpening_of_not_start h, List.suffix_refl]

theorem dropClosing_fence (cs : List Char) : dropClosing (cs ++ fence) = trimEnd cs := by
  simp [dropClosing, fence, trimEnd]

theorem dropClosing_of_not_end (h : ¬ fence <:+ cs) : dropClosing cs = cs := by
  simp only [dropClosing]
  split
  · rename_i r reversed
    refine absurd ⟨r.reverse, ?_⟩ h
    rw [← cs.reverse_reverse, reversed]
    simp [fence]
  · rfl

theorem prefix_dropClosing (cs : List Char) : dropClosing cs <+: cs := by
  by_cases h : fence <:+ cs
  · obtain ⟨r, rfl⟩ := h
    rw [dropClosing_fence]
    exact (prefix_trimEnd r).trans (List.prefix_append _ _)
  · simp only [dropClosing_of_not_end h, List.prefix_refl]

end

/-- A text in fences, with a language tag behind the first one. -/
def fenced (tag body : List Char) : List Char := fence ++ tag ++ '\n' :: body ++ '\n' :: fence

theorem isBare_fenced (tag body : List Char) : IsBare (fenced tag body) := by
  have mark : isBlank '`' = false := by decide
  have last : (fenced tag body).getLast? = some '`' := by
    rw [fenced, List.getLast?_append]
    rfl
  constructor
  · exact fun c hc => Option.some.inj hc ▸ mark
  · exact fun c hc => Option.some.inj (last.symm.trans hc) ▸ mark

theorem isBlank_newline : ∀ b ∈ ['\n'], isBlank b = true :=
  List.forall_mem_singleton.2 (by decide)

theorem dropOpening_fenced {tag : List Char} (letters : ∀ c ∈ tag, isTag c = true)
    (body : List Char) :
    dropOpening (fenced tag body) = trimStart (body ++ '\n' :: fence) := by
  have rest : (tag ++ '\n' :: (body ++ '\n' :: fence)).dropWhile isTag =
      '\n' :: (body ++ '\n' :: fence) := by
    rw [List.dropWhile_append_of_pos letters, List.dropWhile_cons_of_neg (by decide)]
  have whole : fenced tag body = fence ++ (tag ++ '\n' :: (body ++ '\n' :: fence)) := by
    simp [fenced]
  rw [whole, dropOpening_fence, rest]
  exact trimStart_append_of_blank isBlank_newline _

theorem stripFences_of_fenced {before tag body after : List Char}
    (blank : ∀ b ∈ before ++ after, isBlank b = true) (letters : ∀ c ∈ tag, isTag c = true)
    (h : IsBare body) : stripFences (before ++ fenced tag body ++ after) = body := by
  rw [stripFences, (isBare_fenced tag body).trim_around blank, dropOpening_fenced letters]
  cases body with
  | nil => decide
  | cons c r =>
    have opened : trimStart (c :: r ++ '\n' :: fence) = (c :: r ++ ['\n']) ++ fence := by
      rw [List.cons_append, trimStart_cons_of_not_blank (h.head c rfl)]
      simp
    rw [opened, dropClosing_fence, trimEnd_append_of_blank isBlank_newline, trimEnd_of_last h.last,
      h.trim_eq]

theorem stripFences_of_unfenced {cs : List Char} (start : ¬ fence <+: trim cs)
    (ending : ¬ fence <:+ trim cs) : stripFences cs = trim cs := by
  rw [stripFences, dropOpening_of_not_start start, dropClosing_of_not_end ending,
    (isBare_trim cs).trim_eq]

theorem infix_stripFences (cs : List Char) : stripFences cs <:+: cs :=
  (infix_trim _).trans <| (prefix_dropClosing _).isInfix.trans <|
    (suffix_dropOpening _).isInfix.trans (infix_trim cs)

/-- A text comes out of its fences as it is, and a text without fences loses only the white space
around it. What comes out is always a piece of what went in, with no white space at its ends. -/
theorem stripFences_bares :
    (∀ before tag body after : List Char, (∀ b ∈ before ++ after, isBlank b = true) →
      (∀ c ∈ tag, isWord c = true ∨ c = '-') → IsBare body →
      stripFences (before ++ fenced tag body ++ after) = body) ∧
    (∀ cs, ¬ fence <+: trim cs → ¬ fence <:+ trim cs → stripFences cs = trim cs) ∧
    ∀ cs, stripFences cs <:+: cs ∧ IsBare (stripFences cs) := by
  refine ⟨fun before tag body after blank letters h => ?_, fun cs => stripFences_of_unfenced,
    fun cs => ⟨infix_stripFences cs, isBare_trim _⟩⟩
  exact stripFences_of_fenced blank (fun c hc => isTag_iff.2 (letters c hc)) h

/-- A text that begins and ends with backticks, behind a tag and among white space of other
scripts, and a text with a fence in the middle. -/
theorem stripFences_bares_nested :
    let before := ['\u3000', '\n']
    let tag := "docker-file".toList
    let body := "```\nFROM a````".toList
    let middle := " a ``` b\n".toList
    ((∀ b ∈ before ++ ['\x1f'], isBlank b = true) ∧ (∀ c ∈ tag, isWord c = true ∨ c = '-') ∧
      IsBare body ∧ stripFences (before ++ fenced tag body ++ ['\x1f']) = body) ∧
    ¬ fence <+: trim middle ∧ ¬ fence <:+ trim middle ∧
      stripFences middle = "a ``` b".toList := by
  intro before tag body middle
  obtain ⟨fences, plain, -⟩ := stripFences_bares
  have blank : ∀ b ∈ before ++ ['\x1f'], isBlank b = true := List.all_eq_true.1 (by decide)
  have letters : ∀ c ∈ tag, isWord c = true ∨ c = '-' := fun c hc =>
    isTag_iff.1 (List.all_eq_true.1 (by decide) c hc)
  have bare : IsBare body := by decide
  have start : ¬ fence <+: trim middle := by decide
  have ending : ¬ fence <:+ trim middle := by decide
  exact ⟨⟨blank, letters, bare, fences before tag body _ blank letters bare⟩, start, ending,
    (plain middle start ending).trans (by decide)⟩

end CiWorkflow.Generation
