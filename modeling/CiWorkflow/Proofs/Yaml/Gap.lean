import CiWorkflow.Yaml.Written

set_option autoImplicit false

namespace CiWorkflow.Yaml

theorem isBreak_of_isPlainAscii {c : Char} (h : isPlainAscii c) : isBreak c = false := by
  simp only [isPlainAscii, Bool.and_eq_true, decide_eq_true_eq] at h
  simp only [isBreak, Bool.or_eq_false_iff, beq_eq_false_iff_ne]
  refine ⟨⟨⟨?_, ?_⟩, ?_⟩, ?_⟩ <;> rintro rfl
  · exact absurd h.1 (by decide)
  · exact absurd h.2 (by decide)
  · exact absurd h.2 (by decide)
  · exact absurd h.2 (by decide)

structure IsInline (c : Char) : Prop where
  line : isBreak c = false
  tab : c ≠ '\t'
  wide : c ≠ '\ufeff'

instance (c : Char) : Decidable (IsInline c) :=
  decidable_of_iff (isBreak c = false ∧ c ≠ '\t' ∧ c ≠ '\ufeff')
    ⟨fun ⟨line, tab, wide⟩ => ⟨line, tab, wide⟩, fun ⟨line, tab, wide⟩ => ⟨line, tab, wide⟩⟩

theorem isInline_of_isPlainAscii {c : Char} (h : isPlainAscii c) : IsInline c := by
  refine ⟨isBreak_of_isPlainAscii h, ?_, ?_⟩ <;> rintro rfl <;> exact absurd h (by decide)

theorem IsInline.isSpace {c : Char} (h : IsInline c) (space : c ≠ ' ') : isSpace c = false := by
  simp [Yaml.isSpace, space, h.tab]

theorem IsInline.isGap {c : Char} (h : IsInline c) (space : c ≠ ' ') : isGap c = false :=
  Bool.or_eq_false_iff.2 ⟨h.isSpace space, h.line⟩

theorem IsInline.ne_newline {c : Char} (h : IsInline c) : c ≠ '\n' := by
  rintro rfl
  exact absurd h.line (by decide)

theorem spaces_succ (n : Nat) (r : List Char) : spaces (n + 1) ++ r = ' ' :: (spaces n ++ r) := rfl

theorem isPlainAscii_spaces (n : Nat) : ∀ c ∈ spaces n, isPlainAscii c := by
  intro c hc
  rw [List.eq_of_mem_replicate hc]
  rfl

theorem isInline_spaces (n : Nat) : ∀ c ∈ spaces n, IsInline c :=
  fun c hc => isInline_of_isPlainAscii (isPlainAscii_spaces n c hc)

theorem atMarker_spaces {n : Nat} (hn : n ≠ 0) (r : List Char) :
    atMarker (spaces n ++ r) = false := by
  obtain ⟨m, rfl⟩ := Nat.exists_eq_succ_of_ne_zero hn
  rfl

theorem atMarker_newline (r : List Char) : atMarker ('\n' :: r) = false := rfl

/-- The way to a column of another line, over lines that are empty. -/
def nextLine (empty n : Nat) : List Char := List.replicate empty '\n' ++ '\n' :: spaces n

theorem nextLine_zero_append (n : Nat) (r : List Char) :
    nextLine 0 n ++ r = '\n' :: (spaces n ++ r) := rfl

theorem nextLine_succ_append (empty n : Nat) (r : List Char) :
    nextLine (empty + 1) n ++ r = '\n' :: (nextLine empty n ++ r) := by
  simp [nextLine, List.replicate_succ]

theorem Gap.blank_text {g : Gap} (h : g.crossed = false) :
    (g.blank ' ').text = g.text ++ [' '] ∧ (g.blank ' ').crossed = false := by
  cases g with
  | none => exact ⟨rfl, rfl⟩
  | blanks l => exact ⟨List.reverse_cons, rfl⟩
  | lines first more => simp [Gap.crossed] at h

def Starts (cs : List Char) : Prop :=
  ∀ c r, cs = c :: r → IsInline c ∧ c ≠ ' ' ∧ c ≠ '#'

/-- What comes after a node, at the start of a line but for its indentation. -/
structure Resumes (rest : List Char) : Prop where
  start : Starts rest
  marker : atMarker rest = false

theorem resumes_nil : Resumes [] := ⟨nofun, rfl⟩

theorem Resumes.atMarker {rest : List Char} (h : Resumes rest) (n : Nat) :
    atMarker (spaces n ++ rest) = false := by
  cases n with
  | zero => exact h.marker
  | succ n => exact atMarker_spaces (Nat.succ_ne_zero n) rest

/-- What a reader has pending behind a character of a text, before more of the text. Behind a fold
comes no other space. -/
inductive Pending : Option Char → Gap → List Char → Prop
  | none {p : Option Char} {cs : List Char} (space : p ≠ some ' ') (newline : p ≠ some '\n') :
    Pending p .none cs
  | blanks {l cs : List Char} : Pending (some ' ') (.blanks l) cs
  | fold {cs : List Char} (next : cs.head? ≠ some ' ') :
    Pending (some ' ') (.lines (some '\n') []) cs
  | breaks {m cs : List Char} (more : m ≠ []) : Pending (some '\n') (.lines (some '\n') m) cs

namespace Pending
variable {p : Option Char} {g : Gap} {cs r : List Char}

theorem eq_none (h : Pending p g cs) (space : p ≠ some ' ') (newline : p ≠ some '\n') :
    g = .none := by
  cases h with
  | none => rfl
  | blanks | fold => exact absurd rfl space
  | breaks => exact absurd rfl newline

theorem blank (h : Pending p g (' ' :: r)) (newline : p ≠ some '\n') :
    (g.blank ' ').text = g.text ++ [' '] ∧ Pending (some ' ') (g.blank ' ') r := by
  cases h with
  | none => exact ⟨rfl, .blanks⟩
  | blanks => exact ⟨(Gap.blank_text rfl).1, .blanks⟩
  | fold next => exact absurd rfl next
  | breaks => exact absurd rfl newline

end Pending

end CiWorkflow.Yaml
