import CiWorkflow.Proofs.Yaml.Gap
import CiWorkflow.Yaml.Plain

set_option autoImplicit false

namespace CiWorkflow.Yaml

theorem readPlain_spaces (margin n column : Nat) (first : Option Char) (more r : List Char) :
    readPlain false margin (.lines first more) column (spaces n ++ r) =
      readPlain false margin (.lines first more) (column + n) r := by
  induction n generalizing column with
  | zero => rfl
  | succ n ih =>
    rw [spaces_succ, Nat.add_comm n 1, ← Nat.add_assoc, ← ih]
    rfl

theorem readPlain_newline {margin column : Nat} {g : Gap} {r : List Char}
    (h : atMarker r = false) :
    readPlain false margin g column ('\n' :: r) = readPlain false margin (g.newline '\n') 0 r := by
  simp [readPlain, isBreak, h]

theorem Gap.newline_eq_lines (g : Gap) (c : Char) :
    ∃ first more, g.newline c = .lines first more := by
  cases g <;> exact ⟨_, _, rfl⟩

theorem readPlain_end {margin n : Nat} (hn : n < margin) {rest : List Char} (h : Resumes rest)
    (empty : Nat) (g : Gap) (column : Nat) :
    readPlain false margin g column (nextLine empty n ++ rest) = ⟨[], true, rest⟩ := by
  induction empty generalizing g column with
  | zero =>
    obtain ⟨first, more, lines⟩ := g.newline_eq_lines '\n'
    rw [nextLine_zero_append, readPlain_newline (h.atMarker n), lines, readPlain_spaces,
      Nat.zero_add]
    cases rest with
    | nil => rfl
    | cons c r =>
      obtain ⟨inline, space, -⟩ := h.start c r rfl
      simp [readPlain, space, inline.line, Gap.crossed, hn]
  | succ empty ih =>
    have marker : atMarker (nextLine empty n ++ rest) = false := by
      cases empty with
      | zero => exact atMarker_newline _
      | succ empty =>
        rw [nextLine_succ_append]
        exact atMarker_newline _
    rw [nextLine_succ_append, readPlain_newline marker]
    exact ih _ _

theorem readPlain_comment (margin column n : Nat) (r : List Char) :
    readPlain false margin .none column (spaces (n + 1) ++ '#' :: r) = ⟨[], false, '#' :: r⟩ := by
  have blanks (n column : Nat) (l : List Char) :
      readPlain false margin (.blanks l) column (spaces n ++ '#' :: r) =
        ⟨[], false, '#' :: r⟩ := by
    induction n generalizing column l with
    | zero => simp [spaces, readPlain, isBreak, Gap.crossed]
    | succ n ih => exact ih (column + 1) (' ' :: l)
  exact blanks n (column + 1) [' ']

theorem readPlain_colon (margin column : Nat) {r : List Char} (h : atGap r) :
    readPlain false margin .none column (':' :: r) = ⟨[], false, ':' :: r⟩ := by
  simp [readPlain, stopsPlain, h, isBreak, Gap.crossed]

theorem readPlain_char {margin column : Nat} {g : Gap} {c : Char} {r : List Char}
    (inline : IsInline c) (space : c ≠ ' ') (colon : c = ':' → atGap r = false)
    (comment : c = '#' → g = .none) (away : g.crossed = true → margin ≤ column) :
    readPlain false margin g column (c :: r) =
      (readPlain false margin .none 0 r).prepend (g.text ++ [c]) := by
  have gap := inline.isGap space
  have stops : stopsPlain false (c :: r) = false := by
    by_cases hc : c = ':'
    · simp [stopsPlain, gap, colon hc]
    · simp [stopsPlain, gap, hc]
  have left : (g.crossed && !false && decide (column < margin)) = false := by
    cases h : g.crossed
    · rfl
    · simpa [h] using away h
  simp only [readPlain, stops, left, inline.line]
  by_cases hc : c = '#'
  · rw [comment hc]
    simp [space]
  · simp [space, hc]

structure PlainTail (p : Option Char) (cs : List Char) : Prop where
  inline : ∀ c ∈ cs, IsInline c
  last : (p.toList ++ cs).getLast? ≠ some ' '
  mark : hasMark p cs = false
  first : p = none → cs.head? ≠ some ' ' ∧ startsBadly cs = false

namespace PlainTail
variable {p : Option Char} {c : Char} {r : List Char}

theorem tail (h : PlainTail p (c :: r)) : PlainTail (some c) r := by
  refine ⟨fun d hd => h.inline d (List.mem_cons_of_mem _ hd), ?_,
    (Bool.or_eq_false_iff.1 h.mark).2, nofun⟩
  intro last
  refine h.last ?_
  cases p with
  | none => exact last
  | some q => exact last

theorem colon (h : PlainTail p (c :: r)) (hc : c = ':') : atGap r = false := by
  subst hc
  cases p with
  | none =>
    have first := (h.first rfl).2
    rw [startsBadly] at first
    exact (Bool.or_eq_false_iff.1 first).2
  | some q => simpa using (Bool.or_eq_false_iff.1 (Bool.or_eq_false_iff.1 h.mark).1).1

theorem comment (h : PlainTail p (c :: r)) (hc : c = '#') : p ≠ some ' ' := by
  subst hc
  rintro rfl
  exact absurd (Bool.or_eq_false_iff.1 (Bool.or_eq_false_iff.1 h.mark).1).2 (by decide)

end PlainTail

structure Stands (cs : List Char) : Prop where
  nonempty : cs ≠ []
  inline : ∀ c ∈ cs, IsInline c
  head : cs.head? ≠ some ' '
  last : cs.getLast? ≠ some ' '
  start : startsBadly cs = false
  mark : hasMark none cs = false

instance (cs : List Char) : Decidable (Stands cs) :=
  -- not by trying every character there is
  let _ : Decidable (∀ c ∈ cs, IsInline c) := List.decidableBAll _ _
  decidable_of_iff (cs ≠ [] ∧ (∀ c ∈ cs, IsInline c) ∧ cs.head? ≠ some ' ' ∧
      cs.getLast? ≠ some ' ' ∧ startsBadly cs = false ∧ hasMark none cs = false)
    ⟨fun ⟨nonempty, inline, head, last, start, mark⟩ => ⟨nonempty, inline, head, last, start, mark⟩,
      fun ⟨nonempty, inline, head, last, start, mark⟩ =>
        ⟨nonempty, inline, head, last, start, mark⟩⟩

theorem Stands.tail {cs : List Char} (h : Stands cs) : PlainTail none cs :=
  ⟨h.inline, h.last, h.mark, fun _ => ⟨h.head, h.start⟩⟩

theorem atGap_append {cs : List Char} (h : atGap cs = false) (tail : List Char) :
    atGap (cs ++ tail) = false := by
  cases cs with
  | nil => cases h
  | cons c r => exact h

/-- A text that is not folded is read up to where the scalar ends. -/
theorem readPlain_text {margin : Nat} {tail rest : List Char} {crossed : Bool}
    (stop : ∀ column, readPlain false margin .none column tail = ⟨[], crossed, rest⟩)
    {p : Option Char} {g : Gap} {cs : List Char} (pending : Pending p g cs)
    (plain : PlainTail p cs) (newline : p ≠ some '\n') (same : g.crossed = false) (column : Nat) :
    readPlain false margin g column (cs ++ tail) = ⟨g.text ++ cs, crossed, rest⟩ := by
  induction cs generalizing p g column with
  | nil =>
    have space : p ≠ some ' ' := by
      rintro rfl
      exact plain.last rfl
    rw [pending.eq_none space newline]
    exact stop column
  | cons c r ih =>
    by_cases space : c = ' '
    · subst space
      obtain ⟨text, blank⟩ := pending.blank newline
      have read := ih blank plain.tail (by decide) ((Gap.blank_text same).2) (column + 1)
      rw [text, List.append_assoc, List.singleton_append] at read
      exact read
    · have inline := plain.inline c List.mem_cons_self
      have colon (hc : c = ':') : atGap (r ++ tail) = false := atGap_append (plain.colon hc) tail
      have comment (hc : c = '#') : g = .none := pending.eq_none (plain.comment hc) newline
      have away : g.crossed = true → margin ≤ column := by simp [same]
      have read := ih (.none (by simpa using space) (by simpa using inline.ne_newline)) plain.tail
        (by simpa using inline.ne_newline) rfl 0
      rw [List.cons_append, readPlain_char inline space colon comment away, read]
      simp [Plain.prepend, Gap.text]

theorem Stands.readPlain {margin : Nat} {cs tail rest : List Char} {crossed : Bool} (h : Stands cs)
    (stop : ∀ column, readPlain false margin .none column tail = ⟨[], crossed, rest⟩) :
    readPlain false margin .none 0 (cs ++ tail) = ⟨cs, crossed, rest⟩ :=
  readPlain_text stop (p := none) (g := .none) (.none (by simp) (by simp)) h.tail (by simp) rfl 0

theorem Gap.crossed_blank (g : Gap) (c : Char) : (g.blank c).crossed = g.crossed := by
  cases g <;> rfl

theorem atGap_foldPlain (indent column : Nat) (after : Bool) (cs x : List Char) :
    atGap (foldPlain indent after column cs ++ '\n' :: x) = atGap cs := by
  cases cs with
  | nil => rfl
  | cons c r =>
    rw [foldPlain]
    split
    case isTrue fold =>
      simp only [Bool.and_eq_true, beq_iff_eq] at fold
      obtain ⟨⟨⟨rfl, -⟩, -⟩, -⟩ := fold
      rfl
    case isFalse => rfl

theorem readPlain_foldPlain {indent margin n : Nat} (hi : indent ≠ 0) (hm : margin ≤ indent)
    (hn : n < margin) {rest : List Char} (next : Resumes rest) {p : Option Char} {g : Gap}
    {cs : List Char} (pending : Pending p g cs) (plain : PlainTail p cs) (newline : p ≠ some '\n')
    (column width : Nat) (away : g.crossed = true → margin ≤ column) :
    readPlain false margin g column
        (foldPlain indent (p == some ' ') width cs ++ '\n' :: (spaces n ++ rest)) =
      ⟨g.text ++ cs, true, rest⟩ := by
  -- Behind a line break the column counts the indentation, so that `away` holds again at the next
  -- character: the line does not stand left of the margin.
  induction cs generalizing p g column width with
  | nil =>
    have space : p ≠ some ' ' := by
      rintro rfl
      exact plain.last rfl
    rw [pending.eq_none space newline]
    exact readPlain_end hn next 0 _ _
  | cons c r ih =>
    have tail := plain.tail
    rw [foldPlain]
    split
    case isTrue fold =>
      simp only [Bool.and_eq_true, Bool.not_eq_true', beq_iff_eq, beq_eq_false_iff_ne, bne_iff_ne,
        ne_eq] at fold
      obtain ⟨⟨⟨rfl, space⟩, -⟩, head⟩ := fold
      rw [pending.eq_none space newline, List.cons_append, List.cons_append, List.append_assoc,
        readPlain_newline (atMarker_spaces hi _)]
      change readPlain false margin (.lines (some '\n') []) 0 _ = _
      have inside : margin ≤ 0 + indent := by omega
      rw [readPlain_spaces]
      exact ih (.fold head) tail (by decide) _ _ fun _ => inside
    case isFalse =>
      by_cases space : c = ' '
      · subst space
        obtain ⟨text, blank⟩ := pending.blank newline
        have inside : (g.blank ' ').crossed = true → margin ≤ column + 1 := by
          intro crossed
          rw [Gap.crossed_blank] at crossed
          exact Nat.le_succ_of_le (away crossed)
        have read := ih blank tail (by decide) (column + 1) (width + 1) inside
        rw [text, List.append_assoc, List.singleton_append] at read
        exact read
      · have inline := plain.inline c List.mem_cons_self
        have colon : c = ':' → atGap
            (foldPlain indent (c == ' ') (width + 1) r ++ '\n' :: (spaces n ++ rest)) = false :=
          fun hc => by rw [atGap_foldPlain, plain.colon hc]
        have comment (hc : c = '#') : g = .none := pending.eq_none (plain.comment hc) newline
        have read := ih (.none (by simpa using space) (by simpa using inline.ne_newline)) tail
          (by simpa using inline.ne_newline) 0 (width + 1) nofun
        rw [List.cons_append, readPlain_char inline space colon comment away]
        rw [show (c == ' ') = (some c == some ' ') from rfl, read]
        simp [Plain.prepend, Gap.text]

theorem plain_of_styleOf {cs : List Char} (h : styleOf cs = .plain) :
    isPlain cs ∧ Tag.ofPlain cs = .str := by
  unfold styleOf at h
  split at h
  case isTrue plain => simpa using plain
  case isFalse => split at h <;> cases h

theorem stands_of_isPlain {cs : List Char} (h : isPlain cs) :
    Stands cs ∧ cs.all isPlainAscii = true ∧ isMarker cs = false := by
  simp only [isPlain, isEdge, Bool.and_eq_true, Bool.not_eq_true', Bool.or_eq_false_iff,
    beq_eq_false_iff_ne] at h
  obtain ⟨⟨⟨⟨⟨⟨nonempty, ascii⟩, head, -⟩, last, -⟩, marker⟩, bad⟩, mark⟩ := h
  refine ⟨⟨by simpa using nonempty, fun c hc => ?_, head, last, bad, mark⟩, ascii, marker⟩
  exact isInline_of_isPlainAscii (List.all_eq_true.1 ascii c hc)

theorem foldPlain_eq_cons {indent width : Nat} {after : Bool} {cs x y : List Char} {d : Char}
    (hd : d ≠ '\n') (h : foldPlain indent after width cs ++ '\n' :: x = d :: y) :
    ∃ after' width' r, cs = d :: r ∧ y = foldPlain indent after' width' r ++ '\n' :: x := by
  cases cs with
  | nil => exact absurd (List.cons.inj h).1.symm hd
  | cons c r =>
    rw [foldPlain] at h
    split at h
    · exact absurd (List.cons.inj h).1.symm hd
    · obtain ⟨rfl, rfl⟩ := List.cons.inj h
      exact ⟨_, _, r, rfl, rfl⟩

theorem atMarker_foldPlain {cs : List Char} (h : isMarker cs = false) (indent width : Nat)
    (after : Bool) (x : List Char) :
    atMarker (foldPlain indent after width cs ++ '\n' :: x) = false := by
  have no_mark {d : Char} (hd : d ≠ '\n') {y : List Char}
      (e : foldPlain indent after width cs ++ '\n' :: x = d :: d :: d :: y) :
      [d, d, d].isPrefixOf cs = true := by
    obtain ⟨_, _, r₁, rfl, e₁⟩ := foldPlain_eq_cons hd e
    obtain ⟨_, _, r₂, rfl, e₂⟩ := foldPlain_eq_cons hd e₁.symm
    obtain ⟨_, _, r₃, rfl, -⟩ := foldPlain_eq_cons hd e₂.symm
    simp
  obtain ⟨dashes, dots⟩ := Bool.or_eq_false_iff.1 h
  unfold atMarker
  split
  next e => exact absurd ((no_mark (by decide) e).symm.trans dashes) (by decide)
  next e => exact absurd ((no_mark (by decide) e).symm.trans dots) (by decide)
  next => rfl

theorem isPlainAscii_of_isAlphanum {c : Char} (h : c.isAlphanum) :
    isPlainAscii c ∧ c ≠ ' ' ∧ c ≠ ':' ∧ c ≠ '#' := by
  unfold Char.isAlphanum Char.isAlpha Char.isUpper Char.isLower Char.isDigit at h
  simp only [Bool.or_eq_true, Bool.and_eq_true, decide_eq_true_eq, ge_iff_le,
    UInt32.le_iff_toNat_le] at h
  refine ⟨?_, ?_, ?_, ?_⟩
  · simp only [isPlainAscii, Bool.and_eq_true, decide_eq_true_eq, Char.le_def,
      UInt32.le_iff_toNat_le]
    have low : (' ').val.toNat = 32 := rfl
    have high : ('~').val.toNat = 126 := rfl
    have code : c.val.toNat = c.toNat := rfl
    simp at h
    omega
  · rintro rfl
    simp at h
  · rintro rfl
    simp at h
  · rintro rfl
    simp at h

end CiWorkflow.Yaml
