import CiWorkflow.Proofs.Yaml.Gap
import CiWorkflow.Yaml.Quoted
import Mathlib.Algebra.Group.Nat.Defs

set_option autoImplicit false

namespace CiWorkflow.Yaml

section Single

theorem readSingle_end {g : Gap} {rest : List Char} (h : rest.head? ≠ some '\'') :
    readSingle g ('\'' :: rest) = .ok (g.text, rest) := by
  cases rest with
  | nil => rfl
  | cons c r =>
    have hc : c ≠ '\'' := fun e => h (by rw [e]; rfl)
    rw [readSingle]
    · rfl
    · rintro r' - e
      exact hc (List.cons.inj e).1

theorem readSingle_newline {g : Gap} {r : List Char} (h : atMarker r = false) :
    readSingle g ('\n' :: r) = readSingle (g.newline '\n') r := by
  simp [readSingle, isSpace, isBreak, h]

theorem readSingle_spaces (first : Option Char) (more : List Char) (n : Nat) (r : List Char) :
    readSingle (.lines first more) (spaces n ++ r) = readSingle (.lines first more) r := by
  induction n with
  | zero => rfl
  | succ n ih => exact ih

theorem readSingle_char {g : Gap} {c : Char} {r : List Char} (inline : IsInline c)
    (space : c ≠ ' ') (quote : c ≠ '\'') :
    readSingle g (c :: r) = (readSingle .none r).prepend (g.text ++ [c]) := by
  rw [readSingle]
  · simp [quote, inline.isSpace space, inline.line]
  · exact fun r' e => absurd e quote

theorem readSingle_text {cs : List Char} (h : ∀ c ∈ cs, IsInline c ∧ c ≠ '\'') {rest : List Char}
    (hr : rest.head? ≠ some '\'') (g : Gap) (same : g.crossed = false) :
    readSingle g (cs ++ '\'' :: rest) = .ok (g.text ++ cs, rest) := by
  induction cs generalizing g with
  | nil => simpa using readSingle_end hr
  | cons c r ih =>
    have tail : ∀ d ∈ r, IsInline d ∧ d ≠ '\'' := fun d hd => h d (List.mem_cons_of_mem _ hd)
    by_cases space : c = ' '
    · subst space
      obtain ⟨text, crossed⟩ := Gap.blank_text same
      change readSingle (g.blank ' ') (r ++ '\'' :: rest) = _
      rw [ih tail _ crossed, text]
      simp
    · obtain ⟨inline, quote⟩ := h c List.mem_cons_self
      rw [List.cons_append, readSingle_char inline space quote, ih tail _ rfl]
      simp [Reader.prepend, Gap.text]

def Single (p : Option Char) (cs : List Char) : Prop :=
  (∀ c ∈ cs, isPlainAscii c ∨ c = '\n') ∧ hasSpacedBreak (p.toList ++ cs) = false

theorem Single.tail {p : Option Char} {c : Char} {r : List Char} (h : Single p (c :: r)) :
    Single (some c) r := by
  refine ⟨fun d hd => h.1 d (List.mem_cons_of_mem _ hd), ?_⟩
  have spaced := h.2
  cases p with
  | none => exact spaced
  | some q => exact (Bool.or_eq_false_iff.1 spaced).2

theorem Single.not_spaced {q c : Char} {r : List Char} (h : Single (some q) (c :: r)) :
    ¬ (q = ' ' ∧ c = '\n') ∧ ¬ (q = '\n' ∧ c = ' ') := by
  have spaced := (Bool.or_eq_false_iff.1 h.2).1
  simpa [not_and] using spaced

theorem single_of_styleOf {cs : List Char} (h : styleOf cs = .single) : Single none cs := by
  unfold styleOf at h
  split at h
  case isTrue => cases h
  case isFalse =>
    split at h
    case isTrue single => simpa [Single] using single
    case isFalse => cases h

/-- Of a break of the text and the breaks that stand for it nothing is lost. -/
theorem Pending.newline {p : Option Char} {g : Gap} {r : List Char}
    (h : Pending p g ('\n' :: r)) (space : p ≠ some ' ') :
    ∃ m, (if p = some '\n' then g else g.newline '\n') = .lines (some '\n') m ∧
      g.text = m.reverse := by
  cases h with
  | none _ newline => exact ⟨[], if_neg newline, rfl⟩
  | blanks | fold => exact absurd rfl space
  | breaks more =>
    rename_i m
    refine ⟨m, if_pos rfl, ?_⟩
    cases m with
    | nil => exact absurd rfl more
    | cons => rfl

theorem readSingle_break {indent : Nat} (hi : indent ≠ 0) (rest : List Char) {p : Option Char}
    {g : Gap} {r : List Char} (pending : Pending p g ('\n' :: r)) (before : p ≠ some ' ') :
    ∃ m, g.text = m.reverse ∧
      readSingle g ((if p == some '\n' then [] else ['\n']) ++ '\n' ::
          ((if r.head? == some '\n' then [] else spaces indent) ++
            (foldSingle indent (some '\n') indent r ++ '\'' :: rest))) =
        readSingle (.lines (some '\n') ('\n' :: m))
          (foldSingle indent (some '\n') indent r ++ '\'' :: rest) := by
  obtain ⟨m, lines, text⟩ := pending.newline before
  have first (x : List Char) :
      readSingle g ((if p == some '\n' then [] else ['\n']) ++ '\n' :: x) =
        readSingle (.lines (some '\n') m) ('\n' :: x) := by
    rw [← lines]
    by_cases hp : p = some '\n'
    · simp [hp]
    · simp [hp, readSingle_newline (atMarker_newline x)]
  refine ⟨m, text, ?_⟩
  rw [first]
  by_cases next : r.head? = some '\n'
  · -- The break that follows is written next, so nothing is indented.
    obtain ⟨r', rfl⟩ : ∃ r', r = '\n' :: r' := by
      cases r with
      | nil => cases next
      | cons d r' => exact ⟨r', by rw [Option.some.inj next]⟩
    simp only [next, beq_self_eq_true, if_true, List.nil_append]
    exact readSingle_newline (by simp [foldSingle, atMarker_newline])
  · rw [if_neg (by simpa using next), readSingle_newline (atMarker_spaces hi _)]
    exact readSingle_spaces _ _ _ _

theorem readSingle_foldSingle {indent : Nat} (hi : indent ≠ 0) (rest : List Char)
    (hr : rest.head? ≠ some '\'') {p : Option Char} {g : Gap} {cs : List Char}
    (pending : Pending p g cs) (single : Single p cs) (column : Nat) :
    readSingle g (foldSingle indent p column cs ++ '\'' :: rest) = .ok (g.text ++ cs, rest) := by
  -- The reader holds back the blanks behind the last character. `pending` says which they are, and
  -- carries the induction over the text.
  induction cs generalizing p g column with
  | nil => simpa [foldSingle] using readSingle_end hr
  | cons c r ih =>
    have tail := single.tail
    rw [foldSingle]
    split
    case isTrue newline =>
      obtain rfl : c = '\n' := by simpa using newline
      have before : p ≠ some ' ' := by
        rintro rfl
        exact single.not_spaced.1 ⟨rfl, rfl⟩
      obtain ⟨m, text, read⟩ := readSingle_break hi rest pending before
      simp only [List.append_assoc, List.cons_append]
      rw [read, ih (.breaks (List.cons_ne_nil _ _)) tail, text]
      simp [Gap.text]
    case isFalse newline =>
      have hn : c ≠ '\n' := by simpa using newline
      have ascii := (single.1 c List.mem_cons_self).resolve_right hn
      split
      case isTrue fold =>
        simp only [Bool.and_eq_true, beq_iff_eq, bne_iff_ne, ne_eq] at fold
        obtain ⟨⟨⟨⟨⟨rfl, inside⟩, space⟩, -⟩, -⟩, next⟩ := fold
        have before : p ≠ some '\n' := by
          rintro rfl
          exact single.not_spaced.2 ⟨rfl, rfl⟩
        rw [pending.eq_none space before, List.cons_append, List.cons_append, List.append_assoc,
          readSingle_newline (atMarker_spaces hi _)]
        change readSingle (.lines (some '\n') []) _ = _
        rw [readSingle_spaces, ih (.fold next) tail]
        rfl
      case isFalse =>
        split
        case isTrue quote =>
          obtain rfl : c = '\'' := by simpa using quote
          change (readSingle .none
            (foldSingle indent (some '\'') (column + 2) r ++ _)).prepend _ = _
          rw [ih (.none (by decide) (by decide)) tail]
          simp [Reader.prepend, Gap.text]
        case isFalse quote =>
          have hq : c ≠ '\'' := by simpa using quote
          by_cases hs : c = ' '
          · subst hs
            have before : p ≠ some '\n' := by
              rintro rfl
              exact single.not_spaced.2 ⟨rfl, rfl⟩
            obtain ⟨text, next⟩ := pending.blank before
            change readSingle (g.blank ' ') (foldSingle indent (some ' ') (column + 1) r ++ _) = _
            rw [ih next tail, text]
            simp
          · rw [List.cons_append, readSingle_char (isInline_of_isPlainAscii ascii) hs hq,
              ih (.none (by simpa using hs) (by simpa using hn)) tail]
            simp [Reader.prepend, Gap.text]

end Single

section Double

@[simp] theorem Reader.prepend_nil (read : Reader) : read.prepend [] = read := by
  cases read <;> rfl

@[simp] theorem Reader.prepend_prepend (a b : List Char) (read : Reader) :
    (read.prepend b).prepend a = read.prepend (a ++ b) := by
  cases read with
  | error f => rfl
  | ok read => simp [Reader.prepend]

@[simp] theorem Reader.prepend_ok (a b rest : List Char) :
    Reader.prepend a (.ok (b, rest)) = .ok (a ++ b, rest) := rfl

theorem hexValue?_upperHexDigit {n : Nat} (h : n < 16) :
    Text.hexValue? (upperHexDigit n) = some n := by
  revert n
  decide

theorem readDouble_digits (k n m value : Nat) (hm : m ≠ 0) (hn : n < 16 ^ k) (r : List Char) :
    readDouble (.code (k + m) value) .none (upperHex k n ++ r) =
      readDouble (.code m (value * 16 ^ k + n)) .none r := by
  induction k generalizing n m r with
  | zero =>
    obtain rfl : n = 0 := by simpa using hn
    simp [upperHex]
  | succ k ih =>
    have high : n / 16 < 16 ^ k := by omega
    have whole : (value * 16 ^ k + n / 16) * 16 + n % 16 = value * 16 ^ (k + 1) + n := by
      rw [Nat.pow_succ, ← Nat.mul_assoc]
      omega
    rw [upperHex, List.append_assoc, List.singleton_append, Nat.add_right_comm, Nat.add_assoc,
      ih (n / 16) (m + 1) (Nat.succ_ne_zero m) high, readDouble,
      hexValue?_upperHexDigit (Nat.mod_lt n (by decide))]
    simp only [whole]
    rw [if_pos (by omega), Nat.add_sub_cancel]

theorem readDouble_code (k : Nat) (c : Char) (h : c.toNat < 16 ^ (k + 1)) (r : List Char) :
    readDouble (.code (k + 1) 0) .none (upperHex (k + 1) c.toNat ++ r) =
      (readDouble .text .none r).prepend [c] := by
  have high : c.toNat / 16 < 16 ^ k := by omega
  have valid : c.toNat < 0xD800 ∨ (0xDFFF < c.toNat ∧ c.toNat < 0x110000) := c.valid
  rw [upperHex, List.append_assoc, List.singleton_append,
    readDouble_digits k _ 1 0 (by decide) high, readDouble,
    hexValue?_upperHexDigit (Nat.mod_lt _ (by decide))]
  have whole : (0 * 16 ^ k + c.toNat / 16) * 16 + c.toNat % 16 = c.toNat := by omega
  simp only [whole]
  rw [if_neg (by decide), if_neg (by omega), Text.charOfCode_toNat]

theorem escaped?_escapeLetter? {c l : Char} (h : escapeLetter? c = some l) :
    escaped? l = some c ∧ isBreak l = false := by
  unfold escapeLetter? at h
  split at h <;> simp_all <;> subst_vars <;> decide

theorem readDouble_letter {c l : Char} (h : escapeLetter? c = some l) (g : Gap) (r : List Char) :
    readDouble .text g ('\\' :: l :: r) =
      (readDouble .text .none r).prepend (g.text ++ [c]) := by
  obtain ⟨meant, newline⟩ := escaped?_escapeLetter? h
  change (readDouble .backslash .none (l :: r)).prepend g.text = _
  rw [readDouble, newline, meant]
  simp

theorem readDouble_escape {c : Char} {e : List Char} (h : escape? c = some e) (g : Gap)
    (r : List Char) : readDouble .text g (e ++ r) =
      (readDouble .text .none r).prepend (g.text ++ [c]) := by
  have code (mark : Char) (k : Nat) (letter : escaped? mark = none)
      (digits : codeLength? mark = some (k + 1))
      (newline : isBreak mark = false) (small : c.toNat < 16 ^ (k + 1)) :
      readDouble .text g ('\\' :: mark :: upperHex (k + 1) c.toNat ++ r) =
        (readDouble .text .none r).prepend (g.text ++ [c]) := by
    change (readDouble .backslash .none
      (mark :: (upperHex (k + 1) c.toNat ++ r))).prepend g.text = _
    rw [readDouble, newline, letter, digits]
    simp [readDouble_code k c small]
  rw [escape?] at h
  split at h
  case h_1 l letter =>
    obtain rfl := Option.some.inj h
    exact readDouble_letter letter g r
  case h_2 =>
    split at h
    · cases h
    split at h
    · obtain rfl := Option.some.inj h
      exact code 'x' 1 rfl rfl rfl (by omega)
    split at h
    · obtain rfl := Option.some.inj h
      exact code 'u' 3 rfl rfl rfl (by omega)
    · obtain rfl := Option.some.inj h
      have valid : c.toNat < 0xD800 ∨ (0xDFFF < c.toNat ∧ c.toNat < 0x110000) := c.valid
      exact code 'U' 7 rfl rfl rfl (by omega)

theorem readDouble_end (g : Gap) (rest : List Char) :
    readDouble .text g ('"' :: rest) = .ok (g.text, rest) := rfl

theorem readDouble_spaces (n : Nat) (r : List Char) :
    readDouble .text (.lines none []) (spaces n ++ r) =
      readDouble .text (.lines none []) r := by
  induction n with
  | zero => rfl
  | succ n ih => exact ih

/-- A broken line is nothing but a place where no space may stand. -/
theorem readDouble_breakLine {indent : Nat} (hi : indent ≠ 0) (g : Gap) (r : List Char) :
    readDouble .text g ('\\' :: '\n' :: (spaces indent ++ r)) =
      (readDouble .text (.lines none []) r).prepend g.text := by
  have skipped : readDouble .backslash .none ('\n' :: (spaces indent ++ r)) =
      readDouble .text (.lines none []) (spaces indent ++ r) := by
    simp [readDouble, atMarker_spaces hi, show isBreak '\n' = true from rfl]
  change (readDouble .backslash .none ('\n' :: (spaces indent ++ r))).prepend g.text = _
  rw [skipped, readDouble_spaces]

theorem isPlainAscii_of_escape? {c : Char} (h : escape? c = none) : isPlainAscii c := by
  rw [escape?] at h
  split at h
  · cases h
  · split at h
    · assumption
    · split at h
      · cases h
      · split at h <;> cases h

theorem readDouble_inline {c : Char} (inline : IsInline c) (quote : c ≠ '"')
    (backslash : c ≠ '\\') (space : c ≠ ' ') (g : Gap) (r : List Char) :
    readDouble .text g (c :: r) = (readDouble .text .none r).prepend (g.text ++ [c]) := by
  simp [readDouble, quote, backslash, inline.isSpace space, inline.line]

theorem readDouble_char {c : Char} (plain : escape? c = none) (space : c ≠ ' ') (g : Gap)
    (r : List Char) : readDouble .text g (c :: r) =
      (readDouble .text .none r).prepend (g.text ++ [c]) := by
  have inline := isInline_of_isPlainAscii (isPlainAscii_of_escape? plain)
  refine readDouble_inline inline ?_ ?_ space g r <;> rintro rfl <;> cases plain

theorem readDouble_space (g : Gap) (r : List Char) :
    readDouble .text g (' ' :: r) = readDouble .text (g.blank ' ') r := rfl

theorem readDouble_text {cs : List Char} (h : ∀ c ∈ cs, IsInline c ∧ c ≠ '"' ∧ c ≠ '\\')
    (rest : List Char) (g : Gap) (same : g.crossed = false) :
    readDouble .text g (cs ++ '"' :: rest) = .ok (g.text ++ cs, rest) := by
  induction cs generalizing g with
  | nil => simp [readDouble_end]
  | cons c r ih =>
    have tail : ∀ d ∈ r, IsInline d ∧ d ≠ '"' ∧ d ≠ '\\' :=
      fun d hd => h d (List.mem_cons_of_mem _ hd)
    by_cases space : c = ' '
    · subst space
      obtain ⟨text, crossed⟩ := Gap.blank_text same
      rw [List.cons_append, readDouble_space, ih tail _ crossed, text]
      simp
    · obtain ⟨inline, quote, backslash⟩ := h c List.mem_cons_self
      rw [List.cons_append, readDouble_inline inline quote backslash space, ih tail _ rfl]
      simp [Reader.prepend, Gap.text]

theorem readDouble_broken {indent : Nat} (hi : indent ≠ 0) {c : Char} (plain : escape? c = none)
    (g : Gap) (r : List Char) : readDouble .text g (breakLine indent (some c) ++ c :: r) =
      (readDouble .text .none r).prepend (g.text ++ [c]) := by
  simp only [breakLine, List.cons_append, List.append_assoc]
  rw [readDouble_breakLine hi]
  by_cases space : c = ' '
  · subst space
    have kept : readDouble .text (.lines none []) ('\\' :: ' ' :: r) =
        (readDouble .text .none r).prepend [' '] := Reader.prepend_nil _
    simp [kept]
  · rw [if_neg (by simpa using space), List.nil_append, readDouble_char plain space,
      Reader.prepend_prepend]
    rfl

theorem foldDouble_broken {indent : Nat} (small : indent < lineWidth) (r : List Char) :
    foldDouble indent .escape ((breakLine indent (some ' ')).length - 2) (' ' :: r) =
      ' ' :: foldDouble indent .other (indent + 2) r := by
  have short : (breakLine indent (some ' ')).length - 2 = indent + 1 := by
    simp [breakLine, spaces]
  have plain : escape? ' ' = none := rfl
  rw [short, foldDouble, plain]
  have fits : ¬ lineWidth < indent + 1 := by omega
  simp [fits]

theorem readDouble_foldDouble {indent : Nat} (hi : indent ≠ 0) (small : indent < lineWidth)
    (rest : List Char) (cs : List Char) (g : Gap) (before : Before) (column : Nat)
    (quiet : cs.head? = some ' ' → g.crossed = false) :
    readDouble .text g (foldDouble indent before column cs ++ '"' :: rest) =
      .ok (g.text ++ cs, rest) := by
  cases cs with
  | nil => simp [foldDouble, readDouble_end]
  | cons c r =>
    rw [foldDouble]
    cases h : escape? c with
    | some e =>
      simp only
      split
      case isTrue fold =>
        cases r with
        | nil => simp at fold
        | cons d r =>
          by_cases space : d = ' '
          · -- The line is broken in front of a space, which is read with the break.
            subst space
            rw [List.head?_cons, foldDouble_broken small, List.append_assoc, List.append_assoc,
              List.cons_append, readDouble_escape h, readDouble_broken hi rfl,
              readDouble_foldDouble hi small rest r .none .other _ (fun _ => rfl)]
            simp [Gap.text]
          · have next : ((d :: r).head? == some ' ') = false := by simpa using space
            simp only [breakLine, next, List.append_assoc, List.cons_append, Bool.false_eq_true,
              if_false, List.append_nil]
            rw [readDouble_escape h, readDouble_breakLine hi,
              readDouble_foldDouble hi small rest (d :: r) _ .escape _
                (fun e => absurd (Option.some.inj e) space)]
            simp [Gap.text]
      case isFalse =>
        rw [List.append_assoc, readDouble_escape h,
          readDouble_foldDouble hi small rest r .none .escape _ (fun _ => rfl)]
        simp [Gap.text]
    | none =>
      simp only
      split
      case isTrue =>
        rw [List.append_assoc, List.cons_append, readDouble_broken hi h,
          readDouble_foldDouble hi small rest r .none .other _ (fun _ => rfl)]
        simp [Gap.text]
      case isFalse =>
        by_cases space : c = ' '
        · subst space
          obtain ⟨text, crossed⟩ := Gap.blank_text (quiet rfl)
          change readDouble .text (g.blank ' ')
            (foldDouble indent .other (column + 1) r ++ '"' :: rest) = _
          rw [readDouble_foldDouble hi small rest r _ .other _ (fun _ => crossed), text]
          simp
        · rw [List.cons_append, readDouble_char h space,
            readDouble_foldDouble hi small rest r .none .other _ (fun _ => rfl)]
          simp [Gap.text]
termination_by cs.length

end Double

end CiWorkflow.Yaml
