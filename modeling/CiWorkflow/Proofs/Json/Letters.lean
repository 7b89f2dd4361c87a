import CiWorkflow.Proofs.Json.Grammar
import CiWorkflow.Proofs.Yaml.Quoted
import Mathlib.Data.List.Chain

/-! JSON strings as double-quoted scalars. Escapes mean the same, but a surrogate pair is read as
two letters. Line breaks beyond ASCII, which JSON takes as letters, are folded. -/

set_option autoImplicit false

namespace CiWorkflow.Json

open Text (hexValue? charOfCode)
open Yaml (Gap Reader readDouble isBreak atMarker)

/-- A space or a line break that is not escaped. -/
def Letter.isHeld (l : Letter) : Bool := l.raw?.any fun c => c == ' ' || isBreak c

theorem Letter.eq_raw {l : Letter} {c : Char} (h : l.raw? = some c) : ∃ free, l = .raw c free := by
  cases l with
  | raw d free =>
    obtain rfl := Option.some.inj h
    exact ⟨free, rfl⟩
  | short | code | pair => cases h

/-- A letter as it is read, two halves of a pair each for themselves. -/
def Letter.read : Letter → List Char
  | @pair _ _ _ _ _ _ _ _ _ first second _ _ => [Half.char first, Half.char second]
  | l => [l.char]

def Letter.isPair : Letter → Bool
  | pair .. => true
  | _ => false

def Unpaired (ls : List Letter) : Prop := ∀ l ∈ ls, l.isPair = false

instance (ls : List Letter) : Decidable (Unpaired ls) :=
  inferInstanceAs (Decidable (∀ l ∈ ls, l.isPair = false))

def hold (c : Char) (g : Gap) : Gap := if c = ' ' then g.blank c else g.newline c

/-- The text that is read: spaces and line breaks are held back in a gap. -/
def flowed : Gap → List Letter → List Char
  | g, [] => g.text
  | g, l :: ls =>
    if l.isHeld then flowed (hold l.char g) ls else g.text ++ (l.read ++ flowed .none ls)

def isMarked : List Letter → Bool
  | [] => false
  | l :: ls => (l.raw?.any isBreak && atMarker (unquoted ls)) || isMarked ls

theorem atMarker_eq (a b c : Char) (r : List Char) : atMarker (a :: b :: c :: r) =
    ((a == b && b == c && (c == '-' || c == '.')) && Yaml.atGap r) := by
  unfold atMarker
  split
  next h => simp_all
  next h => simp_all
  next h h' =>
    simp_all
    grind

theorem atMarker_quoted (cs r : List Char) :
    atMarker (cs ++ '"' :: r) = atMarker (cs ++ ['"']) := by
  match cs with
  | [] => rfl
  | [_] => cases r <;> simp [atMarker]
  | [_, _] => simp [atMarker]
  | [_, _, _] => simp [atMarker_eq, Yaml.atGap]
  | _ :: _ :: _ :: _ :: _ => simp [atMarker_eq, Yaml.atGap]

theorem atMarker_unquoted (ls : List Letter) (r : List Char) :
    atMarker (unquoted ls ++ r) = atMarker (unquoted ls) := by
  rw [unquoted, List.append_assoc, List.singleton_append, atMarker_quoted]

theorem unquoted_cons (l : Letter) (ls : List Letter) :
    unquoted (l :: ls) = l.spelling ++ unquoted ls := by
  simp [unquoted]

section Escapes
variable {g : Gap} {r : List Char}

theorem escaped?_of_escaped? {e c : Char} (h : escaped? e = some c) :
    Yaml.escaped? e = some c ∧ isBreak e = false := by
  unfold escaped? at h
  split at h <;> cases h <;> decide

theorem readDouble_short {e c : Char} (h : escaped? e = some c) :
    readDouble .text g ('\\' :: e :: r) =
      (readDouble .text .none r).prepend (g.text ++ [c]) := by
  obtain ⟨meant, newline⟩ := escaped?_of_escaped? h
  change (readDouble .backslash .none (e :: r)).prepend g.text = _
  rw [readDouble, newline, meant]
  simp

theorem exists_of_unit? {p q r s : Char} {n : Nat} (h : unit? p q r s = some n) :
    ∃ a b c d, hexValue? p = some a ∧ hexValue? q = some b ∧ hexValue? r = some c ∧
      hexValue? s = some d ∧ n = ((a * 16 + b) * 16 + c) * 16 + d := by
  simp only [unit?, Option.bind_eq_bind, Option.bind_eq_some_iff, Option.pure_def,
    Option.some.injEq] at h
  obtain ⟨a, ha, b, hb, c, hc, d, hd, rfl⟩ := h
  exact ⟨a, b, c, d, ha, hb, hc, hd, rfl⟩

theorem readDouble_unit {p q r s : Char} {n : Nat} (h : unit? p q r s = some n)
    {rest : List Char} : readDouble .text g ('\\' :: 'u' :: p :: q :: r :: s :: rest) =
      (readDouble .text .none rest).prepend (g.text ++ [charOfCode n]) := by
  obtain ⟨x, y, z, w, hp, hq, hr, hs, whole⟩ := exists_of_unit? h
  have small : n ≤ 0x10FFFF := by
    have hx := Text.lt_of_hexValue? hp
    have hy := Text.lt_of_hexValue? hq
    have hz := Text.lt_of_hexValue? hr
    have hw := Text.lt_of_hexValue? hs
    omega
  change (readDouble (.code 4 0) .none (p :: q :: r :: s :: rest)).prepend g.text = _
  rw [readDouble, hp]
  simp only [show 1 < 4 from by decide, if_true, Nat.zero_mul, Nat.zero_add]
  rw [readDouble, hq]
  simp only [show 1 < 3 from by decide, if_true]
  rw [readDouble, hr]
  simp only [show 1 < 2 from by decide, if_true]
  rw [readDouble, hs]
  simp only [← whole]
  rw [if_neg (by decide), if_neg (by omega), Reader.prepend_prepend]

/-- An escaped letter is read by itself, whatever was held back in front of it. -/
theorem readDouble_escaped {l : Letter} (h : l.raw? = none) :
    readDouble .text g (l.spelling ++ r) =
      (readDouble .text .none r).prepend (g.text ++ l.read) := by
  cases l with
  | raw => cases h
  | short e c known => exact readDouble_short known
  | code p q r s c known =>
    change readDouble .text g ('\\' :: 'u' :: p :: q :: r :: s :: _) = _
    rw [readDouble_unit known, Text.charOfCode_toNat]
    rfl
  | pair p q r s p' q' r' s' c units known =>
    obtain ⟨first, second, -⟩ := Text.halves_of_pairChar? known
    change readDouble .text g ('\\' :: 'u' :: p :: q :: r :: s :: ('\\' :: 'u' :: p' :: q' ::
      r' :: s' :: _)) = _
    rw [readDouble_unit units.1, readDouble_unit units.2, Reader.prepend_prepend]
    simp [charOfCode, first, second, Half.char, Letter.read, Gap.text]

theorem readDouble_raw {c : Char} (free : 0x20 ≤ c.toNat ∧ c ≠ '"' ∧ c ≠ '\\') (space : c ≠ ' ')
    (newline : isBreak c = false) : readDouble .text g (c :: r) =
      (readDouble .text .none r).prepend (g.text ++ [c]) := by
  have tab : c ≠ '\t' := by
    rintro rfl
    exact absurd free.1 (by decide)
  simp [readDouble, free.2.1, free.2.2, Yaml.isSpace, space, tab, newline]

theorem readDouble_line {c : Char} (newline : isBreak c = true) :
    readDouble .text g (c :: r) =
      if atMarker r then .error .malformed else readDouble .text (g.newline c) r := by
  have other {d : Char} (hd : isBreak d = false) : c ≠ d := by
    rintro rfl
    exact absurd newline (by simp [hd])
  have blank : Yaml.isSpace c = false := by
    simp [Yaml.isSpace, other (d := ' ') (by decide), other (d := '\t') (by decide)]
  simp [readDouble, other (d := '"') (by decide), other (d := '\\') (by decide), blank, newline]

end Escapes

/-- A string is read as its text, unless it breaks a line in front of what separates documents. -/
theorem readDouble_unquoted (ls : List Letter) (g : Gap) (rest : List Char) :
    readDouble .text g (unquoted ls ++ rest) =
      if isMarked ls then .error .malformed else .ok (flowed g ls, rest) := by
  have put (marked : Bool) (cs text : List Char) :
      Reader.prepend cs (if marked then .error .malformed else .ok (text, rest)) =
        if marked then .error .malformed else .ok (cs ++ text, rest) := by
    cases marked <;> rfl
  induction ls generalizing g with
  | nil => rfl
  | cons l ls ih =>
    rw [unquoted_cons, List.append_assoc, isMarked, flowed]
    cases escaped : l.raw? with
    | none =>
      have free : l.isHeld = false := by simp [Letter.isHeld, escaped]
      simp [readDouble_escaped escaped, ih, put, free]
    | some c =>
      obtain ⟨free, rfl⟩ := Letter.eq_raw escaped
      change readDouble .text g (c :: (unquoted ls ++ rest)) = _
      by_cases space : c = ' '
      · subst space
        simp [Yaml.readDouble_space, ih, isBreak, Letter.isHeld, Letter.raw?, Letter.char, hold]
      by_cases newline : isBreak c = true
      · rw [readDouble_line newline, atMarker_unquoted, ih]
        cases atMarker (unquoted ls) <;>
          simp [space, newline, Letter.isHeld, Letter.raw?, Letter.char, hold]
      · simp only [Bool.not_eq_true] at newline
        simp [readDouble_raw free space newline, ih, put, space, newline, Letter.isHeld,
          Letter.raw?, Letter.read, Letter.char]

def Tight (l l' : Letter) : Prop :=
  (l.raw? = some ' ' ∧ l'.raw?.any isBreak = true) ∨
    (l.raw?.any isBreak = true ∧ l'.raw? = some ' ')

instance (l l' : Letter) : Decidable (Tight l l') := by
  unfold Tight
  infer_instance

structure Unfolded (ls : List Letter) : Prop where
  loose : ls.IsChain fun l l' => ¬ Tight l l'
  nextLine : ∀ l ∈ ls, l.raw? ≠ some '\u0085'

instance (ls : List Letter) : Decidable (Unfolded ls) :=
  decidable_of_iff ((ls.IsChain fun l l' => ¬ Tight l l') ∧ ∀ l ∈ ls, l.raw? ≠ some '\u0085')
    ⟨fun ⟨loose, nextLine⟩ => ⟨loose, nextLine⟩, fun ⟨loose, nextLine⟩ => ⟨loose, nextLine⟩⟩

section Folding
variable {p : Option Letter} {g : Gap} {l : Letter} {ls : List Letter} {c : Char}

theorem char_of_raw? (h : l.raw? = some c) : l.char = c := by
  obtain ⟨free, rfl⟩ := Letter.eq_raw h
  rfl

theorem length_hold_le (g : Gap) (c : Char) : (hold c g).text.length ≤ g.text.length + 1 := by
  have first (c : Char) : (Gap.lines (some c) []).text.length = 1 := by
    by_cases h : c = '\n'
    · rw [h]
      rfl
    · simp [Gap.text, h]
  rw [hold]
  split
  · cases g with
    | none => exact Nat.le_refl _
    | blanks cs => simp [Gap.blank, Gap.text]
    | lines first more => exact Nat.le_succ _
  · cases g with
    | none => exact Nat.le_of_eq (first _)
    | blanks cs => exact Nat.le_trans (Nat.le_of_eq (first _)) (Nat.le_add_left 1 _)
    | lines start more =>
      cases start with
      | none => simp [Gap.newline, Gap.text]
      | some d =>
        by_cases h : d = '\n'
        · subst h
          cases more <;> simp [Gap.newline, Gap.text]
        · simp [Gap.newline, Gap.text, h]

theorem read_of_raw? (h : l.raw? = some c) : l.read = [c] := by
  obtain ⟨free, rfl⟩ := Letter.eq_raw h
  rfl

theorem read_of_isHeld (h : l.isHeld = true) : l.read = [l.char] := by
  obtain ⟨c, raw, -⟩ := (Option.any_eq_true _ _).1 h
  rw [read_of_raw? raw, char_of_raw? raw]

theorem length_flowed_le (g : Gap) (ls : List Letter) :
    (flowed g ls).length ≤ g.text.length + (ls.flatMap Letter.read).length := by
  induction ls generalizing g with
  | nil => exact Nat.le_refl _
  | cons l ls ih =>
    rw [flowed, List.flatMap_cons, List.length_append]
    split
    next held' =>
      have held := ih (hold l.char g)
      have more := length_hold_le g l.char
      rw [read_of_isHeld held', List.length_singleton]
      omega
    next =>
      have none := ih .none
      simp only [Gap.text, List.length_nil, List.length_append] at none ⊢
      omega

inductive Holds : Option Letter → Gap → Prop
  | none {p : Option Letter} (other : ∀ l ∈ p, l.isHeld = false) : Holds p .none
  | blanks {l : Letter} {cs : List Char} (space : l.raw? = some ' ') (nonempty : cs ≠ []) :
    Holds (some l) (.blanks cs)
  | lines {l : Letter} {c : Char} {cs : List Char} (newline : l.raw?.any isBreak = true)
      (first : c ≠ '\n') : Holds (some l) (.lines (some c) cs)

theorem isChain_behind {α : Type} {R : α → α → Prop} {p : Option α} {a : α} {l : List α} :
    (p.toList ++ a :: l).IsChain R ↔ (∀ b ∈ p, R b a) ∧ (a :: l).IsChain R := by
  cases p with
  | none => simp
  | some b => simp [List.isChain_cons_cons]

theorem not_space_of_break {k : Letter} (h : k.raw?.any isBreak = true) : k.raw? ≠ some ' ' := by
  intro space
  rw [space] at h
  exact absurd h (by decide)

theorem Tight.held {k : Letter} (h : Tight k l) : k.isHeld = true ∧ l.isHeld = true := by
  have spaced {m : Letter} (space : m.raw? = some ' ') : m.isHeld = true := by
    rw [Letter.isHeld, space]
    rfl
  have broken {m : Letter} (newline : m.raw?.any isBreak = true) : m.isHeld = true := by
    obtain ⟨c, raw, breaks⟩ := (Option.any_eq_true _ _).1 newline
    simp [Letter.isHeld, raw, breaks]
  rcases h with ⟨space, newline⟩ | ⟨newline, space⟩
  · exact ⟨spaced space, broken newline⟩
  · exact ⟨broken newline, spaced space⟩

theorem loose_of_free (free : ∀ k ∈ p, k.isHeld = false) : ∀ k ∈ p, ¬ Tight k l := by
  intro k hk tight
  exact absurd tight.held.1 (by simp [free k hk])

theorem loose_of_spaces {k : Letter} (before : k.raw? = some ' ') (space : l.raw? = some ' ') :
    ∀ m ∈ some k, ¬ Tight m l := by
  rintro m ⟨⟩ (⟨-, newline⟩ | ⟨newline, -⟩)
  · exact not_space_of_break newline space
  · exact not_space_of_break newline before

theorem loose_of_breaks {k : Letter} (before : k.raw?.any isBreak = true)
    (newline : l.raw?.any isBreak = true) : ∀ m ∈ some k, ¬ Tight m l := by
  rintro m ⟨⟩ (⟨space, -⟩ | ⟨-, space⟩)
  · exact not_space_of_break before space
  · exact not_space_of_break newline space

/-- What comes of a letter that is held back with a gap in front of it. It is kept, unless it makes
a space and a line break stand side by side. -/
inductive Joins (p : Option Letter) (g : Gap) (l : Letter) (next : Gap) : Prop
  | kept (loose : ∀ k ∈ p, ¬ Tight k l) (text : next.text = g.text ++ [l.char])
    (holds : Holds (some l) next)
  | lost {k : Letter} (before : k ∈ p) (tight : Tight k l)
    (shorter : next.text.length ≤ g.text.length)

theorem Holds.space (h : Holds p g) (space : l.raw? = some ' ') : Joins p g l (g.blank ' ') := by
  have read : l.char = ' ' := char_of_raw? space
  cases h with
  | none free => exact .kept (loose_of_free free) (by rw [read]; rfl) (.blanks space (by simp))
  | blanks before =>
    refine .kept (loose_of_spaces before space) ?_ (.blanks space (List.cons_ne_nil _ _))
    rw [read]
    exact List.reverse_cons
  | lines newline => exact .lost rfl (.inr ⟨newline, space⟩) (Nat.le_refl _)

theorem Holds.newline (h : Holds p g) (raw : l.raw? = some c) (newline : isBreak c = true)
    (nextLine : c ≠ '\u0085') : Joins p g l (g.newline c) := by
  have read : l.char = c := char_of_raw? raw
  have breaks : l.raw?.any isBreak = true := by rwa [raw]
  have same : Yaml.normalBreak c = c := if_neg (by simpa using nextLine)
  have other : c ≠ '\n' := by
    rintro rfl
    obtain ⟨free, -⟩ := Letter.eq_raw raw
    exact absurd free.1 (by decide)
  have text {d : Char} (hd : d ≠ '\n') (cs : List Char) :
      (Gap.lines (some d) cs).text = d :: cs.reverse := by
    simp [Gap.text, hd]
  cases h with
  | none free =>
    simp only [Gap.newline, same]
    refine .kept (loose_of_free free) ?_ (.lines breaks other)
    rw [text other, read]
    rfl
  | blanks before nonempty =>
    simp only [Gap.newline, same]
    refine .lost rfl (.inl ⟨before, breaks⟩) ?_
    rw [text other, Gap.text, List.length_reverse]
    exact List.length_pos_iff.2 nonempty
  | lines before first =>
    refine .kept (loose_of_breaks before breaks) ?_ (.lines breaks first)
    rw [Gap.newline, text first, text first, same, read, List.reverse_cons]
    rfl

theorem Holds.held (h : Holds p g) (held : l.isHeld = true) (nextLine : l.raw? ≠ some '\u0085') :
    Joins p g l (hold l.char g) := by
  obtain ⟨c, raw, kind⟩ := (Option.any_eq_true _ _).1 held
  rw [char_of_raw? raw, hold]
  split
  next space =>
    subst space
    exact h.space raw
  next other =>
    have newline : isBreak c = true := by simpa [other] using kind
    exact h.newline raw newline fun same => nextLine (same ▸ raw)

theorem Holds.free (h : ¬ l.isHeld = true) : Holds (some l) .none := by
  refine .none fun k hk => ?_
  obtain rfl := Option.some.inj hk
  simpa using h

theorem flowed_of_loose (h : Holds p g) (nextLine : ∀ l ∈ ls, l.raw? ≠ some '\u0085')
    (loose : (p.toList ++ ls).IsChain fun k l => ¬ Tight k l) :
    flowed g ls = g.text ++ ls.flatMap Letter.read := by
  induction ls generalizing p g with
  | nil => simp [flowed]
  | cons l ls ih =>
    obtain ⟨before, behind⟩ := isChain_behind.1 loose
    have rest : ∀ l ∈ ls, l.raw? ≠ some '\u0085' :=
      fun k hk => nextLine k (List.mem_cons_of_mem _ hk)
    rw [flowed]
    split
    next held =>
      cases h.held held (nextLine l List.mem_cons_self) with
      | kept loose text holds =>
        rw [ih holds rest behind, text, List.flatMap_cons, read_of_isHeld held]
        simp
      | lost hk tight => exact absurd tight (before _ hk)
    next free =>
      rw [ih (.free free) rest behind]
      simp [Gap.text]

/-- If as many letters are read as there are, they stand apart from line breaks. -/
theorem loose_of_length (h : Holds p g) (nextLine : ∀ l ∈ ls, l.raw? ≠ some '\u0085')
    (whole : (flowed g ls).length = g.text.length + (ls.flatMap Letter.read).length) :
    (p.toList ++ ls).IsChain fun k l => ¬ Tight k l := by
  induction ls generalizing p g with
  | nil => cases p <;> simp
  | cons l ls ih =>
    have rest : ∀ l ∈ ls, l.raw? ≠ some '\u0085' :=
      fun k hk => nextLine k (List.mem_cons_of_mem _ hk)
    have more := length_flowed_le (hold l.char g) ls
    rw [flowed, List.flatMap_cons, List.length_append] at whole
    split at whole
    next held =>
      rw [read_of_isHeld held, List.length_singleton] at whole
      cases h.held held (nextLine l List.mem_cons_self) with
      | kept loose text holds =>
        refine isChain_behind.2 ⟨loose, ih holds rest ?_⟩
        rw [text, List.length_append, List.length_singleton]
        omega
      | lost hk tight shorter => omega
    next free =>
      refine isChain_behind.2 ⟨fun k hk tight => free tight.held.2, ih (.free free) rest ?_⟩
      simp only [List.length_append, Gap.text, List.length_nil] at whole ⊢
      omega

theorem mem_text_hold {d : Char} (h : d ∈ (hold c g).text) :
    d ∈ g.text ∨ d = ' ' ∨ d = '\n' ∨ d = Yaml.normalBreak c := by
  have first {b : Char} (h : d ∈ (Gap.lines (some b) []).text) : d = ' ' ∨ d = b := by
    by_cases newline : b = '\n'
    · subst newline
      exact .inl (List.mem_singleton.1 h)
    · exact .inr (by simpa [Gap.text, newline] using h)
  rw [hold] at h
  split at h
  next space =>
    subst space
    cases g with
    | none => exact .inr (.inl (List.mem_singleton.1 h))
    | blanks cs =>
      simp only [Gap.blank, Gap.text, List.mem_reverse, List.mem_cons] at h ⊢
      exact h.elim (fun same => .inr (.inl same)) .inl
    | lines start more => exact .inl h
  next =>
    cases g with
    | none | blanks => exact .inr ((first h).imp_right .inr)
    | lines start more =>
      cases start with
      | none =>
        simp only [Gap.newline, Gap.text, List.mem_reverse, List.mem_cons] at h ⊢
        exact h.elim (fun same => .inr (.inr (.inr same))) .inl
      | some b =>
        by_cases newline : b = '\n'
        · subst newline
          cases more with
          | nil => exact .inr (.inr (.inr (List.mem_singleton.1 h)))
          | cons =>
            simp only [Gap.newline, Gap.text, List.mem_reverse, List.mem_cons] at h ⊢
            tauto
        · have text (cs : List Char) : (Gap.lines (some b) cs).text = b :: cs.reverse := by
            simp [Gap.text, newline]
          rw [Gap.newline, text] at h
          rw [text]
          simp only [List.mem_cons, List.mem_reverse] at h ⊢
          tauto

/-- A kind of characters that folding leaves alone: no spaces and no line breaks. -/
structure Inline (kind : Char → Bool) : Prop where
  space : kind ' ' = false
  newline : ∀ c, isBreak c = true → kind c = false

theorem Inline.hold {kind : Char → Bool} (inline : Inline kind) (h : ∀ d ∈ g.text, kind d = false)
    (hc : c = ' ' ∨ isBreak c = true) : ∀ d ∈ (hold c g).text, kind d = false := by
  intro d mem
  rcases mem_text_hold mem with before | rfl | rfl | rfl
  · exact h d before
  · exact inline.space
  · exact inline.newline _ (by decide)
  · rw [Yaml.normalBreak]
    split
    · exact inline.newline _ (by decide)
    · exact hc.elim (fun e => e ▸ inline.space) (inline.newline c)

theorem Inline.countP_flowed {kind : Char → Bool} (inline : Inline kind)
    (h : ∀ d ∈ g.text, kind d = false) (ls : List Letter) :
    (flowed g ls).countP kind = (ls.flatMap Letter.read).countP kind := by
  induction ls generalizing g with
  | nil => exact List.countP_eq_zero.2 fun d hd => by simp [h d hd]
  | cons l ls ih =>
    rw [flowed, List.flatMap_cons, List.countP_append]
    split
    next held =>
      obtain ⟨c, raw, white⟩ := (Option.any_eq_true _ _).1 held
      have white : c = ' ' ∨ isBreak c = true := by simpa using white
      have other : kind c = false := white.elim (fun e => e ▸ inline.space) (inline.newline c)
      rw [char_of_raw? raw, ih (inline.hold h white), read_of_raw? raw]
      simp [other]
    next =>
      have none : g.text.countP kind = 0 := List.countP_eq_zero.2 fun d hd => by simp [h d hd]
      rw [List.countP_append, List.countP_append, none, ih (by simp [Gap.text]), Nat.zero_add]

theorem nextLine_not_mem_hold (h : '\u0085' ∉ g.text) (c : Char) :
    '\u0085' ∉ (hold c g).text := by
  have normal : '\u0085' ≠ Yaml.normalBreak c := by
    by_cases nextLine : c = '\u0085'
    · rw [nextLine]
      decide
    · simpa [Yaml.normalBreak, nextLine] using Ne.symm nextLine
  intro mem
  rcases mem_text_hold mem with before | space | newline | same
  · exact h before
  · exact absurd space (by decide)
  · exact absurd newline (by decide)
  · exact normal same

theorem count_nextLine (h : '\u0085' ∉ g.text) (ls : List Letter) :
    (flowed g ls).count '\u0085' + ls.countP (fun l => l.raw? = some '\u0085') =
      (ls.flatMap Letter.read).count '\u0085' := by
  induction ls generalizing g with
  | nil => exact List.count_eq_zero.2 h
  | cons l ls ih =>
    rw [flowed, List.countP_cons, List.flatMap_cons, List.count_append]
    split
    next held =>
      obtain ⟨c, raw, -⟩ := (Option.any_eq_true _ _).1 held
      have rest := ih (nextLine_not_mem_hold h l.char)
      rw [← Nat.add_assoc, rest, raw, read_of_raw? raw, Nat.add_comm]
      simp [List.count_singleton]
    next free =>
      have other : l.raw? ≠ some '\u0085' := fun raw => free (by rw [Letter.isHeld, raw]; rfl)
      have rest := ih (g := .none) (by simp [Gap.text])
      rw [List.count_append, List.count_append, List.count_eq_zero.2 h, ← rest]
      simp [other]
      omega

/-- All that is read of letters comes through just if folding keeps them. -/
theorem flowed_eq_read_iff (ls : List Letter) :
    flowed .none ls = ls.flatMap Letter.read ↔ Unfolded ls := by
  have nothing : Holds Option.none .none := .none fun l hl => absurd hl (Option.not_mem_none l)
  constructor
  · intro same
    have nextLine : ∀ l ∈ ls, l.raw? ≠ some '\u0085' := by
      have count := count_nextLine (g := .none) (by simp [Gap.text]) ls
      rw [same] at count
      simpa [List.countP_eq_zero] using count
    refine ⟨loose_of_length nothing nextLine ?_, nextLine⟩
    rw [same]
    exact (Nat.zero_add _).symm
  · intro unfolded
    exact flowed_of_loose nothing unfolded.nextLine unfolded.loose

theorem read_of_not_pair (h : l.isPair = false) : l.read = [l.char] := by
  cases l with
  | pair => cases h
  | _ => rfl

theorem flatMap_read_of_not_pair (h : Unpaired ls) :
    ls.flatMap Letter.read = ls.map Letter.char := by
  rw [List.map_eq_flatMap]
  exact List.flatMap_congr fun l hl => read_of_not_pair (h l hl)

/-- The characters from the first one that stands for half of a pair. -/
def isStandIn (c : Char) : Bool := 0x10F000 ≤ c.toNat

theorem inline_isStandIn : Inline isStandIn where
  space := by decide
  newline c h := by
    simp only [isBreak, Bool.or_eq_true, beq_iff_eq] at h
    rcases h with ((rfl | rfl) | rfl) | rfl <;> decide

theorem isStandIn_of_pairChar? {first second : Nat} (h : Text.pairChar? first second = some c) :
    isStandIn (Half.char first) = true ∧ isStandIn (Half.char second) = true := by
  obtain ⟨first, second, -⟩ := Text.halves_of_pairChar? h
  simp only [Text.isFirstHalf, Text.isSecondHalf, Bool.and_eq_true, decide_eq_true_eq]
    at first second
  exact ⟨decide_eq_true (Half.le_standIn first.1 (by omega)),
    decide_eq_true (Half.le_standIn (by omega) second.2)⟩

/-- A pair leaves two characters of the kind that stands for halves, in the place of one. -/
theorem countP_standIns (ls : List Letter) :
    (ls.map Letter.char).countP isStandIn + ls.countP Letter.isPair ≤
      (ls.flatMap Letter.read).countP isStandIn := by
  induction ls with
  | nil => exact Nat.le_refl 0
  | cons l ls ih =>
    rw [List.flatMap_cons, List.countP_append, List.map_cons, List.countP_cons, List.countP_cons]
    cases single : l.isPair with
    | false =>
      rw [read_of_not_pair single, List.countP_singleton]
      simp only [Bool.false_eq_true, if_false]
      omega
    | true =>
      have both : l.read.countP isStandIn = 2 := by
        cases l with
        | pair p q r s p' q' r' s' c units known =>
          obtain ⟨first, second⟩ := isStandIn_of_pairChar? known
          simp [Letter.read, first, second]
        | _ => cases single
      rw [both, if_pos rfl]
      split <;> omega

/-- A string is read as its text just if folding keeps its letters and none is a pair. -/
theorem flowed_eq_iff (ls : List Letter) :
    flowed .none ls = ls.map Letter.char ↔ Unfolded ls ∧ Unpaired ls := by
  constructor
  · intro same
    have count := inline_isStandIn.countP_flowed (g := .none) (by simp [Gap.text]) ls
    have more := countP_standIns ls
    rw [same] at count
    have single : Unpaired ls := by
      have none : ls.countP Letter.isPair = 0 := by omega
      simpa [Unpaired, List.countP_eq_zero] using none
    refine ⟨(flowed_eq_read_iff ls).1 ?_, single⟩
    rw [same, flatMap_read_of_not_pair single]
  · rintro ⟨unfolded, single⟩
    rw [(flowed_eq_read_iff ls).2 unfolded, flatMap_read_of_not_pair single]

end Folding

end CiWorkflow.Json
