import CiWorkflow.Proofs.Config.RoundTrip
import CiWorkflow.Proofs.Json.Meaning

/-! Configuration files that are JSON. They are read as JSON only as far as the reader agrees: on
the letters that may stand in a text, on where white space may be, and on strings and numbers. -/

set_option autoImplicit false

namespace CiWorkflow.Json

open Yaml (isBreak)
open Yaml.Scanner (Near)
open Text (isPrinted)

section Letters
variable {c : Char} {l : Letter}

theorem isPrinted_of_isBare (h : Yaml.Scanner.IsBare c = true) : isPrinted c = true := by
  simp only [Yaml.Scanner.IsBare, Bool.or_eq_true, beq_iff_eq] at h
  rcases h with ((alphanum | rfl) | rfl) | rfl
  · exact (Yaml.isPlainAscii_of_isAlphanum alphanum).1
  all_goals rfl

theorem isPrinted_of_hexValue? {n : Nat} (h : Text.hexValue? c = some n) :
    isPrinted c = true := by
  have between {a b : Char} (low : ' ' ≤ a) (high : b ≤ '~') (h : a ≤ c ∧ c ≤ b) :
      isPrinted c = true := by
    simp [isPrinted, Char.le_trans low h.1, Char.le_trans h.2 high]
  rw [Text.hexValue?] at h
  split at h
  next digit => exact isPrinted_of_isBare (isBare_of_isDigit digit)
  next =>
    split at h
    next small => exact between (by decide) (by decide) small
    next =>
      split at h
      next large => exact between (by decide) (by decide) large
      next => cases h

theorem isPrinted_of_escaped? {e : Char} (h : escaped? e = some c) : isPrinted e = true := by
  unfold escaped? at h
  split at h <;> first | rfl | cases h

theorem isPrinted_of_unit? {p q r s : Char} {n : Nat} (h : unit? p q r s = some n)
    (hc : c ∈ ['\\', 'u', p, q, r, s]) : isPrinted c = true := by
  obtain ⟨_, _, _, _, hp, hq, hr, hs, -⟩ := exists_of_unit? h
  simp only [List.mem_cons, List.not_mem_nil, or_false] at hc
  rcases hc with rfl | rfl | rfl | rfl | rfl | rfl
  · rfl
  · rfl
  · exact isPrinted_of_hexValue? hp
  · exact isPrinted_of_hexValue? hq
  · exact isPrinted_of_hexValue? hr
  · exact isPrinted_of_hexValue? hs

/-- A letter is spelled with printed characters, unless it stands for itself. -/
theorem Letter.printed_spelling (h : c ∈ l.spelling) : isPrinted c = true ∨ l.raw? = some c := by
  cases l with
  | raw d free => exact .inr (congrArg some (List.mem_singleton.1 h).symm)
  | short e d known =>
    simp only [spelling, List.mem_cons, List.not_mem_nil, or_false] at h
    rcases h with rfl | rfl
    · exact .inl rfl
    · exact .inl (isPrinted_of_escaped? known)
  | code p q r s d known => exact .inl (isPrinted_of_unit? known h)
  | pair p q r s p' q' r' s' d units known =>
    have parts : c ∈ ['\\', 'u', p, q, r, s] ++ ['\\', 'u', p', q', r', s'] := h
    rcases List.mem_append.1 parts with first | second
    · exact .inl (isPrinted_of_unit? units.1 first)
    · exact .inl (isPrinted_of_unit? units.2 second)

theorem Letter.mem_spelling (h : l.raw? = some c) : c ∈ l.spelling := by
  obtain ⟨free, rfl⟩ := Letter.eq_raw h
  exact List.mem_singleton_self c

theorem mem_unquoted {ls : List Letter} :
    c ∈ unquoted ls ↔ (∃ l ∈ ls, c ∈ l.spelling) ∨ c = '"' := by
  simp [unquoted]

end Letters

section Signs
variable {c : Char} {s : Sign}

/-- A sign is spelled with printed characters but for the letters that stand for themselves. -/
theorem Sign.printed_spelling (h : c ∈ s.spelling) :
    isPrinted c = true ∨ ∃ l ∈ s.letters, l.raw? = some c := by
  have quoted {ls : List Letter} (h : c ∈ '"' :: unquoted ls) :
      isPrinted c = true ∨ ∃ l ∈ ls, l.raw? = some c := by
    rw [List.mem_cons, mem_unquoted] at h
    rcases h with rfl | ⟨l, hl, h⟩ | rfl
    · exact .inl rfl
    · exact l.printed_spelling h |>.imp_right fun raw => ⟨l, hl, raw⟩
    · exact .inl rfl
  cases s with
  | name ls | text ls => exact quoted h
  | literal l => exact .inl (isPrinted_of_isBare (l.bare.all c h))
  | _ =>
    obtain rfl := List.mem_singleton.1 h
    exact .inl rfl

theorem Sign.mem_spelling {l : Letter} (hl : l ∈ s.letters) (h : l.raw? = some c) :
    c ∈ s.spelling := by
  cases s with
  | name ls | text ls =>
    exact List.mem_cons_of_mem _ (mem_unquoted.2 (.inl ⟨l, hl, Letter.mem_spelling h⟩))
  | _ => cases hl

theorem Sign.le_of_mem_spelling (h : c ∈ s.spelling) : 0x20 ≤ c.toNat := by
  rcases s.printed_spelling h with printed | ⟨l, -, raw⟩
  · exact (Text.toNat_of_printed printed).1
  · obtain ⟨free, -⟩ := Letter.eq_raw raw
    exact free.1

theorem Sign.spelling_ne_nil (s : Sign) : s.spelling ≠ [] := by
  cases s with
  | literal l =>
    obtain ⟨-, c, r, first, -⟩ := l.bare
    rw [spelling, first]
    exact List.cons_ne_nil c r
  | _ => exact List.cons_ne_nil _ _

/-- All letters that are not escaped may stand in a text. -/
def Sign.IsAllowed (s : Sign) : Prop :=
  ∀ l ∈ s.letters, ∀ c ∈ l.raw?, Yaml.isAllowed c = true

instance (s : Sign) : Decidable s.IsAllowed :=
  decidable_of_iff (s.letters.all (·.raw?.all Yaml.isAllowed) = true)
    (by simp [Sign.IsAllowed, Option.all_eq_true])

theorem Sign.isAllowed_iff : (∀ c ∈ s.spelling, Yaml.isAllowed c = true) ↔ s.IsAllowed := by
  constructor
  · exact fun all l hl c hc => all c (s.mem_spelling hl hc)
  · intro all c hc
    rcases s.printed_spelling hc with printed | ⟨l, hl, raw⟩
    · have code := Text.toNat_of_printed printed
      simp [Yaml.isAllowed]
      omega
    · exact all l hl c raw

end Signs

section Lines
variable {b x : List Char} {c : Char}

/-- Line ends are made alike in parts, unless a part starts with a line feed. -/
theorem unifyNewlines_append (h : ∀ r, x ≠ '\n' :: r) (b : List Char) :
    unifyNewlines (b ++ x) = unifyNewlines b ++ unifyNewlines x := by
  fun_induction unifyNewlines b with
  | case1 r ih => exact congrArg _ ih
  | case2 r other ih =>
    have step : unifyNewlines ('\r' :: (r ++ x)) = '\n' :: unifyNewlines (r ++ x) := by
      rw [unifyNewlines]
      intro r' e
      cases r with
      | nil => exact h r' e
      | cons d r => exact other r (by rw [List.cons.inj e |>.1])
    rw [List.cons_append, step, ih]
    rfl
  | case3 c r notBoth notReturn ih =>
    rw [List.cons_append, unifyNewlines, ih]
    · rfl
    · exact fun _ e _ => notReturn e
    · exact notReturn
  | case4 => rfl

theorem unifyNewlines_append_of_not_mem {s : List Char} (h : '\r' ∉ s) (x : List Char) :
    unifyNewlines (s ++ x) = s ++ unifyNewlines x := by
  induction s with
  | nil => rfl
  | cons c s ih =>
    obtain ⟨other, more⟩ := List.ne_and_not_mem_of_not_mem_cons h
    rw [List.cons_append, unifyNewlines, ih more]
    · rfl
    · exact fun _ e _ => other e.symm
    · exact fun e => other e.symm

theorem isWhite_unifyNewlines (blank : ∀ c ∈ b, isBlank c = true) : IsWhite (unifyNewlines b) := by
  fun_induction unifyNewlines b with
  | case1 r ih =>
    have more := ih fun c hc => blank c (List.mem_cons_of_mem _ (List.mem_cons_of_mem _ hc))
    exact List.forall_mem_cons.2 ⟨.inr (.inl rfl), more⟩
  | case2 r other ih =>
    have more := ih fun c hc => blank c (List.mem_cons_of_mem _ hc)
    exact List.forall_mem_cons.2 ⟨.inr (.inl rfl), more⟩
  | case3 c r notBoth notReturn ih =>
    obtain ⟨first, more⟩ := List.forall_mem_cons.1 blank
    refine List.forall_mem_cons.2 ⟨?_, ih more⟩
    simp [isBlank] at first
    tauto
  | case4 => exact nofun

theorem tab_mem_unifyNewlines (b : List Char) : '\t' ∈ unifyNewlines b ↔ '\t' ∈ b := by
  fun_induction unifyNewlines b with
  | case1 r ih => simp [ih]
  | case2 r other ih => simp [ih]
  | case3 c r notBoth notReturn ih => simp [ih]
  | case4 => rfl

def unified (p : Sign × List Char) : Sign × List Char := (p.1, unifyNewlines p.2)

theorem unifyNewlines_laid (b : List Char) (l : List (Sign × List Char)) :
    unifyNewlines (b ++ laid l) = unifyNewlines b ++ laid (l.map unified) := by
  induction l generalizing b with
  | nil => simp [laid]
  | cons p l ih =>
    have noReturn : '\r' ∉ p.1.spelling :=
      fun mem => absurd (p.1.le_of_mem_spelling mem) (by decide)
    have noFeed (r : List Char) : p.1.spelling ++ (p.2 ++ laid l) ≠ '\n' :: r := by
      obtain ⟨c, x, first⟩ := List.exists_cons_of_ne_nil p.1.spelling_ne_nil
      intro e
      rw [first, List.cons_append] at e
      have low := p.1.le_of_mem_spelling (first ▸ List.mem_cons_self)
      rw [(List.cons.inj e).1] at low
      exact absurd low (by decide)
    rw [List.map_cons, laid_cons, laid_cons, unifyNewlines_append noFeed,
      unifyNewlines_append_of_not_mem noReturn, ih]
    rfl

theorem isNamed_of_isNear {p : Sign × List Char} (near : IsNear p) : p.1.IsNamed := by
  obtain ⟨s, b⟩ := p
  cases s with
  | name ls =>
    have apart (l : Letter) (hl : l ∈ ls) (c : Char) (raw : l.raw? = some c) :
        isBreak c = false := by
      have mem : c ∈ unquoted ls := mem_unquoted.2 (.inl ⟨l, hl, Letter.mem_spelling raw⟩)
      exact near.1 c (List.mem_cons_of_mem _ (List.mem_append_left _ mem))
    have noBreak (l : Letter) (hl : l ∈ ls) : l.raw?.any isBreak = false := by
      rw [Option.any_eq_false]
      intro c raw
      simp [apart l hl c raw]
    refine ⟨List.Pairwise.isChain (List.pairwise_of_forall_mem_list fun l hl l' hl' tight => ?_),
      fun l hl next => ?_⟩
    · rcases tight with ⟨-, newline⟩ | ⟨newline, -⟩
      · rw [noBreak l' hl'] at newline
        cases newline
      · rw [noBreak l hl] at newline
        cases newline
    · exact absurd (apart l hl _ next) (by decide)
  | _ => trivial

end Lines

namespace Document
variable (d : Document)

structure IsKept : Prop where
  untabbed : '\t' ∉ d.lead ∧ ∀ p ∈ d.signs, '\t' ∉ p.2
  allowed : ∀ p ∈ d.signs, p.1.IsAllowed
  unmarked : ∀ p ∈ d.signs, isMarked p.1.letters = false
  near : ∀ p ∈ d.signs, IsNear (unified p)
  kept : ∀ p ∈ d.signs, p.1.IsKept

instance : Decidable d.IsKept :=
  decidable_of_iff (('\t' ∉ d.lead ∧ ∀ p ∈ d.signs, '\t' ∉ p.2) ∧ (∀ p ∈ d.signs, p.1.IsAllowed) ∧
      (∀ p ∈ d.signs, isMarked p.1.letters = false) ∧ (∀ p ∈ d.signs, IsNear (unified p)) ∧
        ∀ p ∈ d.signs, p.1.IsKept)
    ⟨fun ⟨untabbed, allowed, unmarked, near, kept⟩ => ⟨untabbed, allowed, unmarked, near, kept⟩,
      fun ⟨untabbed, allowed, unmarked, near, kept⟩ => ⟨untabbed, allowed, unmarked, near, kept⟩⟩

def lines : List Char := unifyNewlines d.lead ++ laid (d.signs.map unified)

theorem unifyNewlines_text : unifyNewlines d.text.toList = d.lines := by
  rw [text, String.toList_ofList, unifyNewlines_laid, lines]

theorem spelled_unified : (d.signs.map unified).map (·.1) = (Tree.object d.members).signs := by
  rw [← d.spelled, List.map_map]
  rfl

theorem forall_signs_iff {p : Sign → Prop} :
    (∀ s ∈ (Tree.object d.members).signs, p s) ↔ ∀ q ∈ d.signs, p q.1 := by
  rw [← d.spelled, List.forall_mem_map]

theorem allowed_lines_iff :
    (∀ c ∈ d.lines, Yaml.isAllowed c = true) ↔ ∀ p ∈ d.signs, p.1.IsAllowed := by
  have white {b : List Char} (h : IsWhite b) : ∀ c ∈ b, Yaml.isAllowed c = true := by
    intro c hc
    rcases h c hc with rfl | rfl | rfl <;> rfl
  obtain ⟨lead, others⟩ := List.forall_mem_cons.1 d.blank
  have behind (p : Sign × List Char) (hp : p ∈ d.signs) :
      ∀ c ∈ unifyNewlines p.2, Yaml.isAllowed c = true :=
    white (isWhite_unifyNewlines (others p.2 (List.mem_map_of_mem hp)))
  rw [lines, List.forall_mem_append, and_iff_right (white (isWhite_unifyNewlines lead)), laid]
  rw [List.forall_mem_flatMap, List.forall_mem_map]
  refine forall₂_congr fun p hp => ?_
  rw [List.forall_mem_append]
  exact (and_iff_left (behind p hp)).trans p.1.isAllowed_iff

theorem scans : Scans ('\t' ∉ unifyNewlines d.lead ∧ ∀ p ∈ d.signs.map unified, Fine p)
    ((d.signs.map unified).flatMap signTokens) (Yaml.Scanner.start d.lines) := by
  obtain ⟨lead, others⟩ := List.forall_mem_cons.1 d.blank
  have spelled : (d.signs.map unified).map (·.1) = d.signs.map (·.1) := by
    rw [List.map_map]
    rfl
  have whites : ∀ p ∈ d.signs.map unified, IsWhite p.2 := by
    rw [List.forall_mem_map] at others ⊢
    exact fun p hp => isWhite_unifyNewlines (others p hp)
  exact scans_signs d.runs _ _ [] _ spelled (isWhite_unifyNewlines lead) whites nofun
    (Yaml.Scanner.flows_start _)

theorem fine_iff : ('\t' ∉ unifyNewlines d.lead ∧ ∀ p ∈ d.signs.map unified, Fine p) ↔
    ('\t' ∉ d.lead ∧ ∀ p ∈ d.signs, '\t' ∉ p.2) ∧ ∀ p ∈ d.signs, isMarked p.1.letters = false := by
  have each (p : Sign × List Char) :
      Fine (unified p) ↔ '\t' ∉ p.2 ∧ isMarked p.1.letters = false :=
    ⟨fun ⟨tab, unmarked⟩ => ⟨fun mem => tab ((tab_mem_unifyNewlines p.2).2 mem), unmarked⟩,
      fun ⟨tab, unmarked⟩ => ⟨fun mem => tab ((tab_mem_unifyNewlines p.2).1 mem), unmarked⟩⟩
  rw [List.forall_mem_map, tab_mem_unifyNewlines, and_assoc]
  simp only [each, forall_and]

theorem read_of_stuck (bad : ¬ ('\t' ∉ unifyNewlines d.lead ∧ ∀ p ∈ d.signs.map unified, Fine p))
    (v : Value) : Yaml.read d.lines ≠ .ok v := by
  obtain ⟨tokens, s, reached, stuck, inner⟩ := d.scans.stuck bad
  obtain ⟨known, scanned⟩ := Yaml.Scanner.tokenize_of_stuck reached stuck
  have composed := Yaml.Node.ofTokens?_unread (f := .malformed)
    fun t (ht : t ∈ tokens.take known) => inner t (List.mem_of_mem_take ht)
  rw [Yaml.read, scanned]
  intro read
  split at read
  · cases met : Yaml.Node.ofTokens? (tokens.take known ++ [.fault .malformed]) with
    | ok d? =>
      rw [met] at composed
      exact composed
    | error f =>
      rw [met] at read
      cases read
  · cases read

theorem read_of_fine (fine : '\t' ∉ unifyNewlines d.lead ∧ ∀ p ∈ d.signs.map unified, Fine p)
    (allowed : ∀ c ∈ d.lines, Yaml.isAllowed c = true) : Yaml.read d.lines =
      if ∀ p ∈ d.signs.map unified, IsNear p then
        Yaml.Node.Document.value ⟨(Tree.object d.members).node, []⟩
      else .error .malformed := by
  obtain ⟨s, s', reached, running, next, done⟩ := d.scans.done fine
  rw [Yaml.read, if_pos (by simpa using allowed),
    Yaml.Scanner.tokenize_of_done reached running next done, ofTokens?_signs d.spelled_unified]
  split <;> rfl

/-- An object is read as what its nodes mean, if the reader comes to them at all. -/
theorem read_ok_iff {v : Value} : Yaml.read d.lines = .ok v ↔
    ((∀ p ∈ d.signs, p.1.IsAllowed) ∧
      (('\t' ∉ d.lead ∧ ∀ p ∈ d.signs, '\t' ∉ p.2) ∧
        ∀ p ∈ d.signs, isMarked p.1.letters = false) ∧
      ∀ p ∈ d.signs, IsNear (unified p)) ∧
    Yaml.Node.Document.value ⟨(Tree.object d.members).node, []⟩ = .ok v := by
  rw [← d.allowed_lines_iff, ← d.fine_iff, ← List.forall_mem_map (P := IsNear)]
  by_cases allowed : ∀ c ∈ d.lines, Yaml.isAllowed c = true
  swap
  · rw [Yaml.read, if_neg (by simpa using allowed)]
    exact iff_of_false (by simp) fun h => allowed h.1.1
  by_cases fine : '\t' ∉ unifyNewlines d.lead ∧ ∀ p ∈ d.signs.map unified, Fine p
  swap
  · exact iff_of_false (d.read_of_stuck fine v) fun h => fine h.1.2.1
  rw [d.read_of_fine fine allowed]
  split
  next near => exact (and_iff_right ⟨allowed, fine, near⟩).symm
  next far => exact iff_of_false (by simp) fun h => far h.1.2.2

theorem isNamed_of_near (near : ∀ p ∈ d.signs, IsNear (unified p)) :
    ∀ s ∈ (Tree.object d.members).signs, s.IsNamed :=
  d.forall_signs_iff.2 fun p hp => isNamed_of_isNear (p := unified p) (near p hp)

/-- A JSON text is read as the value that it denotes just if it is one that the reader takes for
that. -/
theorem read_lines_iff (distinct : d.Distinct) :
    Yaml.read d.lines = .ok (.map d.entries) ↔ d.IsKept := by
  rw [read_ok_iff]
  constructor
  · rintro ⟨⟨allowed, ⟨untabbed, unmarked⟩, near⟩, value⟩
    have kept := (document_value_iff distinct (d.isNamed_of_near near)).1 value
    exact ⟨untabbed, allowed, unmarked, near, d.forall_signs_iff.1 kept⟩
  · intro kept
    refine ⟨⟨kept.allowed, ⟨kept.untabbed, kept.unmarked⟩, kept.near⟩, ?_⟩
    exact (document_value_iff distinct (d.isNamed_of_near kept.near)).2
      (d.forall_signs_iff.2 kept.kept)

theorem exists_of_read {v : Value} (read : Yaml.read d.lines = .ok v) :
    ∃ entries, v = .map entries := by
  obtain ⟨-, value⟩ := d.read_ok_iff.1 read
  rw [Yaml.Node.Document.value] at value
  split at value
  · cases value
  · exact ⟨_, (Except.ok.inj value).symm⟩

end Document

end CiWorkflow.Json
