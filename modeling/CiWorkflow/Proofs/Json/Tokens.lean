import CiWorkflow.Proofs.Json.Letters
import CiWorkflow.Proofs.Yaml.Flow
import CiWorkflow.Proofs.Yaml.NodeFault

/-! The signs of a JSON text as tokens of flow style. A tab between two signs stops the scanner, and
so does a string that breaks a line in front of a document mark. -/

set_option autoImplicit false

namespace CiWorkflow.Json

open Yaml (Token Scanner)
open Yaml.Node (IsInner)
open Yaml.Scanner (Bare IsBare IsSkipped Flows Stuck Done Reaches Halts Brackets keyMark)

section Words

theorem isBare_of_isDigit {c : Char} (h : c.isDigit = true) : IsBare c = true := by
  simp [IsBare, Char.isAlphanum, h]

theorem Exponent.bare (e : Exponent) : ∀ c ∈ e.spelling, IsBare c = true := by
  intro c hc
  rw [Exponent.spelling, List.mem_cons, List.mem_append] at hc
  rcases hc with rfl | sign | digit
  · rcases e.isMark with mark | mark <;> rw [mark] <;> rfl
  · rcases e.isSign c (Option.mem_toList.1 sign) with rfl | rfl <;> rfl
  · exact isBare_of_isDigit (e.decimal c digit)

theorem Numeral.bare_size (n : Numeral) : ∀ c ∈ n.size, IsBare c = true := by
  intro c hc
  rw [Numeral.size, List.mem_append, List.mem_append] at hc
  rcases hc with whole | point | tail
  · exact isBare_of_isDigit (n.decimal c (List.mem_append_left _ whole))
  · rw [Numeral.point] at point
    split at point
    · cases point
    · rcases List.mem_cons.1 point with rfl | digit
      · rfl
      · exact isBare_of_isDigit (n.decimal c (List.mem_append_right _ digit))
  · rw [Numeral.tail] at tail
    cases exponent : n.exponent with
    | none => simp [exponent] at tail
    | some e => exact e.bare c (by simpa [exponent] using tail)

theorem Numeral.whole_eq (n : Numeral) :
    ∃ d w, n.whole = d :: w ∧ ∀ c ∈ d :: w, c.isDigit = true := by
  obtain ⟨d, w, whole⟩ := List.exists_cons_of_ne_nil n.nonempty
  exact ⟨d, w, whole, whole ▸ fun c hc => n.decimal c (List.mem_append_left _ hc)⟩

theorem Numeral.bare (n : Numeral) : Bare n.spelling := by
  obtain ⟨d, w, whole, digits⟩ := n.whole_eq
  have digit := digits d List.mem_cons_self
  have size : n.size = d :: (w ++ (n.point ++ n.tail)) := by
    rw [Numeral.size, whole]
    rfl
  have all := n.bare_size
  rw [Numeral.spelling]
  split
  · refine ⟨fun c hc => ?_, '-', n.size, rfl, .inr ⟨rfl, d, _, size, digit⟩⟩
    rcases List.mem_cons.1 hc with rfl | hc
    · rfl
    · exact all c hc
  · refine ⟨all, d, _, size, .inl ?_⟩
    simp [Char.isAlphanum, digit]

theorem Literal.bare (l : Literal) : Bare l.spelling := by
  match l with
  | .null => exact ⟨List.all_eq_true.1 (by decide), _, _, rfl, .inl rfl⟩
  | .flag true => exact ⟨List.all_eq_true.1 (by decide), _, _, rfl, .inl rfl⟩
  | .flag false => exact ⟨List.all_eq_true.1 (by decide), _, _, rfl, .inl rfl⟩
  | .number n => exact n.bare

end Words

def Sign.letters : Sign → List Letter
  | name ls => ls
  | text ls => ls
  | _ => []

def signTokens : Sign × List Char → List Token
  | (.openObject, _) => [.openMapping]
  | (.closeObject, _) => [.closeMapping]
  | (.openArray, _) => [.openSequence]
  | (.closeArray, _) => [.closeSequence]
  | (.comma, _) => [.comma]
  | (.colon, _) => [.value]
  | (.name ls, b) =>
    keyMark ('"' :: (unquoted ls ++ b)) ++ [.scalar false (String.ofList (flowed .none ls))]
  | (.text ls, _) => [.scalar false (String.ofList (flowed .none ls))]
  | (.literal l, _) => [.scalar true (String.ofList l.spelling)]

theorem isInner_of_mem {p : Sign × List Char} {t : Token} (h : t ∈ signTokens p) : IsInner t := by
  obtain ⟨s, b⟩ := p
  cases s with
  | name ls =>
    rcases List.mem_append.1 h with mark | scalar
    · rw [keyMark] at mark
      split at mark
      · rw [List.mem_singleton.1 mark]
        exact ⟨rfl, Token.noConfusion⟩
      · cases mark
    · rw [List.mem_singleton.1 scalar]
      exact ⟨rfl, Token.noConfusion⟩
  | _ =>
    rw [List.mem_singleton.1 h]
    exact ⟨rfl, Token.noConfusion⟩

def Sign.isStop : Sign → Bool
  | comma | closeArray | closeObject => true
  | _ => false

/-- Signs that may come inside `depth` pairs of brackets; a name only if `ready`. -/
inductive Runs : (depth : Nat) → (ready : Bool) → List Sign → Prop
  | done {ready : Bool} : Runs 0 ready []
  | opened {depth : Nat} {ready : Bool} {s : Sign} {r : List Sign}
      (bracket : s = .openObject ∨ s = .openArray) (more : Runs (depth + 1) true r) :
    Runs depth ready (s :: r)
  | closed {depth : Nat} {ready : Bool} {s : Sign} {r : List Sign}
      (bracket : s = .closeObject ∨ s = .closeArray) (more : Runs depth false r) :
    Runs (depth + 1) ready (s :: r)
  | comma {depth : Nat} {ready : Bool} {r : List Sign} (more : Runs depth true r) :
    Runs depth ready (.comma :: r)
  | name {depth : Nat} {ls : List Letter} {r : List Sign} (more : Runs (depth + 1) false r) :
    Runs (depth + 1) true (.name ls :: .colon :: r)
  | text {depth : Nat} {ready : Bool} {ls : List Letter} {r : List Sign}
      (more : Runs depth false r) : Runs depth ready (.text ls :: r)
  | literal {depth : Nat} {ready : Bool} {l : Literal} {s : Sign} {r : List Sign}
      (stop : s.isStop = true) (more : Runs (depth + 1) false (s :: r)) :
    Runs (depth + 1) ready (.literal l :: s :: r)

theorem exists_stop_items (items : List Tree) {s : Sign} (r : List Sign) (stop : s.isStop = true) :
    ∃ s' r', itemSigns false items ++ s :: r = s' :: r' ∧ s'.isStop = true := by
  cases items with
  | nil => exact ⟨s, r, rfl, stop⟩
  | cons t rest => exact ⟨.comma, _, rfl, rfl⟩

theorem exists_stop_members (members : List (List Letter × Tree)) {s : Sign} (r : List Sign)
    (stop : s.isStop = true) :
    ∃ s' r', memberSigns false members ++ s :: r = s' :: r' ∧ s'.isStop = true := by
  cases members with
  | nil => exact ⟨s, r, rfl, stop⟩
  | cons m rest => exact ⟨.comma, _, rfl, rfl⟩

mutual

theorem Tree.runs (t : Tree) {depth : Nat} (ready : Bool) {s : Sign} {r : List Sign}
    (stop : s.isStop = true) (more : Runs (depth + 1) false (s :: r)) :
    Runs (depth + 1) ready (t.signs ++ s :: r) := by
  match t with
  | .literal l => exact .literal stop more
  | .text ls => exact .text more
  | .array items =>
    rw [Tree.signs, List.cons_append, List.append_assoc]
    exact .opened (.inr rfl) (itemSigns_runs items true true rfl fun _ => .closed (.inr rfl) more)
  | .object members =>
    rw [Tree.signs, List.cons_append, List.append_assoc]
    exact .opened (.inl rfl)
      (memberSigns_runs members true true (fun _ => rfl) rfl fun _ => .closed (.inl rfl) more)

theorem itemSigns_runs (items : List Tree) (first : Bool) {depth : Nat} (ready : Bool) {s : Sign}
    {r : List Sign} (stop : s.isStop = true) (more : ∀ ready, Runs (depth + 1) ready (s :: r)) :
    Runs (depth + 1) ready (itemSigns first items ++ s :: r) := by
  match items with
  | [] => exact more ready
  | t :: rest =>
    obtain ⟨s', r', tail, stop'⟩ := exists_stop_items rest r stop
    have others := itemSigns_runs rest false false stop more
    rw [tail] at others
    rw [itemSigns, List.append_assoc, List.append_assoc, tail]
    cases first with
    | true => exact t.runs ready stop' others
    | false => exact .comma (t.runs true stop' others)

theorem memberSigns_runs (members : List (List Letter × Tree)) (first : Bool) {depth : Nat}
    (ready : Bool) {s : Sign} {r : List Sign} (opens : first = true → ready = true)
    (stop : s.isStop = true) (more : ∀ ready, Runs (depth + 1) ready (s :: r)) :
    Runs (depth + 1) ready (memberSigns first members ++ s :: r) := by
  match members with
  | [] => exact more ready
  | (ls, t) :: rest =>
    obtain ⟨s', r', tail, stop'⟩ := exists_stop_members rest r stop
    have others := memberSigns_runs rest false false nofun stop more
    rw [tail] at others
    rw [memberSigns, List.append_assoc, List.cons_append, List.cons_append, List.append_assoc, tail]
    have named : Runs (depth + 1) true (.name ls :: .colon :: (t.signs ++ s' :: r')) :=
      .name (t.runs false stop' others)
    cases first with
    | true =>
      obtain rfl := opens rfl
      exact named
    | false => exact .comma named

end

theorem Document.runs (d : Document) : Runs 0 true (d.signs.map (·.1)) := by
  rw [d.spelled, Tree.signs]
  exact .opened (.inl rfl) (memberSigns_runs d.members true true (fun _ => rfl) rfl fun _ =>
    .closed (.inl rfl) .done)

section Scan
variable {b : List Char} {rest : List Char} {depth : Nat} {ready : Bool} {tokens : List Token}
  {s s' : Scanner} {fine : Prop}

def IsWhite (b : List Char) : Prop := ∀ c ∈ b, c = ' ' ∨ c = '\n' ∨ c = '\t'

theorem IsWhite.skipped (h : IsWhite b) (tab : '\t' ∉ b) : IsSkipped b := by
  intro c hc
  rcases h c hc with rfl | rfl | rfl
  · exact .inl rfl
  · exact .inr rfl
  · exact absurd hc tab

theorem IsWhite.exists_tab (h : IsWhite b) (tab : '\t' ∈ b) :
    ∃ w r, b = w ++ '\t' :: r ∧ IsSkipped w := by
  obtain ⟨w, r, rfl, first⟩ := List.eq_append_cons_of_mem tab
  exact ⟨w, r, rfl, IsWhite.skipped (fun c hc => h c (List.mem_append_left _ hc)) first⟩

/-- How a scanner ends: with all tokens if the text is fine, and with a fault if it is not. -/
structure Scans (fine : Prop) (tokens : List Token) (s : Scanner) : Prop where
  done : fine → ∃ s₁ s₂, Reaches s s₁ ∧ s₁.finished = false ∧ s₁.next = .ok s₂ ∧ Done tokens s₂
  stuck : ¬ fine → ∃ known s', Reaches s s' ∧ Stuck known s' ∧ ∀ t ∈ known, IsInner t

theorem Scans.of_stuck (stuck : Stuck tokens s) (inner : ∀ t ∈ tokens, IsInner t)
    (bad : ¬ fine) (all : List Token) : Scans fine all s where
  done h := absurd h bad
  stuck _ := ⟨tokens, s, .refl s, stuck, inner⟩

theorem Scans.after {fine' : Prop} (reached : Reaches s s') (same : fine ↔ fine')
    (h : Scans fine' tokens s') : Scans fine tokens s where
  done hf := by
    obtain ⟨s₁, s₂, reached', others⟩ := h.done (same.1 hf)
    exact ⟨s₁, s₂, reached.trans reached', others⟩
  stuck hf := by
    obtain ⟨known, s₁, reached', others⟩ := h.stuck (mt same.2 hf)
    exact ⟨known, s₁, reached.trans reached', others⟩

structure Fine (p : Sign × List Char) : Prop where
  tab : '\t' ∉ p.2
  unmarked : isMarked p.1.letters = false

theorem laid_cons (p : Sign × List Char) (l : List (Sign × List Char)) :
    laid (p :: l) = p.1.spelling ++ (p.2 ++ laid l) := by
  simp [laid]

theorem inner_append {p : Sign × List Char} (inner : ∀ t ∈ tokens, IsInner t) :
    ∀ t ∈ tokens ++ signTokens p, IsInner t :=
  List.forall_mem_append.2 ⟨inner, fun _ => isInner_of_mem⟩

theorem scans_white {all : List Token} (white : IsWhite b) (inner : ∀ t ∈ tokens, IsInner t)
    (h : Flows (b ++ rest) depth ready tokens s) (go : IsSkipped b → Scans fine all s) :
    Scans ('\t' ∉ b ∧ fine) all s := by
  by_cases tab : '\t' ∈ b
  · obtain ⟨w, r, rfl, skipped⟩ := white.exists_tab tab
    rw [List.append_assoc, List.cons_append] at h
    exact .of_stuck (h.stuck_tab skipped) inner (fun hf => hf.1 tab) all
  · exact .after (.refl s) (and_iff_right tab) (go (white.skipped tab))

/-- The scanner takes a sign and goes on with what stands behind it. -/
theorem Scans.cons {p : Sign × List Char} {l : List (Sign × List Char)}
    (unmarked : isMarked p.1.letters = false) (reached : Reaches s s')
    (h : Scans ('\t' ∉ p.2 ∧ ∀ q ∈ l, Fine q)
      (tokens ++ signTokens p ++ l.flatMap signTokens) s') :
    Scans (∀ q ∈ p :: l, Fine q) (tokens ++ (p :: l).flatMap signTokens) s := by
  rw [List.flatMap_cons, ← List.append_assoc]
  refine .after reached ?_ h
  rw [List.forall_mem_cons]
  exact and_congr_left fun _ => ⟨fun fine => fine.tab, fun tab => ⟨tab, unmarked⟩⟩

/-- The scanner takes the next signs, whatever white space there is. -/
def Taken (depth : Nat) (ready : Bool) (signs : List Sign) : Prop :=
  ∀ (l : List (Sign × List Char)) (b : List Char) (tokens : List Token) (s : Scanner),
    l.map (·.1) = signs → IsWhite b → (∀ p ∈ l, IsWhite p.2) → (∀ t ∈ tokens, IsInner t) →
    Flows (b ++ laid l) depth ready tokens s →
    Scans ('\t' ∉ b ∧ ∀ p ∈ l, Fine p) (tokens ++ l.flatMap signTokens) s

section Taken
variable {signs : List Sign} {sign : Sign} {ls : List Letter}

theorem taken_nil : Taken 0 ready [] := by
  intro l b tokens s spelled white whites inner h
  obtain rfl := List.map_eq_nil_iff.1 spelled
  refine scans_white white inner h fun skipped => ⟨fun _ => ?_, fun bad => absurd nofun bad⟩
  rw [laid, List.flatMap_nil, List.append_nil] at h
  obtain ⟨s', next, done⟩ := h.done skipped
  exact ⟨s, s', .refl s, h.running, next, by simpa using done⟩

theorem Taken.cons {depth' : Nat} {ready' : Bool} (plain : isMarked sign.letters = false)
    (step : ∀ {w b x : List Char} {tokens : List Token} {s : Scanner}, IsSkipped b →
      Flows (b ++ (sign.spelling ++ (w ++ x))) depth ready tokens s →
      ∃ s', Reaches s s' ∧ Flows (w ++ x) depth' ready' (tokens ++ signTokens (sign, w)) s')
    (h : Taken depth' ready' signs) : Taken depth ready (sign :: signs) := by
  intro l b tokens s spelled white whites inner flows
  obtain ⟨⟨_, w⟩, l, rfl, rfl, rest⟩ := List.map_eq_cons_iff.1 spelled
  obtain ⟨white', whites⟩ := List.forall_mem_cons.1 whites
  refine scans_white white inner flows fun skipped => ?_
  obtain ⟨s', reached, flows⟩ := step skipped (laid_cons _ l ▸ flows)
  exact .cons plain reached (h l w _ s' rest white' whites (inner_append inner) flows)

theorem Taken.opened (bracket : sign = .openObject ∨ sign = .openArray)
    (h : Taken (depth + 1) true signs) : Taken depth ready (sign :: signs) := by
  rcases bracket with rfl | rfl
  · exact h.cons rfl fun skipped flows => flows.opened .mapping skipped
  · exact h.cons rfl fun skipped flows => flows.opened .sequence skipped

theorem Taken.closed (bracket : sign = .closeObject ∨ sign = .closeArray)
    (h : Taken depth false signs) : Taken (depth + 1) ready (sign :: signs) := by
  rcases bracket with rfl | rfl
  · exact h.cons rfl fun skipped flows => flows.closed .mapping skipped
  · exact h.cons rfl fun skipped flows => flows.closed .sequence skipped

theorem Taken.comma (h : Taken depth true signs) : Taken depth ready (.comma :: signs) :=
  h.cons rfl fun skipped flows => flows.comma skipped

/-- The scanner is stuck at a string that breaks a line in front of a document mark. -/
theorem taken_marked (quoted : sign.spelling = '"' :: unquoted sign.letters)
    (marked : isMarked sign.letters = true) : Taken depth ready (sign :: signs) := by
  intro l b tokens s spelled white whites inner flows
  obtain ⟨p, l, rfl, rfl, rest⟩ := List.map_eq_cons_iff.1 spelled
  refine scans_white white inner flows fun skipped => ?_
  rw [laid_cons, quoted] at flows
  have read := readDouble_unquoted p.1.letters .none (p.2 ++ laid l)
  rw [if_pos marked] at read
  refine .of_stuck (flows.stuck_quoted skipped read) inner (fun fine => ?_) _
  exact absurd marked (by simpa using (fine _ List.mem_cons_self).unmarked)

theorem Taken.text (h : Taken depth false signs) : Taken depth ready (.text ls :: signs) := by
  by_cases marked : isMarked ls = true
  · exact taken_marked rfl marked
  · simp only [Bool.not_eq_true] at marked
    refine h.cons marked fun {w b x tokens s} skipped flows => flows.quoted skipped ?_
    rw [readDouble_unquoted, marked]
    rfl

theorem Taken.name (h : Taken (depth + 1) false signs) :
    Taken (depth + 1) true (.name ls :: .colon :: signs) := by
  by_cases marked : isMarked ls = true
  · exact taken_marked rfl marked
  intro l b tokens s spelled white whites inner flows
  obtain ⟨⟨_, w⟩, l, rfl, rfl, rest⟩ := List.map_eq_cons_iff.1 spelled
  obtain ⟨⟨_, w'⟩, l, rfl, rfl, rest'⟩ := List.map_eq_cons_iff.1 rest
  obtain ⟨white', whites⟩ := List.forall_mem_cons.1 whites
  refine scans_white white inner flows fun skipped => ?_
  let p : Sign × List Char := (.name ls, w)
  have read := readDouble_unquoted ls .none (w ++ (':' :: (w' ++ laid l)))
  rw [if_neg marked] at read
  rw [laid_cons, laid_cons] at flows
  by_cases tab : '\t' ∈ w
  · -- The scanner still takes the name.
    obtain ⟨s', reached, flows⟩ := flows.quoted skipped read
    obtain ⟨x, y, rfl, skipped'⟩ := white'.exists_tab tab
    rw [List.append_assoc] at flows
    refine .after reached Iff.rfl (.of_stuck (flows.stuck_tab skipped') ?_ (fun fine => ?_) _)
    · exact List.forall_mem_append.2 ⟨inner, by simp [IsInner, Yaml.Node.startsContent]⟩
    · exact (fine _ List.mem_cons_self).tab tab
  · obtain ⟨s', reached, flows⟩ := flows.key skipped (white'.skipped tab) read
    have tokens' : tokens ++ (keyMark ('"' :: (unquoted ls ++ w)) ++
        [.scalar false (String.ofList (flowed .none ls)), .value]) =
          tokens ++ signTokens (.name ls, w) ++ signTokens (.colon, w') := by
      simp [signTokens]
    rw [tokens'] at flows
    obtain ⟨white₂, whites⟩ := List.forall_mem_cons.1 whites
    have go := h l w' _ s' rest' white₂ whites (inner_append (inner_append inner)) flows
    have colon := Scans.cons (p := (.colon, w')) rfl (.refl s') go
    refine .cons (p := (.name ls, w)) (Bool.not_eq_true _ ▸ marked) reached ?_
    exact .after (.refl s') (and_iff_right tab) colon

theorem exists_mark_of_isStop (h : sign.isStop = true) :
    ∃ c, sign.spelling = [c] ∧ (c = ',' ∨ c = ']' ∨ c = '\x7d') := by
  cases sign with
  | comma | closeArray | closeObject => exact ⟨_, rfl, by simp⟩
  | _ => cases h

theorem Taken.literal {lit : Literal} (stop : sign.isStop = true)
    (h : Taken (depth + 1) false (sign :: signs)) :
    Taken (depth + 1) ready (.literal lit :: sign :: signs) := by
  intro l b tokens s spelled white whites inner flows
  obtain ⟨⟨_, w⟩, l, rfl, rfl, rest⟩ := List.map_eq_cons_iff.1 spelled
  obtain ⟨white', whites⟩ := List.forall_mem_cons.1 whites
  refine scans_white white inner flows fun skipped => ?_
  rw [laid_cons] at flows
  by_cases tab : '\t' ∈ w
  · -- The scanner still takes the word, and what is white up to the tab.
    obtain ⟨x, y, rfl, skipped'⟩ := white'.exists_tab tab
    rw [List.append_assoc, List.cons_append] at flows
    obtain ⟨s', reached, flows⟩ := flows.bare skipped lit.bare skipped' ⟨'\t', _, rfl, by simp⟩
    refine .after reached Iff.rfl (.of_stuck (flows.stuck_tab (w := []) nofun) ?_
      (fun fine => ?_) _)
    · exact List.forall_mem_append.2 ⟨inner, by simp [IsInner, Yaml.Node.startsContent]⟩
    · exact (fine _ List.mem_cons_self).tab tab
  · obtain ⟨p, l, rfl, rfl, -⟩ := List.map_eq_cons_iff.1 rest
    have halts : Halts (laid (p :: l)) := by
      obtain ⟨c, spelling, mark⟩ := exists_mark_of_isStop stop
      rw [laid_cons, spelling]
      exact ⟨c, _, rfl, by tauto⟩
    obtain ⟨s', reached, flows⟩ := flows.bare skipped lit.bare (white'.skipped tab) halts
    have go := h (p :: l) [] _ s' rest nofun whites (inner_append (p := (.literal lit, w)) inner)
      flows
    refine .cons (p := (.literal lit, w)) rfl reached (.after (.refl s') ?_ go)
    simp [tab]

end Taken

theorem scans_signs {signs : List Sign} (runs : Runs depth ready signs) :
    Taken depth ready signs := by
  induction runs with
  | done => exact taken_nil
  | opened bracket _ ih => exact ih.opened bracket
  | closed bracket _ ih => exact ih.closed bracket
  | comma _ ih => exact ih.comma
  | name _ ih => exact ih.name
  | text _ ih => exact ih.text
  | literal stop _ ih => exact ih.literal stop

end Scan

end CiWorkflow.Json
