import CiWorkflow.Proofs.Yaml.Plain
import CiWorkflow.Proofs.Yaml.Quoted
import CiWorkflow.Proofs.Yaml.Ready

set_option autoImplicit false

namespace CiWorkflow.Yaml

def leadingIndicators : List Char :=
  ['#', ',', '[', ']', '\x7b', '\x7d', '&', '*', '!', '|', '>', '\'', '"', '%', '@', '\x60']

theorem isLeadingIndicator_eq (c : Char) : isLeadingIndicator c = leadingIndicators.contains c :=
  rfl

theorem isIndicator_eq (c : Char) : oneOf "-?:,[]\x7b\x7d#&*!|>'\"%@\x60" c =
    ['-', '?', ':', ',', '[', ']', '\x7b', '\x7d', '#', '&', '*', '!', '|', '>', '\'', '"', '%',
      '@', '\x60'].contains c := rfl

section Styles
variable {s : String}

theorem writeText_plain (h : styleOf s.toList = .plain) (indent column : Nat) :
    writeText indent column s = foldPlain indent false column s.toList := by
  unfold writeText
  simp only [h]

theorem writeText_single (h : styleOf s.toList = .single) (indent column : Nat) :
    writeText indent column s =
      '\'' :: foldSingle indent none (column + 1) s.toList ++ ['\''] := by
  unfold writeText
  simp only [h]

theorem writeText_double (h : styleOf s.toList = .double) (indent column : Nat) :
    writeText indent column s =
      '"' :: foldDouble indent .start (column + 1) s.toList ++ ['"'] := by
  unfold writeText
  simp only [h]

end Styles

structure IsKey (k : String) : Prop where
  word : ∀ c ∈ k.toList, c.isAlphanum
  nonempty : k.toList ≠ []
  short : k.toList.length ≤ 1024
  str : Tag.ofPlain k.toList = .str

theorem hasMark_of_word {w : List Char} (hw : ∀ c ∈ w, c.isAlphanum) (p : Option Char) :
    hasMark p w = false := by
  induction w generalizing p with
  | nil => rfl
  | cons c r ih =>
    obtain ⟨-, -, colon, hash⟩ := isPlainAscii_of_isAlphanum (hw c List.mem_cons_self)
    have more := ih (fun d hd => hw d (List.mem_cons_of_mem _ hd)) (some c)
    simp [hasMark, colon, hash, more]

theorem stands_of_word {w : List Char} (hw : ∀ c ∈ w, c.isAlphanum) (nonempty : w ≠ []) :
    Stands w where
  nonempty := nonempty
  inline c hc := isInline_of_isPlainAscii (isPlainAscii_of_isAlphanum (hw c hc)).1
  head h := absurd (hw _ (List.mem_of_head? h)) (by decide)
  last h := absurd (hw _ (List.mem_of_getLast? h)) (by decide)
  start := by
    obtain ⟨c, r, rfl⟩ := List.exists_cons_of_ne_nil nonempty
    have word := hw c List.mem_cons_self
    let special := '?' :: ':' :: '-' :: leadingIndicators
    have symbols : special.all (fun d => !d.isAlphanum) = true := by decide
    have other (d : Char) (hd : d ∈ special) : c ≠ d := by
      rintro rfl
      have symbol := List.all_eq_true.1 symbols c hd
      simp [word] at symbol
    have leading : c ∉ leadingIndicators := fun mem => other c (by simp [special, mem]) rfl
    simp [startsBadly, isLeadingIndicator_eq, leading, other '?' (by decide), other ':' (by decide),
      other '-' (by decide)]
  mark := hasMark_of_word hw none

theorem isMarker_of_word {w : List Char} (hw : ∀ c ∈ w, c.isAlphanum) : isMarker w = false := by
  cases w with
  | nil => rfl
  | cons c r =>
    have word := hw c List.mem_cons_self
    have dash : c ≠ '-' := by
      rintro rfl
      exact absurd word (by decide)
    have dot : c ≠ '.' := by
      rintro rfl
      exact absurd word (by decide)
    simp [isMarker, List.isPrefixOf, dash.symm, dot.symm]

theorem atMarker_append {cs : List Char} (h : isMarker cs = false) {d : Char} (dash : d ≠ '-')
    (dot : d ≠ '.') (x : List Char) : atMarker (cs ++ d :: x) = false := by
  have no_mark {e : Char} (other : d ≠ e) {y : List Char} (same : cs ++ d :: x = e :: e :: e :: y) :
      [e, e, e].isPrefixOf cs = true := by
    match cs with
    | [] => exact absurd (List.cons.inj same).1 other
    | [a] => simp_all
    | [a, b] => simp_all
    | a :: b :: c :: r => simp_all
  obtain ⟨dashes, dots⟩ := Bool.or_eq_false_iff.1 h
  unfold atMarker
  split
  next e => exact absurd ((no_mark dash e).symm.trans dashes) (by decide)
  next e => exact absurd ((no_mark dot e).symm.trans dots) (by decide)
  next => rfl

theorem IsKey.stands {k : String} (h : IsKey k) : Stands k.toList :=
  stands_of_word h.word h.nonempty

theorem IsKey.marker {k : String} (h : IsKey k) : isMarker k.toList = false :=
  isMarker_of_word h.word

namespace Scanner
variable {p : Cursor} {margins : List Nat} {k : Option Candidate} {allowed after : Bool}
  {tokens : List Token} {index line column : Nat} {rest : List Char}

@[simp] theorem block_cursor : (block p margins k allowed tokens).cursor = p := rfl

@[simp] theorem block_inFlow : (block p margins k allowed tokens).inFlow = false := rfl

@[simp] theorem block_keyAllowed : (block p margins k allowed tokens).keyAllowed = allowed := rfl

@[simp] theorem dropCandidate_block : (block p margins none allowed tokens).dropCandidate =
    .ok (block p margins none allowed tokens) := rfl

variable (p margins k allowed after tokens) in
@[simp] theorem push_moveTo_block (t : Token) (r : List Char) :
    { ((block p margins k allowed tokens).push t).moveTo r with keyAllowed := after } =
      block (p.moveTo r) margins k after (tokens ++ [t]) := by
  simp [push, moveTo, block]

def candidate (p : Cursor) (margins : List Nat) (allowed : Bool) (tokens : List Token) :
    Option Candidate :=
  if allowed then some ⟨tokens.length, margins.headD 0 == p.column + 1, p.index, p.line, p.column⟩
  else none

theorem saveCandidate_block : (block p margins none allowed tokens).saveCandidate =
    .ok (block p margins (candidate p margins allowed tokens) allowed tokens) := by
  cases allowed <;> rfl

theorem node_block (t : Token) (rest : List Char) :
    (block p margins none allowed tokens).node (.ok (t, rest)) =
      .ok (block (p.moveTo rest) margins (candidate p margins allowed tokens) false
        (tokens ++ [t])) := by
  rw [node, saveCandidate_block]
  simp [bind, Except.bind, pure, Except.pure, push, moveTo, block]

variable (p allowed tokens) in
theorem plainScalar_block {text rest : List Char} {crossed : Bool}
    (h : readPlain false (margins.headD 0) .none 0 p.rest = ⟨text, crossed, rest⟩) :
    (block p margins none allowed tokens).plainScalar =
      .ok (block (p.moveTo rest) margins (candidate p margins allowed tokens) crossed
        (tokens ++ [.scalar true (String.ofList text)])) := by
  rw [plainScalar, saveCandidate_block]
  have read : readPlain
      (block p margins (candidate p margins allowed tokens) allowed tokens).inFlow
      (block p margins (candidate p margins allowed tokens) allowed tokens).margin .none 0
      (block p margins (candidate p margins allowed tokens) allowed tokens).cursor.rest =
      ⟨text, crossed, rest⟩ := h
  simp only [bind, Except.bind, pure, Except.pure, read]
  simp [push, moveTo, block]

theorem atMarker_of_atGap {c : Char} {r : List Char} (h : atGap r) : atMarker (c :: r) = false := by
  unfold atMarker
  split
  next e =>
    obtain ⟨-, rfl⟩ := List.cons.inj e
    exact absurd h (by simp [atGap, isGap, isSpace, isBreak])
  next e =>
    obtain ⟨-, rfl⟩ := List.cons.inj e
    exact absurd h (by simp [atGap, isGap, isSpace, isBreak])
  next => rfl

theorem readToken_entry {r : List Char} (h : atGap r) :
    (block ⟨'-' :: r, index, line, column⟩ margins k allowed tokens).readToken =
      (block ⟨'-' :: r, index, line, column⟩ margins k allowed tokens).blockMark
        .blockSequence .entry true r := by
  simp [readToken, block, atMarker_of_atGap h, h]

theorem readToken_single (r : List Char) :
    (block ⟨'\'' :: r, index, line, column⟩ margins k allowed tokens).readToken =
      (block ⟨'\'' :: r, index, line, column⟩ margins k allowed tokens).node
        (scalar (readSingle .none r)) := rfl

theorem readToken_double (r : List Char) :
    (block ⟨'"' :: r, index, line, column⟩ margins k allowed tokens).readToken =
      (block ⟨'"' :: r, index, line, column⟩ margins k allowed tokens).node
        (scalar (readDouble .text .none r)) := rfl

theorem readToken_colon {r : List Char} (h : atGap r) :
    (block ⟨':' :: r, index, line, column⟩ margins k allowed tokens).readToken =
      (block ⟨':' :: r, index, line, column⟩ margins k allowed tokens).valueMark r := by
  simp [readToken, block, h]

structure PlainStart (c : Char) (r : List Char) : Prop where
  inline : IsInline c
  space : c ≠ ' '
  indicator : isLeadingIndicator c = false
  mark : c = '?' ∨ c = ':' ∨ c = '-' → atGap r = false

theorem plainStart_of_stands {c : Char} {r : List Char} (h : Stands (c :: r))
    (tail : List Char) : PlainStart c (r ++ tail) := by
  obtain ⟨indicator, special⟩ := Bool.or_eq_false_iff.1 h.start
  refine ⟨h.inline c List.mem_cons_self, fun space => h.head (by rw [space]; rfl), indicator,
    fun mark => atGap_append ?_ tail⟩
  rcases mark with rfl | rfl | rfl <;> exact special

theorem PlainStart.starts {c : Char} {r : List Char} (h : PlainStart c r) : Starts (c :: r) := by
  rintro d r' e
  obtain ⟨rfl, -⟩ := List.cons.inj e
  refine ⟨h.inline, h.space, ?_⟩
  rintro rfl
  exact absurd h.indicator (by decide)

theorem readToken_plain {c : Char} {r : List Char} (h : PlainStart c r)
    (marker : column = 0 → atMarker (c :: r) = false) :
    (block ⟨c :: r, index, line, column⟩ margins k allowed tokens).readToken =
      (block ⟨c :: r, index, line, column⟩ margins k allowed tokens).plainScalar := by
  have indicator := h.indicator
  simp [isLeadingIndicator_eq, leadingIndicators] at indicator
  have document (d : Char) : ¬ ((c = d ∧ column = 0) ∧ atMarker (c :: r) = true) :=
    fun ⟨⟨_, first⟩, marked⟩ => absurd (marker first) (by simp [marked])
  by_cases special : c = '?' ∨ c = ':' ∨ c = '-'
  · have gap := h.mark special
    have starts : startsPlain false c r = true := by
      rcases special with rfl | rfl | rfl <;> simp [startsPlain, gap]
    simp [readToken, document, indicator, gap, starts]
  · simp only [not_or] at special
    have starts : startsPlain false c r = true := by
      simp [startsPlain, isIndicator_eq, indicator, special, h.inline.isGap h.space]
    simp [readToken, indicator, special, starts, document]

def enter (column : Nat) (margins : List Nat) : List Nat :=
  if margins.headD 0 < column + 1 then (column + 1) :: margins else margins

/-- What opens the collection, unless it is open already. -/
def opening (column : Nat) (t : Token) (margins : List Nat) : List Token :=
  if margins.headD 0 < column + 1 then [t] else []

theorem insertIdx_append (t : Token) (a b : List Token) :
    (a ++ b).insertIdx a.length t = a ++ t :: b := by
  induction a with
  | nil => rfl
  | cons x a ih => rw [List.cons_append, List.length_cons, List.insertIdx_succ_cons, ih]; rfl

variable (p margins k allowed tokens column) in
theorem openBlock_block (t : Token) (later : List Token) :
    (block p margins k allowed (tokens ++ later)).openBlock column t tokens.length =
      block p (enter column margins) k allowed (tokens ++ opening column t margins ++ later) := by
  by_cases h : margins.headD 0 < column + 1
  · have lower : (block p margins k allowed (tokens ++ later)).margin < column + 1 := h
    rw [openBlock, if_pos lower, enter, opening, if_pos h, if_pos h]
    simp [block, insertIdx_append]
  · have lower : ¬ (block p margins k allowed (tokens ++ later)).margin < column + 1 := h
    rw [openBlock, if_neg lower, enter, opening, if_neg h, if_neg h, List.append_nil]

variable (p margins tokens) in
theorem blockMark_block (collection t : Token) (after : Bool) (r : List Char) :
    (block p margins none true tokens).blockMark collection t after r =
      .ok (block (p.moveTo r) (enter p.column margins) none after
        (tokens ++ opening p.column collection margins ++ [t])) := by
  have opened := openBlock_block p margins none true tokens p.column collection []
  simp only [List.append_nil] at opened
  have size : (block p margins none true tokens).tokens.size = tokens.length := rfl
  simp [blockMark, size, opened, bind, Except.bind, pure, Except.pure]

theorem free_candidate {p : Cursor} (h : allowed = true → margins.headD 0 ≠ p.column + 1) :
    ∀ q ∈ candidate p margins allowed tokens,
      q.required = false ∧ q.line = p.line ∧ q.index = p.index := by
  intro q hq
  cases allowed with
  | false => cases hq
  | true =>
    obtain rfl := Option.some.inj hq
    exact ⟨by simpa using h rfl, rfl, rfl⟩

section Scalars
variable {s : Scanner} {w : List Char} {n : Nat}

theorem Ready.token {t : Token} {z : List Char} {empty : Nat} (trail : IsTrail z)
    (h : Ready (w ++ (z ++ (nextLine empty n ++ rest))) column margins allowed tokens s)
    (read : ∀ index line, (block ⟨w ++ (z ++ (nextLine empty n ++ rest)), index, line, column⟩
      margins none allowed tokens).readToken =
        .ok (block (Cursor.moveTo (z ++ (nextLine empty n ++ rest))
          ⟨w ++ (z ++ (nextLine empty n ++ rest)), index, line, column⟩) margins
          (candidate ⟨w ++ (z ++ (nextLine empty n ++ rest)), index, line, column⟩ margins allowed
            tokens) false (tokens ++ [t])))
    (nonempty : w ≠ []) (inside : margins.headD 0 ≤ column + 1)
    (free : allowed = true → margins.headD 0 ≠ column + 1) (next : Starts rest) :
    ∃ s', Reaches s s' ∧ Ready rest n margins true (tokens ++ [t]) s' := by
  obtain ⟨index, line, reaches⟩ := h.read inside
  obtain ⟨line', column', later, moved⟩ :=
    Cursor.advance_text w (z ++ (nextLine empty n ++ rest)) index line column
  have token := read index line
  rw [Cursor.moveTo_eq, moved] at token
  refine ⟨_, reaches _ token ?_, ready_trail trail next empty n fun q hq => ?_⟩
  · have longer := List.length_pos_iff.2 nonempty
    simp
    omega
  · obtain ⟨optional, same, -⟩ := free_candidate free q hq
    exact ⟨optional, same ▸ later⟩

theorem Ready.quoted {t : Token} {empty : Nat}
    (h : Ready (w ++ (nextLine empty n ++ rest)) column margins allowed tokens s)
    (read : ∀ index line, (block ⟨w ++ (nextLine empty n ++ rest), index, line, column⟩ margins none
      allowed tokens).readToken = (block ⟨w ++ (nextLine empty n ++ rest), index, line, column⟩
      margins none allowed tokens).node (.ok (t, nextLine empty n ++ rest)))
    (nonempty : w ≠ []) (inside : margins.headD 0 ≤ column + 1)
    (free : allowed = true → margins.headD 0 ≠ column + 1) (next : Starts rest) :
    ∃ s', Reaches s s' ∧ Ready rest n margins true (tokens ++ [t]) s' :=
  Ready.token .nothing h (fun index line => (read index line).trans (node_block _ _)) nonempty
    inside free next

theorem Ready.plain {text : List Char} {empty : Nat} {c : Char} {r : List Char}
    (h : Ready (w ++ (nextLine empty n ++ rest)) column margins allowed tokens s)
    (start : PlainStart c r) (first : w ++ (nextLine empty n ++ rest) = c :: r)
    (marker : column = 0 → atMarker (c :: r) = false)
    (read : readPlain false (margins.headD 0) .none 0 (w ++ (nextLine empty n ++ rest)) =
      ⟨text, true, rest⟩)
    (inside : margins.headD 0 ≤ column + 1)
    (free : allowed = true → margins.headD 0 ≠ column + 1) (next : Starts rest) :
    ∃ s', Reaches s s' ∧
      Ready rest n margins true (tokens ++ [.scalar true (String.ofList text)]) s' := by
  obtain ⟨index, line, reaches⟩ := h.read inside
  obtain ⟨index', line', later, moved⟩ := Cursor.moveTo_nextLine w rest empty n index line column
  have token := plainScalar_block ⟨w ++ (nextLine empty n ++ rest), index, line, column⟩
    allowed tokens read
  rw [moved] at token
  refine ⟨_, reaches _ (Eq.trans ?_ token) ?_, ready_crossed next fun q hq => ?_⟩
  · rw [first]
    exact readToken_plain start marker
  · simp [nextLine]
    omega
  · obtain ⟨optional, same, -⟩ := free_candidate free q hq
    exact ⟨optional, same ▸ later⟩

section Standing
variable {cs : List Char} (stands : Stands cs) {empty : Nat}
include stands

theorem readToken_stands {tail : List Char}
    (marker : column = 0 → atMarker (cs ++ tail) = false) :
    (block ⟨cs ++ tail, index, line, column⟩ margins k allowed tokens).readToken =
      (block ⟨cs ++ tail, index, line, column⟩ margins k allowed tokens).plainScalar := by
  obtain ⟨c, r, rfl⟩ := List.exists_cons_of_ne_nil stands.nonempty
  exact readToken_plain (plainStart_of_stands stands tail) marker

/-- A text that stands as it is, up to the start of another line. -/
theorem Ready.standing
    (h : Ready (cs ++ (nextLine empty n ++ rest)) column margins allowed tokens s)
    (right : column ≠ 0) (left : n < margins.headD 0) (inside : margins.headD 0 ≤ column + 1)
    (free : allowed = true → margins.headD 0 ≠ column + 1) (next : Resumes rest) :
    ∃ s', Reaches s s' ∧
      Ready rest n margins true (tokens ++ [.scalar true (String.ofList cs)]) s' := by
  have read := stands.readPlain fun column => readPlain_end left next empty .none column
  obtain ⟨c, r, rfl⟩ := List.exists_cons_of_ne_nil stands.nonempty
  exact h.plain (plainStart_of_stands stands _) rfl (absurd · right) read inside free next.start

/-- A text that stands in front of a comment, up to the start of another line. -/
theorem Ready.commented {m : Nat} {z : List Char} (comment : ∀ c ∈ z, IsInline c)
    (h : Ready (cs ++ spaces (m + 1) ++ ('#' :: z ++ (nextLine empty n ++ rest))) column margins
      allowed tokens s)
    (right : column ≠ 0) (inside : margins.headD 0 ≤ column + 1)
    (free : allowed = true → margins.headD 0 ≠ column + 1) (next : Starts rest) :
    ∃ s', Reaches s s' ∧
      Ready rest n margins true (tokens ++ [.scalar true (String.ofList cs)]) s' := by
  refine Ready.token (.comment comment) h (fun index line => ?_) (by simp [spaces]) inside free next
  have read := stands.readPlain fun column =>
    readPlain_comment (margins.headD 0) column m (z ++ (nextLine empty n ++ rest))
  rw [← List.append_assoc] at read
  refine Eq.trans ?_ (plainScalar_block _ allowed tokens read)
  rw [List.append_assoc]
  exact readToken_stands stands (absurd · right)

end Standing

/-- The scanner stands right behind an entry mark or the mark of a key. -/
def Behind (rest : List Char) (column : Nat) (margins : List Nat) (allowed : Bool)
    (tokens : List Token) (s : Scanner) : Prop :=
  ∃ index line, s = block ⟨rest, index, line, column⟩ margins none allowed tokens

theorem Behind.inline {x : List Char} (h : Behind (' ' :: x) column margins allowed tokens s)
    (start : Starts x) : Ready x (column + 1) margins allowed tokens s := by
  obtain ⟨index, line, rfl⟩ := h
  exact ready_inline start 1

theorem Behind.below {x : List Char} {empty : Nat}
    (h : Behind (nextLine empty n ++ x) column margins allowed tokens s) (start : Starts x) :
    Ready x n margins true tokens s := by
  obtain ⟨index, line, rfl⟩ := h
  exact ready_trail .nothing start empty n nofun

/-- An entry mark, in a sequence that it opens or that is open already. -/
theorem Ready.mark {x : List Char} (gap : atGap x)
    (h : Ready ('-' :: x) column margins true tokens s) (inside : margins.headD 0 ≤ column + 1) :
    ∃ s', Reaches s s' ∧ Behind x (column + 1) (enter column margins) true
      (tokens ++ opening column .blockSequence margins ++ [.entry]) s' := by
  obtain ⟨index, line, reaches⟩ := h.read inside
  have moved : Cursor.moveTo x ⟨'-' :: x, index, line, column⟩ =
      ⟨x, index + 1, line, column + 1⟩ := Cursor.moveTo_char (by decide) _ _ _ _
  have token := blockMark_block ⟨'-' :: x, index, line, column⟩ margins tokens
    .blockSequence .entry true x
  rw [← readToken_entry gap, moved] at token
  exact ⟨_, reaches _ token (by simp), _, _, rfl⟩

theorem Ready.entry {x : List Char} (h : Ready ('-' :: ' ' :: x) column margins true tokens s)
    (inside : margins.headD 0 ≤ column + 1) (next : Starts x) :
    ∃ s', Reaches s s' ∧ Ready x (column + 2) (enter column margins) true
      (tokens ++ opening column .blockSequence margins ++ [.entry]) s' := by
  obtain ⟨s', reached, behind⟩ := h.mark rfl inside
  exact ⟨s', reached, behind.inline next⟩

theorem Reaches.single {s s' : Scanner} (running : s.finished = false) (next : s.next = .ok s')
    (shorter : s'.cursor.rest.length < s.cursor.rest.length) : Reaches s s' := by
  refine ⟨1, by omega, fun fuel => ?_⟩
  rw [Nat.add_comm, run]
  simp [running, next]

variable (p margins allowed tokens) in
theorem valueMark_block {q : Candidate} (later : List Token) (x : List Char)
    (hq : q.token = tokens.length) :
    (block p margins (some q) allowed (tokens ++ later)).valueMark x =
      .ok (block (p.moveTo x) (enter q.column margins) none false
        (tokens ++ opening q.column .blockMapping margins ++ .key :: later ++ [.value])) := by
  have key : { block p margins (some q) allowed (tokens ++ later) with
      candidates := [none]
      tokens := (tokens ++ later).toArray.insertIdxIfInBounds q.token .key } =
        block p margins none allowed (tokens ++ .key :: later) := by
    simp [block, hq, insertIdx_append]
  have opened := openBlock_block p margins none allowed tokens q.column .blockMapping
    (.key :: later)
  rw [← key, ← hq] at opened
  have pushed := push_moveTo_block p (enter q.column margins) none allowed false
    (tokens ++ opening q.column .blockMapping margins ++ .key :: later) .value x
  rw [← opened] at pushed
  exact congrArg Except.ok pushed

/-- A key and its mark, in a mapping that it opens or that is open already. -/
theorem Ready.key {k : String} (stands : Stands k.toList) (short : k.toList.length ≤ 1024)
    (marker : isMarker k.toList = false) {x : List Char} (gap : atGap x)
    (h : Ready (k.toList ++ ':' :: x) column margins true tokens s)
    (inside : margins.headD 0 ≤ column + 1) :
    ∃ s', Reaches s s' ∧ Behind x (column + k.toList.length + 1) (enter column margins) false
      (tokens ++ opening column .blockMapping margins ++ [.key, .scalar true k, .value]) s' := by
  obtain ⟨index, line, reaches⟩ := h.read inside
  obtain ⟨c, w, first⟩ := List.exists_cons_of_ne_nil stands.nonempty
  have read : readPlain false (margins.headD 0) .none 0 (k.toList ++ ':' :: x) =
      ⟨k.toList, false, ':' :: x⟩ := stands.readPlain fun column => readPlain_colon _ column gap
  have moved : Cursor.moveTo (':' :: x) ⟨k.toList ++ ':' :: x, index, line, column⟩ =
      ⟨':' :: x, index + k.toList.length, line, column + k.toList.length⟩ :=
    Cursor.moveTo_inline stands.inline _ _ _ _
  have scalar := plainScalar_block ⟨k.toList ++ ':' :: x, index, line, column⟩ true tokens read
  rw [moved, String.ofList_toList] at scalar
  let q : Candidate := ⟨tokens.length, margins.headD 0 == column + 1, index, line, column⟩
  have reached : Reaches s (block ⟨':' :: x, index + k.toList.length, line,
      column + k.toList.length⟩ margins (some q) false (tokens ++ [.scalar true k])) := by
    refine reaches _ (Eq.trans ?_ scalar) ?_
    · have start := plainStart_of_stands (first ▸ stands) (':' :: x)
      have document := atMarker_append marker (by decide : ':' ≠ '-') (by decide) x
      rw [first] at document ⊢
      exact readToken_plain start fun _ => document
    · have longer := List.length_pos_iff.2 stands.nonempty
      simp
      omega
  have after : Cursor.moveTo x ⟨':' :: x, index + k.toList.length, line,
      column + k.toList.length⟩ = ⟨x, index + k.toList.length + 1, line,
        column + k.toList.length + 1⟩ := Cursor.moveTo_char (by decide) _ _ _ _
  have starts : Starts (':' :: x) := by
    rintro d r e
    obtain ⟨rfl, -⟩ := List.cons.inj e
    decide
  have near : index + k.toList.length - q.index ≤ 1024 := by simp [q, short]
  have right : margins.headD 0 ≤ column + k.toList.length + 1 := by omega
  have prepared := prepare_fresh margins false (tokens ++ [.scalar true k]) starts near right
  have marked := valueMark_block ⟨':' :: x, index + k.toList.length, line,
    column + k.toList.length⟩ margins false tokens [.scalar true k] x (Eq.refl q.token)
  rw [after, ← readToken_colon gap, List.append_assoc] at marked
  refine ⟨_, reached.trans (Reaches.single rfl ?_ ?_), index + k.toList.length + 1, line, rfl⟩
  · rw [Scanner.next, prepared]
    exact marked
  · simp

def bracket (p : Cursor) (margins : List Nat) (k : Option Candidate) (tokens : List Token) :
    Scanner where
  cursor := p
  margins := margins
  candidates := [none, k]
  keyAllowed := true
  tokens := tokens.toArray
  finished := false

variable (p margins allowed tokens) in
theorem openFlow_block (t : Token) (r : List Char) :
    (block p margins none allowed tokens).openFlow t r =
      .ok (bracket (p.moveTo r) margins (candidate p margins allowed tokens) (tokens ++ [t])) := by
  rw [openFlow, saveCandidate_block]
  simp [bind, Except.bind, pure, Except.pure, push, moveTo, block, bracket]

variable (p margins k tokens) in
theorem closeFlow_bracket (t : Token) (r : List Char) :
    (bracket p margins k tokens).closeFlow t r =
      .ok (block (p.moveTo r) margins k false (tokens ++ [t])) := by
  have flow : (bracket p margins k tokens).inFlow = true := rfl
  have drop : (bracket p margins k tokens).dropCandidate = .ok (bracket p margins k tokens) := rfl
  rw [closeFlow, flow, drop]
  simp [bind, Except.bind, pure, Except.pure, push, moveTo, block, bracket]

theorem prepare_bracket {c : Char} {r : List Char} (start : IsInline c ∧ c ≠ ' ' ∧ c ≠ '#')
    (fresh : ∀ q ∈ k, isStale ⟨c :: r, index, line, column⟩ q = false) :
    (bracket ⟨c :: r, index, line, column⟩ margins k tokens).prepare =
      .ok (bracket ⟨c :: r, index, line, column⟩ margins k tokens) := by
  have skip : skipToToken false false (c :: r) = (false, c :: r) := by
    simp [skipToToken, start.1.line, start.2.1, start.2.2]
  have blank : (bracket ⟨c :: r, index, line, column⟩ margins k tokens).skipBlank =
      bracket ⟨c :: r, index, line, column⟩ margins k tokens := by
    simp [skipBlank, bracket, skip, start.1.wide, moveTo, Cursor.moveTo, Cursor.advance]
  have drop : (bracket ⟨c :: r, index, line, column⟩ margins k tokens).dropStale =
      .ok (bracket ⟨c :: r, index, line, column⟩ margins k tokens) := by
    cases k with
    | none => rfl
    | some q => simp [dropStale, bracket, fresh q rfl]
  rw [prepare, blank, drop]
  rfl

inductive Brackets : Char → Char → Token → Token → Prop
  | sequence : Brackets '[' ']' .openSequence .closeSequence
  | mapping : Brackets '\x7b' '\x7d' .openMapping .closeMapping

section Brackets
variable {a b : Char} {t t' : Token} (h : Brackets a b t t')
include h

theorem Brackets.inline : IsInline a ∧ IsInline b ∧ b ≠ ' ' ∧ b ≠ '#' := by
  cases h <;> decide

theorem Brackets.readToken_open (r : List Char) :
    (block ⟨a :: r, index, line, column⟩ margins k allowed tokens).readToken =
      (block ⟨a :: r, index, line, column⟩ margins k allowed tokens).openFlow t r := by
  cases h <;> rfl

theorem Brackets.readToken_close (r : List Char) :
    (bracket ⟨b :: r, index, line, column⟩ margins k tokens).readToken =
      (bracket ⟨b :: r, index, line, column⟩ margins k tokens).closeFlow t' r := by
  cases h <;> rfl

end Brackets

theorem Ready.pair {a b : Char} {t t' : Token} (brackets : Brackets a b t t')
    (h : Ready (a :: b :: '\n' :: (spaces n ++ rest)) column margins allowed tokens s)
    (inside : margins.headD 0 ≤ column + 1)
    (free : allowed = true → margins.headD 0 ≠ column + 1) (next : Starts rest) :
    ∃ s', Reaches s s' ∧ Ready rest n margins true (tokens ++ [t, t']) s' := by
  obtain ⟨index, line, reaches⟩ := h.read inside
  obtain ⟨inline, inline', start⟩ := brackets.inline
  let p : Cursor := ⟨a :: b :: '\n' :: (spaces n ++ rest), index, line, column⟩
  let p₁ : Cursor := ⟨b :: '\n' :: (spaces n ++ rest), index + 1, line, column + 1⟩
  let p₂ : Cursor := ⟨'\n' :: (spaces n ++ rest), index + 2, line, column + 2⟩
  let k := candidate p margins allowed tokens
  have waits : ∀ q ∈ k, q.required = false ∧ q.line = line ∧ q.index = index :=
    free_candidate free
  have first : (block p margins none allowed tokens).readToken =
      .ok (bracket p₁ margins k (tokens ++ [t])) := by
    rw [brackets.readToken_open, openFlow_block, Cursor.moveTo_char inline]
  have prepared : (bracket p₁ margins k (tokens ++ [t])).prepare =
      .ok (bracket p₁ margins k (tokens ++ [t])) := by
    refine prepare_bracket ⟨inline', start⟩ fun q hq => ?_
    obtain ⟨-, same, near⟩ := waits q hq
    simp [isStale, same, near]
  have second : (bracket p₁ margins k (tokens ++ [t])).readToken =
      .ok (block p₂ margins k false (tokens ++ [t, t'])) := by
    rw [brackets.readToken_close, closeFlow_bracket, Cursor.moveTo_char inline', List.append_assoc]
    rfl
  have next₁ : (bracket p₁ margins k (tokens ++ [t])).next =
      .ok (block p₂ margins k false (tokens ++ [t, t'])) := by
    rw [Scanner.next, prepared]
    exact second
  refine ⟨_, (reaches _ first (Nat.lt_succ_self _)).trans
    (Reaches.single rfl next₁ (Nat.lt_succ_self _)), ?_⟩
  exact ready_line next n fun q hq => ⟨(waits q hq).1, Nat.le_of_eq (waits q hq).2.1⟩

theorem plainStart_of_isPlain {c : Char} {r : List Char} (h : isPlain (c :: r))
    (indent width : Nat) (x : List Char) : ∃ y, PlainStart c y ∧
      foldPlain indent false width (c :: r) ++ '\n' :: x = c :: y := by
  have start := plainStart_of_stands (stands_of_isPlain h).1 []
  rw [List.append_nil] at start
  have fold : foldPlain indent false width (c :: r) ++ '\n' :: x =
      c :: (foldPlain indent (c == ' ') (width + 1) r ++ '\n' :: x) := by
    simp [foldPlain, start.space]
  refine ⟨_, ⟨start.inline, start.space, start.indicator, fun mark => ?_⟩, fold⟩
  rw [atGap_foldPlain, start.mark mark]

theorem readToken_text_single {text : String} (hs : styleOf text.toList = .single) {indent : Nat}
    (hi : indent ≠ 0) (width index line : Nat) (r : List Char) :
    let p : Cursor := ⟨writeText indent width text ++ '\n' :: r, index, line, column⟩
    (block p margins none allowed tokens).readToken =
      (block p margins none allowed tokens).node (.ok (.scalar false text, '\n' :: r)) := by
  intro p
  have read := readSingle_foldSingle hi ('\n' :: r) (by simp) (p := none) (g := .none)
    (.none (by simp) (by simp)) (single_of_styleOf hs) (width + 1)
  simp only [p]
  rw [writeText_single hs, List.append_assoc, List.cons_append, List.singleton_append,
    readToken_single, read]
  simp [scalar, Except.map, Gap.text]

theorem readToken_text_double {text : String} (hs : styleOf text.toList = .double) {indent : Nat}
    (hi : indent ≠ 0) (small : indent < lineWidth) (width index line : Nat) (r : List Char) :
    let p : Cursor := ⟨writeText indent width text ++ '\n' :: r, index, line, column⟩
    (block p margins none allowed tokens).readToken =
      (block p margins none allowed tokens).node (.ok (.scalar false text, '\n' :: r)) := by
  intro p
  have read := readDouble_foldDouble hi small ('\n' :: r) text.toList .none .start (width + 1)
    fun _ => rfl
  simp only [p]
  rw [writeText_double hs, List.append_assoc, List.cons_append, List.singleton_append,
    readToken_double, read]
  simp [scalar, Except.map, Gap.text]

theorem Ready.text_plain {text : String} (hs : styleOf text.toList = .plain) {indent width : Nat}
    (h : Ready (writeText indent width text ++ '\n' :: (spaces n ++ rest)) column margins allowed
      tokens s)
    (hi : indent ≠ 0) (deep : margins.headD 0 ≤ indent) (left : n < margins.headD 0)
    (inside : margins.headD 0 ≤ column + 1)
    (free : allowed = true → margins.headD 0 ≠ column + 1) (next : Resumes rest) :
    ∃ s', Reaches s s' ∧ Ready rest n margins true (tokens ++ [.scalar true text]) s' := by
  rw [writeText_plain hs] at h
  have plain := (plain_of_styleOf hs).1
  obtain ⟨c, r, first⟩ : ∃ c r, text.toList = c :: r := by
    cases ht : text.toList with
    | nil => exact absurd (ht ▸ plain) (by decide)
    | cons c r => exact ⟨c, r, rfl⟩
  obtain ⟨y, start, fold⟩ := plainStart_of_isPlain (first ▸ plain) indent width (spaces n ++ rest)
  rw [← first] at fold
  have read := readPlain_foldPlain hi deep left next (p := none) (g := .none)
    (.none (by simp) (by simp)) (stands_of_isPlain plain).1.tail (by simp) 0 width nofun
  have marker := atMarker_foldPlain (stands_of_isPlain plain).2.2 indent width false
    (spaces n ++ rest)
  rw [← nextLine_zero_append] at h fold read
  have scanned := h.plain start fold (fun _ => fold ▸ marker) read inside free next.start
  simpa [Gap.text] using scanned

/-- A text, up to the start of another line that stands left of its margin. -/
theorem Ready.text {text : String} {indent width : Nat}
    (h : Ready (writeText indent width text ++ '\n' :: (spaces n ++ rest)) column margins allowed
      tokens s)
    (hi : indent ≠ 0) (small : indent < lineWidth) (deep : margins.headD 0 ≤ indent)
    (left : n < margins.headD 0) (inside : margins.headD 0 ≤ column + 1)
    (free : allowed = true → margins.headD 0 ≠ column + 1) (next : Resumes rest) :
    ∃ s', Reaches s s' ∧ Ready rest n margins true
      (tokens ++ [.scalar (styleOf text.toList == .plain) text]) s' := by
  cases hs : styleOf text.toList with
  | plain => exact Ready.text_plain hs h hi deep left inside free next
  | single =>
    have nonempty : writeText indent width text ≠ [] := by simp [writeText_single hs]
    rw [← nextLine_zero_append] at h
    exact h.quoted (fun index line => readToken_text_single hs hi width index line _) nonempty
      inside free next.start
  | double =>
    have nonempty : writeText indent width text ≠ [] := by simp [writeText_double hs]
    rw [← nextLine_zero_append] at h
    exact h.quoted (fun index line => readToken_text_double hs hi small width index line _)
      nonempty inside free next.start

end Scalars

end Scanner

end CiWorkflow.Yaml
