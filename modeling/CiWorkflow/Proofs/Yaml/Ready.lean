import CiWorkflow.Proofs.Yaml.Gap
import CiWorkflow.Yaml.Scanner

/-! A scanner between two tokens of block style: where it stands once it has gone on to the next
token, and how it comes from one such place to another. -/

set_option autoImplicit false

namespace CiWorkflow.Yaml

namespace Cursor

theorem advance_inline {w : List Char} (hw : ∀ c ∈ w, IsInline c) (r : List Char)
    (index line column : Nat) : advance w.length ⟨w ++ r, index, line, column⟩ =
      ⟨r, index + w.length, line, column + w.length⟩ := by
  induction w generalizing index column with
  | nil => rfl
  | cons c w ih =>
    have inline := hw c List.mem_cons_self
    have step : step c (w ++ r) ⟨c :: w ++ r, index, line, column⟩ =
        ⟨w ++ r, index + 1, line, column + 1⟩ := by
      simp [Cursor.step, inline.line, inline.wide]
    change advance w.length (Cursor.step c (w ++ r) _) = _
    rw [step, ih fun d hd => hw d (List.mem_cons_of_mem _ hd)]
    simp only [List.length_cons, Cursor.mk.injEq, true_and]
    omega

theorem advance_text (w r : List Char) (index line column : Nat) :
    ∃ line' column', line ≤ line' ∧ advance w.length ⟨w ++ r, index, line, column⟩ =
      ⟨r, index + w.length, line', column'⟩ := by
  induction w generalizing index line column with
  | nil => exact ⟨line, column, Nat.le_refl _, rfl⟩
  | cons c w ih =>
    obtain ⟨line₁, column₁, later, step⟩ : ∃ line₁ column₁, line ≤ line₁ ∧
        step c (w ++ r) ⟨c :: w ++ r, index, line, column⟩ =
          ⟨w ++ r, index + 1, line₁, column₁⟩ := by
      by_cases h : isBreak c
      · exact ⟨line + 1, 0, Nat.le_succ _, by simp [Cursor.step, h]⟩
      · exact ⟨line, if c == '\ufeff' then column else column + 1, Nat.le_refl _,
          by simp [Cursor.step, h]⟩
    obtain ⟨line', column', later', rest⟩ := ih (index + 1) line₁ column₁
    refine ⟨line', column', Nat.le_trans later later', ?_⟩
    change advance w.length (Cursor.step c (w ++ r) _) = _
    rw [step, rest, List.length_cons, Nat.add_assoc, Nat.add_comm 1]

theorem advance_add (m n : Nat) (p : Cursor) : advance (m + n) p = advance n (advance m p) := by
  induction m generalizing p with
  | zero => simp [advance]
  | succ m ih =>
    rw [Nat.add_right_comm, advance, advance]
    split
    next h =>
      induction n with
      | zero => rfl
      | succ n _ => simp [advance, h]
    next => exact ih _

theorem advance_line (w r : List Char) (n index line column : Nat) :
    ∃ line', line < line' ∧
      advance (w ++ '\n' :: spaces n).length ⟨w ++ '\n' :: (spaces n ++ r), index, line, column⟩ =
        ⟨r, index + (w ++ '\n' :: spaces n).length, line', n⟩ := by
  obtain ⟨line', column', later, text⟩ :=
    advance_text w ('\n' :: (spaces n ++ r)) index line column
  refine ⟨line' + 1, Nat.lt_succ_of_le later, ?_⟩
  have tail := advance_inline (isInline_spaces n) r (index + w.length + 1) (line' + 1) 0
  rw [List.length_append, advance_add, text, List.length_cons]
  change advance (spaces n).length ⟨spaces n ++ r, index + w.length + 1, line' + 1, 0⟩ = _
  rw [tail]
  simp only [spaces, List.length_replicate, Cursor.mk.injEq, true_and]
  omega

theorem advance_nextLine (w r : List Char) (empty n index line column : Nat) :
    ∃ line', line < line' ∧
      advance (w ++ nextLine empty n).length ⟨w ++ nextLine empty n ++ r, index, line, column⟩ =
        ⟨r, index + (w ++ nextLine empty n).length, line', n⟩ := by
  obtain ⟨line', later, moved⟩ :=
    advance_line (w ++ List.replicate empty '\n') r n index line column
  have whole : w ++ nextLine empty n = w ++ List.replicate empty '\n' ++ '\n' :: spaces n := by
    simp [nextLine]
  refine ⟨line', later, ?_⟩
  rw [whole, List.append_assoc _ ('\n' :: spaces n)]
  exact moved

theorem moveTo_eq (w r : List Char) (index line column : Nat) :
    moveTo r ⟨w ++ r, index, line, column⟩ = advance w.length ⟨w ++ r, index, line, column⟩ := by
  simp [moveTo]

theorem moveTo_nextLine (w r : List Char) (empty n index line column : Nat) :
    ∃ index' line', line < line' ∧
      moveTo r ⟨w ++ (nextLine empty n ++ r), index, line, column⟩ = ⟨r, index', line', n⟩ := by
  obtain ⟨line', later, moved⟩ := advance_nextLine w r empty n index line column
  rw [← List.append_assoc, moveTo_eq, moved]
  exact ⟨_, line', later, rfl⟩

theorem moveTo_inline {w : List Char} (hw : ∀ c ∈ w, IsInline c) (r : List Char)
    (index line column : Nat) : moveTo r ⟨w ++ r, index, line, column⟩ =
      ⟨r, index + w.length, line, column + w.length⟩ := by
  rw [moveTo_eq, advance_inline hw]

theorem moveTo_char {c : Char} (hc : IsInline c) (r : List Char) (index line column : Nat) :
    moveTo r ⟨c :: r, index, line, column⟩ = ⟨r, index + 1, line, column + 1⟩ :=
  moveTo_inline (w := [c]) (List.forall_mem_singleton.2 hc) r index line column

end Cursor

namespace Scanner

def block (p : Cursor) (margins : List Nat) (k : Option Candidate) (allowed : Bool)
    (tokens : List Token) : Scanner where
  cursor := p
  margins := margins
  candidates := [k]
  keyAllowed := allowed
  tokens := tokens.toArray
  finished := false

section Prepare
variable {p : Cursor} {margins : List Nat} {k : Option Candidate} {allowed : Bool}
  {tokens : List Token} {limit : Nat}

theorem unwind_of_le (h : margins.headD 0 ≤ limit) :
    (block p margins k allowed tokens).unwind limit = block p margins k allowed tokens := by
  cases margins with
  | nil => rfl
  | cons m ms =>
    have stays : closeFrom limit (m :: ms) tokens.toArray = (m :: ms, tokens.toArray) :=
      if_neg (Nat.not_lt.2 h)
    simp [unwind, inFlow, block, stays]

theorem unwind_of_lt {m : Nat} (h : limit < m) :
    (block p (m :: margins) k allowed tokens).unwind limit =
      (block p margins k allowed (tokens ++ [.blockEnd])).unwind limit := by
  have closes : closeFrom limit (m :: margins) tokens.toArray =
      closeFrom limit margins (tokens ++ [Token.blockEnd]).toArray := by
    rw [closeFrom, if_pos h, List.push_toArray]
  simp [unwind, inFlow, block, closes]

/-- A candidate of an earlier line that need not be a key is forgotten. -/
theorem dropStale_block (h : ∀ q ∈ k, q.required = false ∧ q.line < p.line) :
    (block p margins k allowed tokens).dropStale = .ok (block p margins none allowed tokens) := by
  cases k with
  | none => rfl
  | some q =>
    obtain ⟨free, earlier⟩ := h q rfl
    have stale : isStale p q = true := by
      have other : q.line ≠ p.line := Nat.ne_of_lt earlier
      simp [isStale, other]
    simp [dropStale, block, stale, free]

theorem skipToToken_spaces {rest : List Char} (h : Starts rest) (n : Nat) (crossed : Bool) :
    skipToToken false crossed (spaces n ++ rest) = (crossed, rest) := by
  induction n with
  | zero =>
    cases rest with
    | nil => rfl
    | cons c r =>
      obtain ⟨inline, space, mark⟩ := h c r rfl
      simp [spaces, skipToToken, inline.line, space, mark]
  | succ n ih => exact ih

theorem no_mark_of_starts {rest : List Char} (h : Starts rest) (n : Nat) (r : List Char) :
    spaces n ++ rest ≠ '\ufeff' :: r := by
  intro e
  cases n with
  | zero =>
    exact (h _ _ e).1.wide rfl
  | succ n => exact absurd (List.cons.inj e).1 (by decide)

/-- What stands between the last token of a line and the line's end. -/
inductive IsTrail : List Char → Prop
  | nothing : IsTrail []
  | comment {cs : List Char} (inline : ∀ c ∈ cs, IsInline c) : IsTrail ('#' :: cs)

theorem skipToToken_nextLine {rest : List Char} (h : Starts rest) (empty n : Nat)
    (comment crossed : Bool) :
    skipToToken comment crossed (nextLine empty n ++ rest) = (true, rest) := by
  induction empty generalizing comment crossed with
  | zero => exact skipToToken_spaces h n true
  | succ empty ih =>
    rw [nextLine_succ_append]
    exact ih false true

theorem skipToToken_trail {z rest : List Char} (trail : IsTrail z) (h : Starts rest)
    (empty n : Nat) (crossed : Bool) :
    skipToToken false crossed (z ++ (nextLine empty n ++ rest)) = (true, rest) := by
  have inside (cs : List Char) (inline : ∀ c ∈ cs, IsInline c) (x : List Char) :
      skipToToken true crossed (cs ++ x) = skipToToken true crossed x := by
    induction cs with
    | nil => rfl
    | cons c cs ih =>
      have more := ih fun d hd => inline d (List.mem_cons_of_mem _ hd)
      rw [← more]
      simp [skipToToken, (inline c List.mem_cons_self).line]
  cases trail with
  | nothing => exact skipToToken_nextLine h empty n false crossed
  | comment inline =>
    change skipToToken true crossed (_ ++ _) = _
    rw [inside _ inline]
    exact skipToToken_nextLine h empty n true crossed

variable (margins k allowed tokens) in
theorem skipBlank_block {w rest : List Char} {crossed : Bool} (index line column : Nat)
    (skip : skipToToken false false (w ++ rest) = (crossed, rest))
    (mark : ∀ r, w ++ rest ≠ '\ufeff' :: r) :
    (block ⟨w ++ rest, index, line, column⟩ margins k allowed tokens).skipBlank =
      block (Cursor.advance w.length ⟨w ++ rest, index, line, column⟩) margins k
        (allowed || crossed) tokens := by
  have flow : (block ⟨w ++ rest, index, line, column⟩ margins k allowed tokens).inFlow = false :=
    rfl
  simp only [skipBlank, block, moveTo] at flow ⊢
  rw [skip, Cursor.moveTo_eq]
  simp [flow]

variable (margins allowed tokens) in
theorem prepare_block {w rest : List Char} {crossed : Bool} {index line column : Nat} {p' : Cursor}
    (mark : ∀ r, w ++ rest ≠ '\ufeff' :: r)
    (skip : skipToToken false false (w ++ rest) = (crossed, rest))
    (moved : Cursor.advance w.length ⟨w ++ rest, index, line, column⟩ = p')
    (free : ∀ q ∈ k, q.required = false ∧ q.line < p'.line) :
    (block ⟨w ++ rest, index, line, column⟩ margins k allowed tokens).prepare =
      .ok ((block p' margins none (allowed || crossed) tokens).unwind (p'.column + 1)) := by
  rw [prepare, skipBlank_block _ _ _ _ _ _ _ skip mark, moved, dropStale_block free]
  rfl

variable (margins allowed tokens) in
theorem prepare_fresh {q : Candidate} {rest : List Char} {index column : Nat} (h : Starts rest)
    (near : index - q.index ≤ 1024) (inside : margins.headD 0 ≤ column + 1) :
    (block ⟨rest, index, q.line, column⟩ margins (some q) allowed tokens).prepare =
      .ok (block ⟨rest, index, q.line, column⟩ margins (some q) allowed tokens) := by
  have blank := skipBlank_block margins (some q) allowed tokens index q.line column
    (skipToToken_spaces h 0 false) (no_mark_of_starts h 0)
  rw [Bool.or_false] at blank
  have fresh : isStale ⟨rest, index, q.line, column⟩ q = false := by
    simp [isStale, near]
  have drop : (block ⟨rest, index, q.line, column⟩ margins (some q) allowed tokens).dropStale =
      .ok (block ⟨rest, index, q.line, column⟩ margins (some q) allowed tokens) := by
    simp [dropStale, block, fresh]
  rw [prepare, show (block ⟨rest, index, q.line, column⟩ margins (some q) allowed
    tokens).skipBlank = _ from blank]
  change (Except.bind (dropStale (block ⟨rest, index, q.line, column⟩ margins (some q) allowed
    tokens)) _) = _
  rw [drop]
  exact congrArg Except.ok (unwind_of_le inside)

end Prepare

/-- Once the scanner has gone on to the next token, it stands in front of `rest`, in block context
and with nothing that waits for a `:`. Collections that the line leaves are still in `margins`. -/
structure Ready (rest : List Char) (column : Nat) (margins : List Nat) (allowed : Bool)
    (tokens : List Token) (s : Scanner) : Prop where
  running : s.finished = false
  ahead : rest.length ≤ s.cursor.rest.length
  prepared : ∃ index line, s.prepare =
    .ok ((block ⟨rest, index, line, column⟩ margins none allowed tokens).unwind (column + 1))

section Ready
variable {rest : List Char} {margins : List Nat} {k : Option Candidate} {allowed : Bool}
  {tokens : List Token} {index line column : Nat}

theorem ready_inline (h : Starts rest) (n : Nat) : Ready rest (column + n) margins allowed tokens
    (block ⟨spaces n ++ rest, index, line, column⟩ margins none allowed tokens) where
  running := rfl
  ahead := by simp [block]
  prepared := by
    have moved := Cursor.advance_inline (isInline_spaces n) rest index line column
    have length : (spaces n).length = n := List.length_replicate
    rw [prepare_block (k := none) _ _ _ (no_mark_of_starts h n) (skipToToken_spaces h n false)
      moved nofun, length, Bool.or_false]
    exact ⟨_, _, rfl⟩

/-- Past the end of a line, with what trails on it, and past empty lines. -/
theorem ready_trail {z : List Char} (trail : IsTrail z) (h : Starts rest) (empty n : Nat)
    (free : ∀ q ∈ k, q.required = false ∧ q.line ≤ line) : Ready rest n margins true tokens
      (block ⟨z ++ (nextLine empty n ++ rest), index, line, column⟩ margins k allowed tokens) where
  running := rfl
  ahead := by
    simp [block]
    omega
  prepared := by
    obtain ⟨line', later, moved⟩ := Cursor.advance_nextLine z rest empty n index line column
    have skip := skipToToken_trail trail h empty n false
    have mark (r : List Char) : z ++ nextLine empty n ++ rest ≠ '\ufeff' :: r := by
      intro e
      cases trail with
      | nothing => cases empty <;> exact absurd (List.cons.inj e).1 (by decide)
      | comment => exact absurd (List.cons.inj e).1 (by decide)
    have earlier (q : Candidate) (hq : q ∈ k) : q.required = false ∧ q.line < line' :=
      ⟨(free q hq).1, Nat.lt_of_le_of_lt (free q hq).2 later⟩
    rw [← List.append_assoc] at skip ⊢
    have prepared := prepare_block margins allowed tokens mark skip moved earlier
    rw [Bool.or_true] at prepared
    exact ⟨_, _, prepared⟩

theorem ready_line (h : Starts rest) (n : Nat)
    (free : ∀ q ∈ k, q.required = false ∧ q.line ≤ line) : Ready rest n margins true tokens
      (block ⟨'\n' :: (spaces n ++ rest), index, line, column⟩ margins k allowed tokens) :=
  ready_trail .nothing h 0 n free

/-- The reader of a plain scalar has gone on to the next line by itself. -/
theorem ready_crossed (h : Starts rest) (free : ∀ q ∈ k, q.required = false ∧ q.line < line) :
    Ready rest column margins allowed tokens
      (block ⟨rest, index, line, column⟩ margins k allowed tokens) where
  running := rfl
  ahead := Nat.le_refl _
  prepared := by
    have still : Cursor.advance (spaces 0).length ⟨spaces 0 ++ rest, index, line, column⟩ =
      ⟨rest, index, line, column⟩ := rfl
    have prepared := prepare_block margins allowed tokens (no_mark_of_starts h 0)
      (skipToToken_spaces h 0 false) still free
    rw [Bool.or_false] at prepared
    exact ⟨_, _, prepared⟩

variable {s : Scanner}

/-- A collection whose entries stand right of the next token is closed. -/
theorem Ready.close {m : Nat} (h : Ready rest column (m :: margins) allowed tokens s)
    (right : column + 1 < m) : Ready rest column margins allowed (tokens ++ [.blockEnd]) s where
  running := h.running
  ahead := h.ahead
  prepared := by
    obtain ⟨index, line, prepared⟩ := h.prepared
    rw [unwind_of_lt right] at prepared
    exact ⟨index, line, prepared⟩

end Ready

/-- One scanner comes to another after some tokens, each of which takes a character at least. -/
def Reaches (s s' : Scanner) : Prop :=
  ∃ n, n + s'.cursor.rest.length ≤ s.cursor.rest.length ∧
    ∀ fuel, run (n + fuel) s = run fuel s'

theorem Reaches.refl (s : Scanner) : Reaches s s := ⟨0, by omega, fun fuel => by rw [Nat.zero_add]⟩

theorem Reaches.trans {s t u : Scanner} (h : Reaches s t) (h' : Reaches t u) : Reaches s u := by
  obtain ⟨n, shorter, run₁⟩ := h
  obtain ⟨m, shorter', run₂⟩ := h'
  refine ⟨n + m, by omega, fun fuel => ?_⟩
  rw [Nat.add_assoc, run₁, run₂]

theorem Ready.read {rest : List Char} {column : Nat} {margins : List Nat} {allowed : Bool}
    {tokens : List Token} {s : Scanner} (h : Ready rest column margins allowed tokens s)
    (inside : margins.headD 0 ≤ column + 1) :
    ∃ index line, ∀ s', (block ⟨rest, index, line, column⟩ margins none allowed tokens).readToken =
      .ok s' → s'.cursor.rest.length < rest.length → Reaches s s' := by
  obtain ⟨index, line, prepared⟩ := h.prepared
  rw [unwind_of_le inside] at prepared
  refine ⟨index, line, fun s' read shorter => ⟨1, ?_, fun fuel => ?_⟩⟩
  · have := h.ahead
    omega
  · have next : s.next = .ok s' := by
      rw [Scanner.next, prepared]
      exact read
    rw [Nat.add_comm, run]
    simp [h.running, next]

end Scanner

end CiWorkflow.Yaml
