import CiWorkflow.Proofs.Yaml.Tokens

/-! A scanner inside brackets, where indentation does not count: what it skips, and which token each
sign of flow style gives. A node is a key if its `:` follows on the same line and soon enough. -/

set_option autoImplicit false

namespace CiWorkflow.Yaml

namespace Cursor

theorem advance_lines (w r : List Char) (index line column : Nat) :
    ∃ column', advance w.length ⟨w ++ r, index, line, column⟩ =
      ⟨r, index + w.length, line + w.countP isBreak, column'⟩ := by
  induction w generalizing index line column with
  | nil => exact ⟨column, rfl⟩
  | cons c w ih =>
    change ∃ column', advance w.length (Cursor.step c (w ++ r) _) = _
    by_cases h : isBreak c = true
    · obtain ⟨column', moved⟩ := ih (index + 1) (line + 1) 0
      refine ⟨column', ?_⟩
      rw [step, if_pos h, moved, List.countP_cons_of_pos h, List.length_cons]
      simp only [Cursor.mk.injEq, true_and, and_true]
      omega
    · obtain ⟨column', moved⟩ := ih (index + 1) line (if c == '\ufeff' then column else column + 1)
      refine ⟨column', ?_⟩
      rw [step, if_neg h, moved, List.countP_cons_of_neg h, List.length_cons]
      simp only [Cursor.mk.injEq, true_and, and_true]
      omega

theorem moveTo_lines (w r : List Char) (index line column : Nat) :
    ∃ column', moveTo r ⟨w ++ r, index, line, column⟩ =
      ⟨r, index + w.length, line + w.countP isBreak, column'⟩ := by
  rw [moveTo_eq]
  exact advance_lines w r index line column

end Cursor

namespace Scanner

def unindented (p : Cursor) (ks : List (Option Candidate)) (allowed : Bool) (tokens : List Token) :
    Scanner where
  cursor := p
  margins := []
  candidates := ks
  keyAllowed := allowed
  tokens := tokens.toArray
  finished := false

def Free (ks : List (Option Candidate)) : Prop := ∀ q, some q ∈ ks → q.required = false

def fresh (p : Cursor) (k : Option Candidate) : Option Candidate :=
  if (k.map (isStale p)).getD false then none else k

/-- Nothing that is skipped comes first. -/
def Stays (rest : List Char) : Prop :=
  ∀ c r, rest = c :: r → isBreak c = false ∧ c ≠ ' ' ∧ c ≠ '#' ∧ c ≠ '\ufeff'

section Steps
variable {p : Cursor} {index line column : Nat} {k : Option Candidate}
  {ks : List (Option Candidate)} {allowed after : Bool} {tokens : List Token} {rest : List Char}

theorem Free.tail (h : Free (k :: ks)) : Free ks := fun q hq => h q (List.mem_cons_of_mem _ hq)

theorem Free.cons_none (h : Free ks) : Free (none :: ks) := by
  intro q hq
  rcases List.mem_cons.1 hq with e | hq
  · cases e
  · exact h q hq

theorem Free.cons {q : Candidate} (hq : q.required = false) (h : Free ks) :
    Free (some q :: ks) := by
  intro q' hq'
  rcases List.mem_cons.1 hq' with e | hq'
  · rw [Option.some.inj e]
    exact hq
  · exact h q' hq'

theorem Free.fresh (h : Free ks) (p : Cursor) : Free (ks.map (fresh p)) := by
  intro q hq
  obtain ⟨k, among, same⟩ := List.mem_map.1 hq
  rw [Scanner.fresh] at same
  split at same
  · cases same
  · exact h q (same ▸ among)

@[simp] theorem unindented_cursor : (unindented p ks allowed tokens).cursor = p := rfl

theorem unindented_inFlow (h : ks ≠ []) :
    (unindented p (k :: ks) allowed tokens).inFlow = true := by
  simp [inFlow, unindented, List.length_pos_iff, h]

@[simp] theorem unindented_unwind (limit : Nat) :
    (unindented p ks allowed tokens).unwind limit = unindented p ks allowed tokens := by
  simp [unwind, unindented, closeFrom]

variable (p k ks allowed after tokens) in
@[simp] theorem push_moveTo_unindented (t : Token) (r : List Char) :
    { ((unindented p ks allowed tokens).push t).moveTo r with keyAllowed := after } =
      unindented (p.moveTo r) ks after (tokens ++ [t]) := by
  simp [push, moveTo, unindented]

theorem dropStale_unindented (h : Free ks) : (unindented p ks allowed tokens).dropStale =
    .ok (unindented p (ks.map (fresh p)) allowed tokens) := by
  have none : (ks.any fun k => (k.map (isStale p)).getD false && (k.map (·.required)).getD false) =
      false := by
    rw [List.any_eq_false]
    intro k hk
    cases k with
    | none => simp
    | some q => simp [h q hk]
  exact if_neg (by simp only [unindented, none, Bool.false_eq_true, not_false_eq_true])

theorem dropCandidate_unindented (h : Free (k :: ks)) :
    (unindented p (k :: ks) allowed tokens).dropCandidate =
      .ok (unindented p (none :: ks) allowed tokens) := by
  cases k with
  | none => rfl
  | some q => simp [dropCandidate, unindented, h q List.mem_cons_self]

/-- The node that is about to be read, if it may be a key. -/
def offered (p : Cursor) (allowed : Bool) (tokens : List Token) (k : Option Candidate) :
    Option Candidate :=
  if allowed then some ⟨tokens.length, false, p.index, p.line, p.column⟩ else k

theorem Free.offered (h : Free (k :: ks)) (p : Cursor) (allowed : Bool) (tokens : List Token) :
    Free (offered p allowed tokens k :: ks) := by
  cases allowed with
  | false => exact h
  | true => exact h.tail.cons rfl

theorem saveCandidate_unindented (h : Free (k :: ks)) :
    (unindented p (k :: ks) allowed tokens).saveCandidate =
      .ok (unindented p (offered p allowed tokens k :: ks) allowed tokens) := by
  cases allowed with
  | false => rfl
  | true =>
    have optional : ((unindented p (k :: ks) true tokens).margin == p.column + 1) = false := by
      simp [margin, unindented]
    rw [saveCandidate, dropCandidate_unindented h]
    simp [bind, Except.bind, pure, Except.pure, optional]
    simp [unindented, offered]

def IsSkipped (w : List Char) : Prop := ∀ c ∈ w, c = ' ' ∨ c = '\n'

theorem skipToToken_skipped {w : List Char} (hw : IsSkipped w) (h : Stays rest) (crossed : Bool) :
    skipToToken false crossed (w ++ rest) = (crossed || w.any isBreak, rest) := by
  induction w generalizing crossed with
  | nil =>
    cases rest with
    | nil => simp [skipToToken]
    | cons c r =>
      obtain ⟨newline, space, comment, -⟩ := h c r rfl
      simp [skipToToken, newline, space, comment]
  | cons c w ih =>
    have more := ih fun d hd => hw d (List.mem_cons_of_mem _ hd)
    rcases hw c List.mem_cons_self with rfl | rfl
    · exact more crossed
    · change skipToToken false true (w ++ rest) = _
      rw [more]
      simp [isBreak]

theorem no_mark_of_stays {w : List Char} (hw : IsSkipped w) (h : Stays rest) (r : List Char) :
    w ++ rest ≠ '\ufeff' :: r := by
  intro e
  cases w with
  | nil => exact (h _ _ e).2.2.2 rfl
  | cons c w =>
    obtain ⟨rfl, -⟩ := List.cons.inj e
    exact absurd (hw _ List.mem_cons_self) (by decide)

variable (index line column allowed tokens) in
/-- The scanner goes on to the next token, and forgets what is too far back to be a key. -/
theorem prepare_unindented (hk : Free ks) {w : List Char} (hw : IsSkipped w) (h : Stays rest) :
    ∃ column' allowed',
      let p' : Cursor := ⟨rest, index + w.length, line + w.countP isBreak, column'⟩
      (unindented ⟨w ++ rest, index, line, column⟩ ks allowed tokens).prepare =
        .ok (unindented p' (ks.map (fresh p')) allowed' tokens) ∧
      (allowed = true → allowed' = true) := by
  obtain ⟨column', moved⟩ := Cursor.moveTo_lines w rest index line column
  let s := unindented ⟨w ++ rest, index, line, column⟩ ks allowed tokens
  let allowed' := allowed || (w.any isBreak && !s.inFlow)
  let p' : Cursor := ⟨rest, index + w.length, line + w.countP isBreak, column'⟩
  have skip : s.skipBlank = unindented p' ks allowed' tokens := by
    have mark := no_mark_of_stays hw h
    simp only [skipBlank, s, unindented_cursor, skipToToken_skipped hw h, Bool.false_or]
    simp only [moveTo, unindented_cursor, moved]
    rfl
  refine ⟨column', allowed', ?_, fun h => by simp [allowed', h]⟩
  rw [prepare, skip, dropStale_unindented hk]
  exact congrArg Except.ok (unindented_unwind _)

variable (index line column allowed) in
theorem readToken_open {a b : Char} {t t' : Token} (brackets : Brackets a b t t')
    (h : Free (k :: ks)) (r : List Char) :
    (unindented ⟨a :: r, index, line, column⟩ (k :: ks) allowed tokens).readToken =
      .ok (unindented (Cursor.moveTo r ⟨a :: r, index, line, column⟩)
        (none :: offered ⟨a :: r, index, line, column⟩ allowed tokens k :: ks) true
        (tokens ++ [t])) := by
  have opens : (unindented ⟨a :: r, index, line, column⟩ (k :: ks) allowed tokens).readToken =
      (unindented ⟨a :: r, index, line, column⟩ (k :: ks) allowed tokens).openFlow t r := by
    cases brackets <;> rfl
  rw [opens, openFlow, saveCandidate_unindented h]
  simp [bind, Except.bind, pure, Except.pure, push, moveTo, unindented]

variable (index line column allowed) in
theorem readToken_close {a b : Char} {t t' : Token} (brackets : Brackets a b t t')
    (h : Free (k :: ks)) (inside : ks ≠ []) (r : List Char) :
    (unindented ⟨b :: r, index, line, column⟩ (k :: ks) allowed tokens).readToken =
      .ok (unindented (Cursor.moveTo r ⟨b :: r, index, line, column⟩) ks false
        (tokens ++ [t'])) := by
  have closes : (unindented ⟨b :: r, index, line, column⟩ (k :: ks) allowed tokens).readToken =
      (unindented ⟨b :: r, index, line, column⟩ (k :: ks) allowed tokens).closeFlow t' r := by
    cases brackets <;> rfl
  rw [closes, closeFlow, unindented_inFlow inside, dropCandidate_unindented h]
  simp [bind, Except.bind, pure, Except.pure, push, moveTo, unindented]

variable (index line column allowed) in
theorem readToken_comma (h : Free (k :: ks)) (r : List Char) :
    (unindented ⟨',' :: r, index, line, column⟩ (k :: ks) allowed tokens).readToken =
      .ok (unindented (Cursor.moveTo r ⟨',' :: r, index, line, column⟩) (none :: ks) true
        (tokens ++ [.comma])) := by
  change (unindented ⟨',' :: r, index, line, column⟩ (k :: ks) allowed tokens).comma r = _
  rw [comma, dropCandidate_unindented h]
  exact congrArg Except.ok (push_moveTo_unindented _ _ _ _ _ _ _)

variable (index line column allowed) in
theorem readToken_flow_colon (inside : ks ≠ []) (r : List Char) :
    (unindented ⟨':' :: r, index, line, column⟩ (k :: ks) allowed tokens).readToken =
      (unindented ⟨':' :: r, index, line, column⟩ (k :: ks) allowed tokens).valueMark r := by
  simp [readToken, unindented_inFlow inside, atMarker]

theorem valueMark_some {q : Candidate} (inside : ks ≠ []) (later : List Token)
    (hq : q.token = tokens.length) (r : List Char) :
    (unindented p (some q :: ks) allowed (tokens ++ later)).valueMark r =
      .ok (unindented (p.moveTo r) (none :: ks) false (tokens ++ .key :: later ++ [.value])) := by
  have key : { unindented p (some q :: ks) allowed (tokens ++ later) with
      candidates := none :: ks
      tokens := (tokens ++ later).toArray.insertIdxIfInBounds q.token .key } =
        unindented p (none :: ks) allowed (tokens ++ .key :: later) := by
    simp [unindented, hq, insertIdx_append]
  let s := unindented p (none :: ks) allowed (tokens ++ .key :: later)
  have marked : (unindented p (some q :: ks) allowed (tokens ++ later)).valueMark r =
      .ok { ((if s.inFlow then s else s.openBlock q.column .blockMapping q.token).push
        .value).moveTo r with keyAllowed := false } := by
    simp only [s]
    rw [← key]
    rfl
  rw [marked, if_pos (unindented_inFlow inside), push_moveTo_unindented]

theorem valueMark_none (inside : ks ≠ []) (r : List Char) :
    (unindented p (none :: ks) allowed tokens).valueMark r =
      .ok (unindented (p.moveTo r) (none :: ks) false (tokens ++ [.value])) := by
  change (unindented p (none :: ks) allowed tokens).blockMark .blockMapping .value _ r = _
  rw [blockMark, unindented_inFlow inside]
  exact congrArg Except.ok (push_moveTo_unindented _ _ _ _ _ _ _)

/-- A `:` marks the node in front of it as a key, unless that is no candidate any more. -/
theorem valueMark_fresh {q : Candidate} (inside : ks ≠ []) (t : Token)
    (hq : q.token = tokens.length) (r : List Char) :
    (unindented p (fresh p (some q) :: ks) allowed (tokens ++ [t])).valueMark r =
      .ok (unindented (p.moveTo r) (none :: ks) false
        (tokens ++ ((if isStale p q then [] else [.key]) ++ [t, .value]))) := by
  cases stale : isStale p q with
  | true =>
    have lost : fresh p (some q) = none := by simp [fresh, stale]
    rw [lost, valueMark_none inside, List.append_assoc]
    rfl
  | false =>
    have kept : fresh p (some q) = some q := by simp [fresh, stale]
    rw [kept, valueMark_some inside [t] hq, List.append_assoc]
    rfl

theorem node_unindented (h : Free (k :: ks)) (t : Token) (r : List Char) :
    (unindented p (k :: ks) allowed tokens).node (.ok (t, r)) =
      .ok (unindented (p.moveTo r) (offered p allowed tokens k :: ks) false (tokens ++ [t])) := by
  rw [node, saveCandidate_unindented h]
  simp [bind, Except.bind, pure, Except.pure, push, moveTo, unindented]

variable (index line column allowed) in
theorem readToken_flow_double (r : List Char) :
    (unindented ⟨'"' :: r, index, line, column⟩ ks allowed tokens).readToken =
      (unindented ⟨'"' :: r, index, line, column⟩ ks allowed tokens).node
        (scalar (readDouble .text .none r)) := rfl

def IsBare (c : Char) : Bool := c.isAlphanum || c == '+' || c == '-' || c == '.'

structure Bare (w : List Char) : Prop where
  all : ∀ c ∈ w, IsBare c = true
  start : ∃ c r, w = c :: r ∧ (c.isAlphanum = true ∨ c = '-' ∧ ∃ d x, r = d :: x ∧ d.isDigit = true)

def Halts (rest : List Char) : Prop :=
  ∃ c r, rest = c :: r ∧ (c = ',' ∨ c = ']' ∨ c = '\x7d' ∨ c = '\t')

theorem Halts.atMarker {w : List Char} (hw : IsSkipped w) (h : Halts rest) :
    atMarker (w ++ rest) = false := by
  cases w with
  | nil =>
    obtain ⟨c, r, rfl, rfl | rfl | rfl | rfl⟩ := h <;> rfl
  | cons c w => rcases hw c List.mem_cons_self with rfl | rfl <;> rfl

theorem isBare_ne {c d : Char} (h : IsBare c = true) (other : IsBare d = false) : c ≠ d := by
  rintro rfl
  exact absurd h (by simp [other])

theorem stopsPlain_of_isBare {c : Char} (h : IsBare c = true) (r : List Char) :
    c ≠ ' ' ∧ isBreak c = false ∧ stopsPlain true (c :: r) = false ∧ c ≠ '#' := by
  let special := [' ', '\t', '\n', '\u0085', '\u2028', '\u2029', ':', ',', '[', ']', '\x7b',
    '\x7d', '?', '#']
  have signs : special.all (fun d => !IsBare d) = true := by decide
  have other (d : Char) (hd : d ∈ special) : c ≠ d :=
    isBare_ne h (by simpa using List.all_eq_true.1 signs d hd)
  simp [special] at other
  simp [stopsPlain, isGap, isSpace, isBreak, isFlowIndicator, other]

theorem isGap_of_isBare {c : Char} (h : IsBare c = true) : isGap c = false := by
  obtain ⟨-, -, stops, -⟩ := stopsPlain_of_isBare h []
  rw [stopsPlain, Bool.or_eq_false_iff, Bool.or_eq_false_iff] at stops
  exact stops.1.1

theorem readPlain_skipped {w : List Char} (hw : IsSkipped w) (h : Halts rest) (margin : Nat)
    (g : Gap) (column : Nat) :
    ∃ crossed, readPlain true margin g column (w ++ rest) = ⟨[], crossed, rest⟩ := by
  induction w generalizing g column with
  | nil =>
    obtain ⟨c, r, rfl, rfl | rfl | rfl | rfl⟩ := h <;> exact ⟨_, rfl⟩
  | cons c w ih =>
    have skipped : IsSkipped w := fun d hd => hw d (List.mem_cons_of_mem _ hd)
    rcases hw c List.mem_cons_self with rfl | rfl
    · exact ih skipped _ _
    · have marker := h.atMarker skipped
      have next : readPlain true margin g column ('\n' :: (w ++ rest)) =
          readPlain true margin (g.newline '\n') 0 (w ++ rest) := by
        simp [readPlain, isBreak, marker]
      exact next ▸ ih skipped _ _

theorem readPlain_bare {x : List Char} (hx : ∀ c ∈ x, IsBare c = true) {w : List Char}
    (hw : IsSkipped w) (h : Halts rest) (margin column : Nat) :
    ∃ crossed, readPlain true margin .none column (x ++ (w ++ rest)) = ⟨x, crossed, rest⟩ := by
  induction x generalizing column with
  | nil => exact readPlain_skipped hw h margin .none column
  | cons c x ih =>
    obtain ⟨crossed, more⟩ := ih (fun d hd => hx d (List.mem_cons_of_mem _ hd)) 0
    obtain ⟨space, newline, stops, -⟩ :=
      stopsPlain_of_isBare (hx c List.mem_cons_self) (x ++ (w ++ rest))
    have goes : readPlain true margin .none column (c :: (x ++ (w ++ rest))) =
        (readPlain true margin .none 0 (x ++ (w ++ rest))).prepend [c] := by
      simp [readPlain, space, newline, stops, Gap.crossed, Gap.text]
    refine ⟨crossed, ?_⟩
    rw [List.cons_append, goes, more]
    rfl

theorem Bare.starts {x : List Char} (h : Bare x) (tail : List Char) : Stays (x ++ tail) := by
  obtain ⟨c, r, rfl, -⟩ := h.start
  rintro d r' e
  obtain ⟨rfl, -⟩ := List.cons.inj e
  have bare := h.all c List.mem_cons_self
  obtain ⟨space, newline, -, comment⟩ := stopsPlain_of_isBare bare []
  exact ⟨newline, space, comment, isBare_ne bare (by decide)⟩

variable (index line column allowed) in
theorem readToken_bare {x : List Char} (h : Bare x) (inside : ks ≠ []) (tail : List Char) :
    (unindented ⟨x ++ tail, index, line, column⟩ (k :: ks) allowed tokens).readToken =
      (unindented ⟨x ++ tail, index, line, column⟩ (k :: ks) allowed tokens).plainScalar := by
  have flow (p : Cursor) : (unindented p (k :: ks) allowed tokens).inFlow = true :=
    unindented_inFlow inside
  obtain ⟨c, r, rfl, word | ⟨rfl, d, y, rfl, digit⟩⟩ := h.start
  · let special := '%' :: '-' :: '.' :: '?' :: ':' :: leadingIndicators
    have signs : special.all (fun d => !d.isAlphanum) = true := by decide
    have other (d : Char) (hd : d ∈ special) : c ≠ d := by
      rintro rfl
      have symbol := List.all_eq_true.1 signs c hd
      simp [word] at symbol
    simp [special, leadingIndicators] at other
    have starts : startsPlain true c (r ++ tail) = true := by
      simp [startsPlain, isIndicator_eq, isGap_of_isBare (h.all c List.mem_cons_self), other]
    simp [readToken, flow, starts, other]
  · have gap : atGap (d :: (y ++ tail)) = false := isGap_of_isBare (h.all d (by simp))
    have marker : atMarker ('-' :: d :: (y ++ tail)) = false := by
      have dash : d ≠ '-' := by
        rintro rfl
        exact absurd digit (by decide)
      simp [atMarker, dash]
    have starts : startsPlain true '-' (d :: (y ++ tail)) = true := by simp [startsPlain, gap]
    simp [readToken, flow, marker, gap, starts]

theorem plainScalar_unindented (h : Free (k :: ks)) (inside : ks ≠ []) {text r : List Char}
    {crossed : Bool} (read : readPlain true 0 .none 0 p.rest = ⟨text, crossed, r⟩) :
    (unindented p (k :: ks) allowed tokens).plainScalar =
      .ok (unindented (p.moveTo r) (offered p allowed tokens k :: ks) crossed
        (tokens ++ [.scalar true (String.ofList text)])) := by
  let s := unindented p (offered p allowed tokens k :: ks) allowed tokens
  have flow : s.inFlow = true := unindented_inFlow inside
  have read' : readPlain s.inFlow s.margin .none 0 s.cursor.rest = ⟨text, crossed, r⟩ := by
    rw [flow]
    exact read
  rw [plainScalar, saveCandidate_unindented h]
  simp only [bind, Except.bind, pure, Except.pure]
  simp only [s] at read'
  rw [read']
  exact congrArg Except.ok (push_moveTo_unindented _ _ _ _ _ _ _)

end Steps

/-- The scanner stands in front of `rest`, inside `depth` pairs of brackets. -/
def Flows (rest : List Char) (depth : Nat) (ready : Bool) (tokens : List Token) (s : Scanner) :
    Prop :=
  ∃ index line column k ks allowed,
    s = unindented ⟨rest, index, line, column⟩ (k :: ks) allowed tokens ∧ Free (k :: ks) ∧
      ks.length = depth ∧ (ready = true → allowed = true)

def Done (tokens : List Token) (s : Scanner) : Prop :=
  s.finished = true ∧ s.tokens.toList = tokens ++ [.streamEnd]

def Stuck (tokens : List Token) (s : Scanner) : Prop :=
  s.finished = false ∧ s.tokens.toList = tokens ∧ s.next = .error .malformed

theorem flows_start (cs : List Char) : Flows cs 0 true [] (start cs) :=
  ⟨0, 0, 0, none, [], true, rfl, nofun, rfl, fun h => h⟩

section Flows
variable {w rest : List Char} {depth : Nat} {ready : Bool} {tokens : List Token} {s : Scanner}

theorem Flows.running (h : Flows rest depth ready tokens s) : s.finished = false := by
  obtain ⟨_, _, _, _, _, _, rfl, -⟩ := h
  rfl

theorem Flows.ahead (h : Flows rest depth ready tokens s) : s.cursor.rest = rest := by
  obtain ⟨_, _, _, _, _, _, rfl, -⟩ := h
  rfl

theorem Flows.scanned (h : Flows rest depth ready tokens s) : s.tokens.toList = tokens := by
  obtain ⟨_, _, _, _, _, _, rfl, -⟩ := h
  simp [unindented]

theorem Flows.next {c : Char} {r : List Char} (h : Flows (w ++ c :: r) depth ready tokens s)
    (hw : IsSkipped w) (start : Stays (c :: r)) :
    ∃ index line column k ks allowed, Free (k :: ks) ∧ ks.length = depth ∧
      (ready = true → allowed = true) ∧
      s.next = (unindented ⟨c :: r, index, line, column⟩ (k :: ks) allowed tokens).readToken := by
  obtain ⟨index, line, column, k, ks, allowed, rfl, free, inside, opens⟩ := h
  obtain ⟨column', allowed', prepared, more⟩ :=
    prepare_unindented index line column allowed tokens free hw start
  let p' : Cursor := ⟨c :: r, index + w.length, line + w.countP isBreak, column'⟩
  refine ⟨p'.index, p'.line, column', fresh p' k, ks.map (fresh p'), allowed', free.fresh p',
    by simpa using inside, more ∘ opens, ?_⟩
  rw [Scanner.next, prepared]
  rfl

theorem Flows.read {c : Char} {r : List Char} {P : Scanner → Prop}
    (h : Flows (w ++ c :: r) depth ready tokens s) (hw : IsSkipped w) (start : Stays (c :: r))
    (token : ∀ index line column k ks allowed, Free (k :: ks) → ks.length = depth →
      (ready = true → allowed = true) →
      ∃ s', (unindented ⟨c :: r, index, line, column⟩ (k :: ks) allowed tokens).readToken =
        .ok s' ∧ s'.cursor.rest.length ≤ r.length ∧ P s') :
    ∃ s', Reaches s s' ∧ P s' := by
  obtain ⟨index, line, column, k, ks, allowed, free, inside, opens, next⟩ := h.next hw start
  obtain ⟨s', read, shorter, holds⟩ := token index line column k ks allowed free inside opens
  refine ⟨s', Reaches.single h.running (next.trans read) ?_, holds⟩
  rw [h.ahead, List.length_append, List.length_cons]
  omega

theorem flows_after (x r : List Char) (index line column : Nat) (ready allowed : Bool)
    (tokens : List Token) {k : Option Candidate} {ks : List (Option Candidate)}
    (free : Free (k :: ks)) (opens : ready = true → allowed = true) :
    let s := unindented (Cursor.moveTo r ⟨x ++ r, index, line, column⟩) (k :: ks) allowed tokens
    s.cursor.rest.length ≤ r.length ∧ Flows r ks.length ready tokens s := by
  obtain ⟨column', moved⟩ := Cursor.moveTo_lines x r index line column
  rw [moved]
  exact ⟨Nat.le_refl _, _, _, _, _, _, _, rfl, free, rfl, opens⟩

theorem Flows.opened {a b : Char} {t t' : Token} (brackets : Brackets a b t t') {r : List Char}
    (h : Flows (w ++ a :: r) depth ready tokens s) (hw : IsSkipped w) :
    ∃ s', Reaches s s' ∧ Flows r (depth + 1) true (tokens ++ [t]) s' := by
  refine h.read hw (by cases brackets <;> simp [Stays, isBreak]) ?_
  rintro index line column k ks allowed free rfl -
  exact ⟨_, readToken_open index line column allowed brackets free r,
    flows_after [a] r index line column _ _ _ (free.offered _ _ _).cons_none fun h => h⟩

theorem Flows.closed {a b : Char} {t t' : Token} (brackets : Brackets a b t t') {r : List Char}
    (h : Flows (w ++ b :: r) (depth + 1) ready tokens s) (hw : IsSkipped w) :
    ∃ s', Reaches s s' ∧ Flows r depth false (tokens ++ [t']) s' := by
  refine h.read hw (by cases brackets <;> simp [Stays, isBreak]) ?_
  intro index line column k ks allowed free inside _
  obtain ⟨k', ks', rfl⟩ := List.exists_cons_of_length_eq_add_one inside
  obtain rfl : ks'.length = depth := by simpa using inside
  exact ⟨_, readToken_close index line column allowed brackets free (List.cons_ne_nil _ _) r,
    flows_after [b] r index line column _ _ _ free.tail (absurd · Bool.false_ne_true)⟩

theorem Flows.comma {r : List Char} (h : Flows (w ++ ',' :: r) depth ready tokens s)
    (hw : IsSkipped w) : ∃ s', Reaches s s' ∧ Flows r depth true (tokens ++ [.comma]) s' := by
  refine h.read hw (by simp [Stays, isBreak]) ?_
  rintro index line column k ks allowed free rfl -
  exact ⟨_, readToken_comma index line column allowed free r,
    flows_after [','] r index line column _ _ _ free.tail.cons_none fun h => h⟩

theorem Flows.quoted {x r text : List Char}
    (h : Flows (w ++ '"' :: (x ++ r)) depth ready tokens s) (hw : IsSkipped w)
    (read : readDouble .text .none (x ++ r) = .ok (text, r)) :
    ∃ s', Reaches s s' ∧
      Flows r depth false (tokens ++ [.scalar false (String.ofList text)]) s' := by
  refine h.read hw (by simp [Stays, isBreak]) ?_
  rintro index line column k ks allowed free rfl -
  obtain ⟨shorter, flows⟩ := flows_after ('"' :: x) r index line column false false
    (tokens ++ [.scalar false (String.ofList text)])
    (free.offered ⟨'"' :: (x ++ r), index, line, column⟩ allowed tokens)
    (absurd · Bool.false_ne_true)
  refine ⟨_, ?_, by simpa using Nat.le_trans shorter (Nat.le_add_left _ _), flows⟩
  rw [readToken_flow_double, read]
  exact node_unindented free _ _

theorem Flows.bare {x : List Char} {w' : List Char}
    (h : Flows (w ++ (x ++ (w' ++ rest))) (depth + 1) ready tokens s) (hw : IsSkipped w)
    (bare : Bare x) (hw' : IsSkipped w') (halts : Halts rest) :
    ∃ s', Reaches s s' ∧
      Flows rest (depth + 1) false (tokens ++ [.scalar true (String.ofList x)]) s' := by
  obtain ⟨crossed, read⟩ := readPlain_bare bare.all hw' halts 0 0
  have start := bare.starts (w' ++ rest)
  obtain ⟨c, y, first⟩ : ∃ c y, x ++ (w' ++ rest) = c :: y := by
    obtain ⟨c, y, rfl, -⟩ := bare.start
    exact ⟨c, _, rfl⟩
  rw [first] at h start
  refine h.read hw start ?_
  intro index line column k ks allowed free inside _
  have some : ks ≠ [] := by
    rintro rfl
    cases inside
  obtain ⟨shorter, flows⟩ := flows_after (x ++ w') rest index line column false crossed
    (tokens ++ [.scalar true (String.ofList x)])
    (free.offered ⟨c :: y, index, line, column⟩ allowed tokens) (absurd · Bool.false_ne_true)
  rw [List.append_assoc, first] at shorter flows
  refine ⟨_, ?_, ?_, inside ▸ flows⟩
  · rw [← first, readToken_bare index line column allowed bare some, first]
    exact plainScalar_unindented free some (first ▸ read)
  · refine Nat.le_trans shorter ?_
    have size := congrArg List.length first
    have longer := List.length_pos_iff.2 (show x ≠ [] by
      rintro rfl
      obtain ⟨_, _, e, -⟩ := bare.start
      cases e)
    simp only [List.length_append, List.length_cons] at size
    omega

/-- A node and what stands between it and its `:` are on one line and not too long. -/
def Near (cs : List Char) : Prop := (∀ c ∈ cs, isBreak c = false) ∧ cs.length ≤ 1024

instance (cs : List Char) : Decidable (Near cs) :=
  decidable_of_iff (cs.all (fun c => !isBreak c) = true ∧ cs.length ≤ 1024) (by simp [Near])

theorem isStale_eq (cs r : List Char) (index line column column' token : Nat) :
    isStale ⟨r, index + cs.length, line + cs.countP isBreak, column'⟩
      ⟨token, false, index, line, column⟩ = !decide (Near cs) := by
  have lines : cs.countP isBreak = 0 ↔ ∀ c ∈ cs, isBreak c = false := by
    simp [List.countP_eq_zero]
  rw [Bool.eq_iff_iff]
  simp only [isStale, Near, ← lines, Bool.or_eq_true, bne_iff_ne, ne_eq, decide_eq_true_eq,
    Bool.not_eq_true', decide_eq_false_iff_not]
  omega

/-- The key mark of a node that is near its `:`. -/
def keyMark (cs : List Char) : List Token := if Near cs then [.key] else []

theorem keyMark_eq (cs r : List Char) (index line column column' token : Nat) :
    keyMark cs = if isStale ⟨r, index + cs.length, line + cs.countP isBreak, column'⟩
      ⟨token, false, index, line, column⟩ then [] else [.key] := by
  rw [isStale_eq, keyMark]
  by_cases near : Near cs <;> simp [near]

theorem Flows.offers {x r text : List Char}
    (h : Flows (w ++ '"' :: (x ++ r)) depth true tokens s) (hw : IsSkipped w)
    (read : readDouble .text .none (x ++ r) = .ok (text, r)) :
    ∃ index line column column' ks, Free ks ∧ ks.length = depth ∧
      Reaches s (unindented
        ⟨r, index + ('"' :: x).length, line + ('"' :: x).countP isBreak, column'⟩
        (some ⟨tokens.length, false, index, line, column⟩ :: ks) false
        (tokens ++ [.scalar false (String.ofList text)])) := by
  obtain ⟨index, line, column, k, ks, allowed, free, inside, opens, next⟩ :=
    h.next hw (by simp [Stays, isBreak])
  obtain rfl := opens rfl
  obtain ⟨column', moved⟩ := Cursor.moveTo_lines ('"' :: x) r index line column
  refine ⟨index, line, column, column', ks, free.tail, inside,
    Reaches.single h.running (next.trans ?_) ?_⟩
  · rw [readToken_flow_double, read, ← moved]
    exact node_unindented free _ r
  · rw [h.ahead]
    simp only [unindented_cursor, List.length_append, List.length_cons]
    omega

theorem Flows.key {x w' r text : List Char}
    (h : Flows (w ++ '"' :: (x ++ (w' ++ ':' :: r))) (depth + 1) true tokens s) (hw : IsSkipped w)
    (hw' : IsSkipped w')
    (read : readDouble .text .none (x ++ (w' ++ ':' :: r)) = .ok (text, w' ++ ':' :: r)) :
    ∃ s', Reaches s s' ∧ Flows r (depth + 1) false (tokens ++
      (keyMark ('"' :: (x ++ w')) ++ [.scalar false (String.ofList text), .value])) s' := by
  obtain ⟨index, line, column, column₁, ks, free, inside, reached⟩ := h.offers hw read
  let t : Token := .scalar false (String.ofList text)
  let q : Candidate := ⟨tokens.length, false, index, line, column⟩
  let p : Cursor := ⟨w' ++ ':' :: r, index + ('"' :: x).length,
    line + ('"' :: x).countP isBreak, column₁⟩
  have stays : Stays (':' :: r) := by simp [Stays, isBreak]
  obtain ⟨column₂, allowed, prepared, -⟩ := prepare_unindented p.index p.line p.column false
    (tokens ++ [t]) (free.cons (q := q) rfl) hw' stays
  let p' : Cursor := ⟨':' :: r, p.index + w'.length, p.line + w'.countP isBreak, column₂⟩
  have nonempty : ks.map (fresh p') ≠ [] := by
    refine List.ne_nil_of_length_pos ?_
    rw [List.length_map, inside]
    exact Nat.succ_pos depth
  -- What is between the start of the node and the `:` decides if there is a key.
  have mark : keyMark ('"' :: (x ++ w')) = if isStale p' q then [] else [.key] := by
    have whole := keyMark_eq ('"' :: x ++ w') (':' :: r) index line column column₂ tokens.length
    rw [List.length_append, List.countP_append, ← Nat.add_assoc, ← Nat.add_assoc] at whole
    exact whole
  let s' := unindented (p'.moveTo r) (none :: ks.map (fresh p')) false
    (tokens ++ (keyMark ('"' :: (x ++ w')) ++ [t, .value]))
  obtain ⟨shorter, flows⟩ := flows_after [':'] r p'.index p'.line p'.column false false
    (tokens ++ (keyMark ('"' :: (x ++ w')) ++ [t, .value])) (free.fresh p').cons_none
    (absurd · Bool.false_ne_true)
  refine ⟨s', reached.trans (Reaches.single rfl ?_ ?_), ?_⟩
  · simp only [s', mark]
    rw [Scanner.next, prepared]
    exact (readToken_flow_colon _ _ _ _ nonempty r).trans (valueMark_fresh nonempty t rfl r)
  · refine Nat.lt_of_le_of_lt shorter ?_
    simp only [unindented_cursor, List.length_append, List.length_cons]
    omega
  · rw [List.length_map, inside] at flows
    exact flows

theorem Flows.stuck_tab {r : List Char} (h : Flows (w ++ '\t' :: r) depth ready tokens s)
    (hw : IsSkipped w) : Stuck tokens s := by
  obtain ⟨index, line, column, k, ks, allowed, -, -, -, next⟩ :=
    h.next hw (by simp [Stays, isBreak])
  refine ⟨h.running, h.scanned, next.trans ?_⟩
  simp [readToken, startsPlain, isGap, isSpace]
  rfl

theorem Flows.stuck_quoted {r : List Char} (h : Flows (w ++ '"' :: r) depth ready tokens s)
    (hw : IsSkipped w) (read : readDouble .text .none r = .error .malformed) :
    Stuck tokens s := by
  obtain ⟨index, line, column, k, ks, allowed, free, -, -, next⟩ :=
    h.next hw (by simp [Stays, isBreak])
  refine ⟨h.running, h.scanned, next.trans ?_⟩
  rw [readToken_flow_double, read, node, saveCandidate_unindented free]
  rfl

theorem Flows.done (h : Flows w depth ready tokens s) (hw : IsSkipped w) :
    ∃ s', s.next = .ok s' ∧ Done tokens s' := by
  obtain ⟨index, line, column, k, ks, allowed, rfl, free, -, -⟩ := h
  have stays : Stays [] := nofun
  obtain ⟨column', allowed', prepared, -⟩ :=
    prepare_unindented index line column allowed tokens free hw stays
  rw [List.append_nil] at prepared
  let p' : Cursor := ⟨[], index + w.length, line + w.countP isBreak, column'⟩
  let s' := unindented p' (none :: ks.map (fresh p')) allowed' tokens
  have ends : (unindented p' ((k :: ks).map (fresh p')) allowed' tokens).readToken =
      .ok { s'.push .streamEnd with finished := true } := by
    change finish _ = _
    rw [finish, unindented_unwind, List.map_cons, dropCandidate_unindented (free.fresh p')]
    rfl
  refine ⟨{ s'.push .streamEnd with finished := true }, ?_, rfl, ?_⟩
  · rw [Scanner.next, prepared]
    exact ends
  · simp [s', push, unindented]

end Flows

section Run
variable {cs : List Char} {tokens : List Token} {s s' : Scanner}

theorem run_of_done (running : s.finished = false) (next : s.next = .ok s')
    (done : Done tokens s') (fuel : Nat) : (run (fuel + 2) s).toList = tokens ++ [.streamEnd] := by
  rw [run, running, next]
  change (run (fuel + 1) s').toList = _
  rw [run, done.1]
  exact done.2

theorem run_of_stuck (stuck : Stuck tokens s) (fuel : Nat) :
    ∃ known, (run (fuel + 1) s).toList = tokens.take known ++ [.fault .malformed] := by
  obtain ⟨running, scanned, fails⟩ := stuck
  have given : ∃ known, s.abandon .malformed =
      (s.tokens.extract 0 known).push (.fault .malformed) := ⟨_, rfl⟩
  obtain ⟨known, lost⟩ := given
  refine ⟨known, ?_⟩
  rw [run, running, fails]
  change (s.abandon .malformed).toList = _
  rw [lost, Array.toList_push, Array.toList_extract, scanned]
  simp

theorem Reaches.tokenize (h : Reaches (start cs) s) :
    ∃ fuel, tokenize cs = (run (fuel + 2) s).toList := by
  obtain ⟨n, shorter, same⟩ := h
  have steps : cs.length + 2 = n + (cs.length - n + 2) := by
    change n + s.cursor.rest.length ≤ cs.length at shorter
    omega
  exact ⟨cs.length - n, by rw [Yaml.tokenize, steps, same]⟩

theorem tokenize_of_done (h : Reaches (start cs) s) (running : s.finished = false)
    (next : s.next = .ok s') (done : Done tokens s') :
    tokenize cs = tokens ++ [.streamEnd] := by
  obtain ⟨fuel, same⟩ := h.tokenize
  rw [same, run_of_done running next done]

theorem tokenize_of_stuck (h : Reaches (start cs) s) (stuck : Stuck tokens s) :
    ∃ known, tokenize cs = tokens.take known ++ [.fault .malformed] := by
  obtain ⟨fuel, same⟩ := h.tokenize
  rw [same]
  exact run_of_stuck stuck (fuel + 1)

end Run

end Scanner

end CiWorkflow.Yaml
