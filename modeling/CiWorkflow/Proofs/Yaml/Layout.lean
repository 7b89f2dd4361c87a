import CiWorkflow.Proofs.Yaml.Content
import CiWorkflow.Yaml.Scalar

/-! Block documents as they are written by hand: each scalar stands as it is, collections are
indented under their key, and empty lines and comments may stand between. Such a text is scanned
into the tokens of what it lays out. -/

set_option autoImplicit false

namespace CiWorkflow.Yaml

structure Word where
  text : String
  value : Value

def Word.ofText (s : String) : Word := ⟨s, .text s⟩

structure Word.Reads (w : Word) : Prop where
  stands : Stands w.text.toList
  value : scalarValue (Tag.ofPlain w.text.toList) w.text = .ok w.value

structure Word.Names (w : Word) : Prop extends w.Reads where
  short : w.text.toList.length ≤ 1024
  marker : isMarker w.text.toList = false

/-- A scalar is read as its text, or else as a value of another kind that can be a key too. -/
theorem shape_of_scalarValue {t : Tag} {s : String} {v : Value} (h : scalarValue t s = .ok v) :
    t = .str ∧ v = .text s ∨ v.key?.isSome ∧ ∀ text, v ≠ .text text := by
  have other {α : Type} {make : α → Value}
      (kind : ∀ a, (make a).key?.isSome ∧ ∀ text, make a ≠ .text text) {read : Except Fault α}
      (h : read.map make = .ok v) : v.key?.isSome ∧ ∀ text, v ≠ .text text := by
    cases read with
    | error f => cases h
    | ok a =>
      cases h
      exact kind a
  cases t with
  | str =>
    cases h
    exact .inl ⟨rfl, rfl⟩
  | null =>
    cases h
    exact .inr ⟨rfl, nofun⟩
  | bool | int | float | binary =>
    refine .inr (other ?_ h)
    exact fun _ => ⟨rfl, nofun⟩
  | timestamp =>
    rw [scalarValue, readMoment] at h
    split at h
    · cases h
    · split at h <;> split at h <;> cases h <;> exact .inr ⟨rfl, nofun⟩
  | _ => cases h

theorem str_of_scalarValue {t : Tag} {s text : String} (h : scalarValue t s = .ok (.text text)) :
    t = .str := by
  obtain ⟨str, -⟩ | ⟨-, other⟩ := shape_of_scalarValue h
  · exact str
  · exact absurd rfl (other text)

def IsWord (s : String) : Prop := Stands s.toList ∧ Tag.ofPlain s.toList = .str

instance (s : String) : Decidable (IsWord s) := inferInstanceAs (Decidable (_ ∧ _))

theorem Word.reads_ofText_iff {s : String} : (Word.ofText s).Reads ↔ IsWord s := by
  constructor
  · exact fun h => ⟨h.stands, str_of_scalarValue h.value⟩
  · rintro ⟨stands, str⟩
    refine ⟨stands, ?_⟩
    change scalarValue (Tag.ofPlain s.toList) s = .ok (.text s)
    rw [str]
    rfl

def IsName (s : String) : Prop :=
  IsWord s ∧ s.toList.length ≤ 1024 ∧ isMarker s.toList = false

instance (s : String) : Decidable (IsName s) := inferInstanceAs (Decidable (_ ∧ _))

theorem Word.names_ofText_iff {s : String} : (Word.ofText s).Names ↔ IsName s :=
  ⟨fun h => ⟨reads_ofText_iff.1 h.toReads, h.short, h.marker⟩,
    fun ⟨word, short, marker⟩ => ⟨reads_ofText_iff.2 word, short, marker⟩⟩

inductive Quote where
  | single
  | double
  deriving DecidableEq

def Quote.mark : Quote → Char
  | single => '\''
  | double => '"'

def Quote.Keeps : Quote → Char → Prop
  | single, c => IsInline c ∧ c ≠ '\''
  | double, c => IsInline c ∧ c ≠ '"' ∧ c ≠ '\\'

instance (q : Quote) (c : Char) : Decidable (q.Keeps c) := by
  cases q
  · exact inferInstanceAs (Decidable (_ ∧ _))
  · exact inferInstanceAs (Decidable (_ ∧ _))

def Quote.Holds (q : Quote) (text : String) : Prop := ∀ c ∈ text.toList, q.Keeps c

instance (q : Quote) (text : String) : Decidable (q.Holds text) := List.decidableBAll _ _

/-- What may follow a word on its line: nothing, or blanks and a comment. -/
inductive IsRemark : List Char → Prop
  | nothing : IsRemark []
  | comment (n : Nat) {cs : List Char} (inline : ∀ c ∈ cs, IsInline c) :
    IsRemark (spaces (n + 1) ++ '#' :: cs)

/-- What is laid out. Entries come with the number of empty lines above them. -/
inductive Layout where
  | word (w : Word) (remark : List Char)
  | quoted (q : Quote) (text : String)
  /-- A list of one text, in brackets and double quotes. -/
  | bracketed (text : String)
  | absent
  | list (items : List (Nat × Layout))
  | record (fields : List (Nat × Word × Layout))

namespace Layout

/-- The way from a mark to an entry behind it: on the same line, or to another. -/
def lead (inline : Bool) (empty n : Nat) : List Char := if inline then [' '] else nextLine empty n

mutual

/-- What comes after an entry mark at column `indent`, or after a key that starts there. Behind an
entry mark a collection starts on the same line. -/
def write (inline : Bool) (indent : Nat) : Layout → List Char
  | word w remark => ' ' :: (w.text.toList ++ remark)
  | quoted q text => ' ' :: q.mark :: (text.toList ++ [q.mark])
  | bracketed text => ' ' :: '[' :: '"' :: (text.toList ++ ['"', ']'])
  | absent => []
  | list items => writeItems inline (indent + 2) items
  | record fields => writeFields inline (indent + 2) fields

def writeItems (inline : Bool) (indent : Nat) : List (Nat × Layout) → List Char
  | [] => []
  | (empty, x) :: items =>
    lead inline empty indent ++ ('-' :: write true indent x ++ writeItems false indent items)

def writeFields (inline : Bool) (indent : Nat) : List (Nat × Word × Layout) → List Char
  | [] => []
  | (empty, k, x) :: fields =>
    lead inline empty indent ++
      (k.text.toList ++ ':' :: write false indent x ++ writeFields false indent fields)

end

theorem writeFields_append (a b : List (Nat × Word × Layout)) (indent : Nat) :
    writeFields false indent (a ++ b) =
      writeFields false indent a ++ writeFields false indent b := by
  induction a with
  | nil => rfl
  | cons f a ih => simp [writeFields, ih]

theorem writeFields_record (empty : Nat) (k : Word) (fields : List (Nat × Word × Layout))
    (indent : Nat) : writeFields false indent [(empty, k, .record fields)] =
      nextLine empty indent ++ k.text.toList ++ [':'] ++
        writeFields false (indent + 2) fields := by
  simp [writeFields, write, lead]

def document : List (Nat × Word × Layout) → List Char
  | [] => []
  | (_, k, x) :: fields =>
    k.text.toList ++ ':' :: write false 0 x ++ writeFields false 0 fields ++ ['\n']

mutual

def tokens : Layout → List Token
  | word w _ => [.scalar true w.text]
  | quoted _ text => [.scalar false text]
  | bracketed text => [.openSequence, .scalar false text, .closeSequence]
  | absent => []
  | list items => .blockSequence :: itemTokens items ++ [.blockEnd]
  | record fields => .blockMapping :: fieldTokens fields ++ [.blockEnd]

def itemTokens : List (Nat × Layout) → List Token
  | [] => []
  | (_, x) :: items => .entry :: tokens x ++ itemTokens items

def fieldTokens : List (Nat × Word × Layout) → List Token
  | [] => []
  | (_, k, x) :: fields =>
    .key :: .scalar true k.text :: .value :: tokens x ++ fieldTokens fields

end

mutual

/-- Every scalar is read as it stands, and the keys of a record differ. -/
def Fits : Layout → Prop
  | word w remark => w.Reads ∧ IsRemark remark
  | quoted q text => q.Holds text
  | bracketed text => Quote.double.Holds text
  | absent => True
  | list items => items ≠ [] ∧ ItemsFit items
  | record fields => fields ≠ [] ∧
    (fields.map (·.2.1.value)).Pairwise (fun a b => Value.sameKey b a = false) ∧ FieldsFit fields

def ItemsFit : List (Nat × Layout) → Prop
  | [] => True
  | (_, x) :: items => Fits x ∧ ItemsFit items

def FieldsFit : List (Nat × Word × Layout) → Prop
  | [] => True
  | (_, k, x) :: fields => k.Names ∧ Fits x ∧ FieldsFit fields

end

theorem fieldsFit_append {a b : List (Nat × Word × Layout)} (ha : FieldsFit a)
    (hb : FieldsFit b) : FieldsFit (a ++ b) := by
  induction a with
  | nil => exact hb
  | cons f a ih => exact ⟨ha.1, ha.2.1, ih ha.2.2⟩

end Layout

namespace Scanner
variable {s : Scanner} {n column indent empty : Nat} {rest : List Char} {margins : List Nat}
  {allowed inline : Bool} {ts : List Token}

theorem starts_mark (q : Quote) (x : List Char) : Starts (q.mark :: x) := by
  cases q <;> exact starts_of_ascii (by decide) (by decide) (by decide)

theorem readToken_quote (q : Quote) {cs : List Char} (keeps : ∀ c ∈ cs, q.Keeps c) {r : List Char}
    (next : r.head? ≠ some '\'') (p : Cursor) (k : Option Candidate) :
    (block { p with rest := q.mark :: (cs ++ q.mark :: r) } margins k allowed ts).readToken =
      (block { p with rest := q.mark :: (cs ++ q.mark :: r) } margins k allowed ts).node
        (.ok (.scalar false (String.ofList cs), r)) := by
  cases q with
  | single =>
    have read := readSingle_text keeps next .none rfl
    rw [show Quote.single.mark = '\'' from rfl, readToken_single, read]
    rfl
  | double =>
    have read := readDouble_text keeps r .none rfl
    rw [show Quote.double.mark = '"' from rfl, readToken_double, read]
    rfl

theorem Ready.enquoted (q : Quote) {cs : List Char} (keeps : ∀ c ∈ cs, q.Keeps c)
    (h : Ready (q.mark :: (cs ++ [q.mark]) ++ (nextLine empty n ++ rest)) column margins allowed ts
      s)
    (inside : margins.headD 0 ≤ column + 1)
    (free : allowed = true → margins.headD 0 ≠ column + 1) (next : Starts rest) :
    ∃ s', Reaches s s' ∧
      Ready rest n margins true (ts ++ [.scalar false (String.ofList cs)]) s' := by
  refine h.quoted (fun index line => ?_) (List.cons_ne_nil _ _) inside free next
  have next : (nextLine empty n ++ rest).head? ≠ some '\'' := by
    cases empty <;> simp [nextLine, List.replicate_succ]
  simpa using readToken_quote q keeps next ⟨[], index, line, column⟩ none

theorem Ready.remarked {cs remark : List Char} (stands : Stands cs) (after : IsRemark remark)
    (h : Ready (cs ++ remark ++ (nextLine empty n ++ rest)) column margins allowed ts s)
    (right : column ≠ 0) (left : n < margins.headD 0) (inside : margins.headD 0 ≤ column + 1)
    (free : allowed = true → margins.headD 0 ≠ column + 1) (next : Resumes rest) :
    ∃ s', Reaches s s' ∧
      Ready rest n margins true (ts ++ [.scalar true (String.ofList cs)]) s' := by
  cases after with
  | nothing =>
    rw [List.append_nil] at h
    exact h.standing stands right left inside free next
  | comment m inline =>
    rw [← List.append_assoc cs, List.append_assoc (cs ++ spaces (m + 1))] at h
    exact h.commented stands inline right inside free next.start

def bracketed (p : Cursor) (margins : List Nat) (q : Candidate) (k : Option Candidate)
    (ts : List Token) : Scanner :=
  { bracket p margins k ts with candidates := [some q, k], keyAllowed := false }

theorem dropStale_of_optional (h : ∀ k ∈ s.candidates, ∀ q ∈ k, q.required = false) :
    s.dropStale = .ok { s with candidates := s.candidates.map fun k =>
      if (k.map (isStale s.cursor)).getD false then none else k } := by
  refine if_neg fun stale => ?_
  obtain ⟨k, mem, required⟩ := List.any_eq_true.1 stale
  cases k with
  | none => simp at required
  | some q => simp [h _ mem q rfl] at required

/-- Neither candidate has to be a key, so both may be given up on the way to the bracket. -/
theorem next_bracketed {r : List Char} {index line : Nat} {q : Candidate} {k : Option Candidate}
    (hq : q.required = false) (hk : ∀ q' ∈ k, q'.required = false) :
    ∃ k' : Option Candidate, (∀ q' ∈ k', q' ∈ k) ∧
      (bracketed ⟨']' :: r, index, line, column⟩ margins q k ts).next =
        .ok (block ⟨r, index + 1, line, column + 1⟩ margins k' false (ts ++ [.closeSequence])) := by
  let p : Cursor := ⟨']' :: r, index, line, column⟩
  let kept (i : Option Candidate) : Option Candidate :=
    if (i.map (isStale p)).getD false then none else i
  have blank : (bracketed p margins q k ts).skipBlank = bracketed p margins q k ts := by
    simp [p, skipBlank, bracketed, bracket, skipToToken, isBreak, moveTo, Cursor.moveTo,
      Cursor.advance, inFlow]
  have drop : (bracketed p margins q k ts).dropStale =
      .ok { bracketed p margins q k ts with candidates := [kept (some q), kept k] } :=
    dropStale_of_optional (by simpa [bracketed, hq] using hk)
  have optional : ∀ q' ∈ kept (some q), q'.required = false := by
    intro q' mem
    simp only [kept] at mem
    split at mem
    · cases mem
    · rw [← Option.some.inj mem, hq]
  have moved : p.moveTo r = ⟨r, index + 1, line, column + 1⟩ :=
    Cursor.moveTo_char (by decide) _ _ _ _
  have read : { bracketed p margins q k ts with candidates := [kept (some q), kept k] }.readToken =
      .ok (block ⟨r, index + 1, line, column + 1⟩ margins (kept k) false
        (ts ++ [.closeSequence])) := by
    rw [← moved]
    change closeFlow .closeSequence r { bracketed p margins q k ts with
      candidates := [kept (some q), kept k] } = _
    cases inner : kept (some q) with
    | none =>
      simp [closeFlow, inFlow, dropCandidate, bracketed, bracket, block, push, moveTo, bind,
        Except.bind, pure, Except.pure, p]
    | some i =>
      simp [closeFlow, inFlow, dropCandidate, optional i inner, bracketed, bracket, block, push,
        moveTo, bind, Except.bind, pure, Except.pure, p]
  refine ⟨kept k, fun q' mem => ?_, ?_⟩
  · simp only [kept] at mem
    split at mem
    · cases mem
    · exact mem
  · rw [Scanner.next, prepare, blank, drop]
    exact read

theorem readToken_bracket_double {k : Option Candidate} {index line : Nat} (r : List Char) :
    (bracket ⟨'"' :: r, index, line, column⟩ margins k ts).readToken =
      (bracket ⟨'"' :: r, index, line, column⟩ margins k ts).node
        (scalar (readDouble .text .none r)) := rfl

variable (margins ts) in
theorem node_bracket (p : Cursor) (k : Option Candidate) (t : Token) (r : List Char) :
    (bracket p margins k ts).node (.ok (t, r)) = .ok (bracketed (p.moveTo r) margins
      ⟨ts.length, false, p.index, p.line, p.column⟩ k (ts ++ [t])) := by
  simp [Scanner.node, saveCandidate, dropCandidate, bracket, bracketed, inFlow, push,
    Scanner.moveTo, bind, Except.bind, pure, Except.pure]

theorem Ready.bracketed {cs : List Char} (keeps : ∀ c ∈ cs, Quote.double.Keeps c)
    (h : Ready ('[' :: '"' :: (cs ++ ['"', ']']) ++ (nextLine empty n ++ rest)) column margins
      allowed ts s)
    (inside : margins.headD 0 ≤ column + 1)
    (free : allowed = true → margins.headD 0 ≠ column + 1) (next : Starts rest) :
    ∃ s', Reaches s s' ∧ Ready rest n margins true
      (ts ++ [.openSequence, .scalar false (String.ofList cs), .closeSequence]) s' := by
  let after := nextLine empty n ++ rest
  let x := cs ++ '"' :: ']' :: after
  have text : '[' :: '"' :: (cs ++ ['"', ']']) ++ after = '[' :: '"' :: x := by simp [x]
  have quote : '"' :: x = '"' :: (cs ++ ['"']) ++ ']' :: after := by simp [x]
  obtain ⟨index, line, reaches⟩ := h.read inside
  rw [text] at reaches
  let p : Cursor := ⟨'[' :: '"' :: x, index, line, column⟩
  let p₁ : Cursor := ⟨'"' :: x, index + 1, line, column + 1⟩
  obtain ⟨line', column', later, moved⟩ :=
    Cursor.advance_text ('"' :: (cs ++ ['"'])) (']' :: after) (index + 1) line (column + 1)
  rw [← Cursor.moveTo_eq, ← quote] at moved
  let k := candidate p margins allowed ts
  have waits : ∀ q ∈ k, q.required = false ∧ q.line = line ∧ q.index = index :=
    free_candidate free
  have opened : (block p margins none allowed ts).readToken =
      .ok (bracket p₁ margins k (ts ++ [.openSequence])) := by
    rw [Brackets.sequence.readToken_open, openFlow_block, Cursor.moveTo_char (by decide)]
  have prepared : (bracket p₁ margins k (ts ++ [.openSequence])).prepare =
      .ok (bracket p₁ margins k (ts ++ [.openSequence])) := by
    refine prepare_bracket (by decide) fun q hq => ?_
    obtain ⟨-, same, near⟩ := waits q hq
    simp [isStale, same, near]
  -- The text in brackets might turn out to be a key, and so might the brackets: neither has to.
  let q : Candidate := ⟨(ts ++ [Token.openSequence]).length, false, index + 1, line, column + 1⟩
  have quoted : (bracket p₁ margins k (ts ++ [.openSequence])).next = .ok (Scanner.bracketed
      (p₁.moveTo (']' :: after)) margins q k
        (ts ++ [.openSequence] ++ [.scalar false (String.ofList cs)])) := by
    rw [Scanner.next, prepared]
    refine (readToken_bracket_double x).trans ?_
    rw [readDouble_text keeps _ .none rfl]
    exact node_bracket margins _ p₁ k _ _
  rw [moved] at quoted
  obtain ⟨k', known, closed⟩ := next_bracketed (q := q) rfl fun q hq => (waits q hq).1
  refine ⟨_, ((reaches _ opened (Nat.lt_succ_self _)).trans (Reaches.single rfl quoted ?_)).trans
    (Reaches.single rfl closed (Nat.lt_succ_self _)), ?_⟩
  · simp [p₁, bracket, Scanner.bracketed, x]
    omega
  · simp only [List.append_assoc, List.singleton_append]
    exact ready_trail .nothing next empty n fun q hq =>
      ⟨(waits q (known q hq)).1, (waits q (known q hq)).2.1 ▸ later⟩

section Gaps
variable {tail : List Char}

theorem atGap_nextLine (empty n : Nat) (x : List Char) : atGap (nextLine empty n ++ x) := by
  cases empty with
  | zero => rfl
  | succ empty =>
    rw [nextLine_succ_append]
    rfl

theorem atGap_lead (inline : Bool) (empty n : Nat) (x : List Char) :
    atGap (Layout.lead inline empty n ++ x) := by
  cases inline with
  | false => exact atGap_nextLine empty n x
  | true => rfl

theorem atGap_writeItems (gap : atGap tail) (inline : Bool) (indent : Nat)
    (items : List (Nat × Layout)) : atGap (Layout.writeItems inline indent items ++ tail) := by
  cases items with
  | nil => exact gap
  | cons _ items =>
    rw [Layout.writeItems, List.append_assoc]
    exact atGap_lead _ _ _ _

theorem atGap_writeFields (gap : atGap tail) (inline : Bool) (indent : Nat)
    (fields : List (Nat × Word × Layout)) :
    atGap (Layout.writeFields inline indent fields ++ tail) := by
  cases fields with
  | nil => exact gap
  | cons _ fields =>
    rw [Layout.writeFields, List.append_assoc]
    exact atGap_lead _ _ _ _

theorem atGap_write (gap : atGap tail) (inline : Bool) (indent : Nat) (x : Layout) :
    atGap (x.write inline indent ++ tail) := by
  match x with
  | .word _ _ => rfl
  | .quoted _ _ => rfl
  | .bracketed _ => rfl
  | .absent => exact gap
  | .list items => exact atGap_writeItems gap inline _ items
  | .record fields => exact atGap_writeFields gap inline _ fields

end Gaps

section Nodes

theorem Behind.lead {x : List Char}
    (h : Behind (Layout.lead inline empty (indent + 2) ++ x) column margins inline ts s)
    (place : inline = true → column = indent + 1) (start : Starts x) :
    Ready x (indent + 2) margins true ts s := by
  cases inline with
  | false => exact h.below start
  | true =>
    obtain rfl := place rfl
    exact h.inline start

theorem resumes_key {k : Word} (names : k.Names) (x : List Char) :
    Resumes (k.text.toList ++ ':' :: x) :=
  ⟨starts_of_stands names.stands _, atMarker_append names.marker (by decide) (by decide) _⟩

theorem resumes_entry {x : List Char} (gap : atGap x) : Resumes ('-' :: x) :=
  ⟨starts_of_ascii (by decide) (by decide) (by decide), atMarker_of_atGap gap⟩

-- What comes behind is left open, so that each entry can be followed by the next one.
mutual

theorem Behind.laid (x : Layout) {inline : Bool} {indent column empty n : Nat} {rest : List Char}
    {margins : List Nat} {ts : List Token} {s : Scanner} (fits : x.Fits)
    (h : Behind (x.write inline indent ++ (nextLine empty n ++ rest)) column margins inline ts s)
    (place : inline = true → column = indent + 1) (right : indent < column)
    (head : margins.headD 0 = indent + 1) (left : n ≤ indent) (next : Resumes rest) :
    ∃ s', Reaches s s' ∧ Ready rest n margins true (ts ++ x.tokens) s' := by
  have free : inline = true → margins.headD 0 ≠ column + 1 + 1 := fun _ => by omega
  match x with
  | .word w remark =>
    simp only [Layout.write, List.cons_append, List.append_assoc] at h
    have ready := h.inline (starts_of_stands fits.1.stands _)
    rw [← List.append_assoc] at ready
    have scanned := ready.remarked fits.1.stands fits.2 (by omega) (by omega) (by omega) free next
    rwa [String.ofList_toList] at scanned
  | .quoted q text =>
    simp only [Layout.write, List.cons_append] at h
    have ready := h.inline (starts_mark q _)
    have scanned := Ready.enquoted q fits ready (by omega) free next.start
    rwa [String.ofList_toList] at scanned
  | .bracketed text =>
    simp only [Layout.write, List.cons_append] at h
    have ready := h.inline (starts_of_ascii (by decide) (by decide) (by decide))
    have scanned := Ready.bracketed fits ready (by omega) free next.start
    rwa [String.ofList_toList] at scanned
  | .absent =>
    have ready := Behind.below h next.start
    exact ⟨s, .refl s, by simpa [Layout.tokens] using ready⟩
  | .list [] => exact absurd rfl fits.1
  | .record [] => exact absurd rfl fits.1
  | .list ((_, y) :: items) =>
    simp only [Layout.write, Layout.writeItems, List.append_assoc] at h
    have gap := atGap_write (atGap_writeItems (atGap_nextLine empty n rest) false (indent + 2)
      items) true (indent + 2) y
    have ready := h.lead place (resumes_entry gap).start
    obtain ⟨s', reached, ready'⟩ := Ready.laidItems y items fits.2 ready (by omega) (by omega) next
    obtain ⟨opened, entered⟩ := opened_cons (t := .blockSequence) head
    rw [opened, entered] at ready'
    have closed := ready'.close (by omega)
    exact ⟨s', reached, by simpa [Layout.tokens] using closed⟩
  | .record ((_, k, y) :: fields) =>
    simp only [Layout.write, Layout.writeFields, List.append_assoc] at h
    have ready := h.lead place (resumes_key fits.2.2.1 _).start
    obtain ⟨s', reached, ready'⟩ := Ready.laidFields k y fields fits.2.2 ready (by omega)
      (by omega) next
    obtain ⟨opened, entered⟩ := opened_cons (t := .blockMapping) head
    rw [opened, entered] at ready'
    have closed := ready'.close (by omega)
    exact ⟨s', reached, by simpa [Layout.tokens] using closed⟩
termination_by sizeOf x

theorem Ready.laidItems (y : Layout) (items : List (Nat × Layout)) {indent above empty n : Nat}
    {rest : List Char} {margins : List Nat} {ts : List Token} {s : Scanner}
    (fits : Layout.ItemsFit ((above, y) :: items))
    (h : Ready ('-' :: (y.write true indent ++
      (Layout.writeItems false indent items ++ (nextLine empty n ++ rest)))) indent margins true ts
      s)
    (inside : margins.headD 0 ≤ indent + 1) (left : n ≤ indent) (next : Resumes rest) :
    ∃ s', Reaches s s' ∧ Ready rest n (enter indent margins) true
      (ts ++ opening indent .blockSequence margins ++ Layout.itemTokens ((above, y) :: items))
      s' := by
  have gap := atGap_write (atGap_writeItems (atGap_nextLine empty n rest) false indent items)
    true indent y
  obtain ⟨s₁, reached₁, behind⟩ := h.mark gap inside
  have head := enter_headD inside
  match items with
  | [] =>
    obtain ⟨s₂, reached₂, ready₂⟩ := Behind.laid y fits.1 behind (fun _ => rfl) (by omega) head left
      next
    exact ⟨s₂, reached₁.trans reached₂, by simpa [Layout.itemTokens] using ready₂⟩
  | (above', z) :: others =>
    have gap' := atGap_write (atGap_writeItems (atGap_nextLine empty n rest) false indent others)
      true indent z
    simp only [Layout.writeItems, Layout.lead, Bool.false_eq_true, if_false, List.append_assoc]
      at behind
    obtain ⟨s₂, reached₂, ready₂⟩ := Behind.laid y fits.1 behind (fun _ => rfl) (by omega) head
      (Nat.le_refl _) (resumes_entry gap')
    obtain ⟨s₃, reached₃, ready₃⟩ := Ready.laidItems z others fits.2 ready₂ (Nat.le_of_eq head)
      left next
    rw [enter_of_headD head, opening_of_headD head] at ready₃
    exact ⟨s₃, (reached₁.trans reached₂).trans reached₃, by simpa [Layout.itemTokens] using ready₃⟩
termination_by sizeOf ((above, y) :: items)

theorem Ready.laidFields (k : Word) (y : Layout) (fields : List (Nat × Word × Layout))
    {indent above empty n : Nat} {rest : List Char} {margins : List Nat} {ts : List Token}
    {s : Scanner} (fits : Layout.FieldsFit ((above, k, y) :: fields))
    (h : Ready (k.text.toList ++ ':' :: (y.write false indent ++
      (Layout.writeFields false indent fields ++ (nextLine empty n ++ rest)))) indent margins true
      ts s)
    (inside : margins.headD 0 ≤ indent + 1) (left : n ≤ indent) (next : Resumes rest) :
    ∃ s', Reaches s s' ∧ Ready rest n (enter indent margins) true
      (ts ++ opening indent .blockMapping margins ++ Layout.fieldTokens ((above, k, y) :: fields))
      s' := by
  have gap := atGap_write (atGap_writeFields (atGap_nextLine empty n rest) false indent fields)
    false indent y
  obtain ⟨s₁, reached₁, behind⟩ := h.key fits.1.stands fits.1.short fits.1.marker gap inside
  have head := enter_headD inside
  match fields with
  | [] =>
    obtain ⟨s₂, reached₂, ready₂⟩ := Behind.laid y fits.2.1 behind nofun (by omega) head left next
    exact ⟨s₂, reached₁.trans reached₂, by simpa [Layout.fieldTokens] using ready₂⟩
  | (above', k', z) :: others =>
    simp only [Layout.writeFields, Layout.lead, Bool.false_eq_true, if_false, List.append_assoc]
      at behind
    obtain ⟨s₂, reached₂, ready₂⟩ := Behind.laid y fits.2.1 behind nofun (by omega) head
      (Nat.le_refl _) (resumes_key fits.2.2.1 _)
    obtain ⟨s₃, reached₃, ready₃⟩ := Ready.laidFields k' z others fits.2.2 ready₂
      (Nat.le_of_eq head) left next
    rw [enter_of_headD head, opening_of_headD head] at ready₃
    exact ⟨s₃, (reached₁.trans reached₂).trans reached₃,
      by simpa [Layout.fieldTokens] using ready₃⟩
termination_by sizeOf ((above, k, y) :: fields)

end

end Nodes

end Scanner

theorem tokenize_document {above : Nat} {k : Word} {x : Layout}
    {fields : List (Nat × Word × Layout)} (fits : Layout.FieldsFit ((above, k, x) :: fields)) :
    tokenize (Layout.document ((above, k, x) :: fields)) =
      (Layout.record ((above, k, x) :: fields)).tokens ++ [.streamEnd] := by
  have text : Layout.document ((above, k, x) :: fields) = k.text.toList ++ ':' ::
      (x.write false 0 ++ (Layout.writeFields false 0 fields ++ (nextLine 0 0 ++ []))) := by
    simp [Layout.document, nextLine, spaces]
  rw [text]
  have start := Scanner.ready_start (Scanner.resumes_key fits.1 (x.write false 0 ++
    (Layout.writeFields false 0 fields ++ (nextLine 0 0 ++ [])))).start
  obtain ⟨s', reached, ready⟩ := Scanner.Ready.laidFields k x fields fits start (by decide)
    (Nat.le_refl 0) resumes_nil
  refine (Scanner.tokenize_of_reaches reached ready).trans ?_
  simp [Scanner.opening, Layout.tokens]

end CiWorkflow.Yaml
