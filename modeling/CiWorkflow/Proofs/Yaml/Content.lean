import CiWorkflow.Proofs.Yaml.Tokens

set_option autoImplicit false

namespace CiWorkflow.Yaml

def flagWord (b : Bool) : String := if b then "true" else "false"

mutual

/-- The tokens of a node. A list under a key is not indented, so nothing marks its ends. -/
def Content.tokens (bare : Bool) : Content → List Token
  | .text s => [.scalar (styleOf s.toList == .plain) s]
  | .flag b => [.scalar true (flagWord b)]
  | .list [] => [.openSequence, .closeSequence]
  | .list (c :: items) =>
    if bare then itemTokens (c :: items)
    else .blockSequence :: itemTokens (c :: items) ++ [.blockEnd]
  | .record [] => [.openMapping, .closeMapping]
  | .record (f :: fields) => .blockMapping :: fieldTokens (f :: fields) ++ [.blockEnd]

def itemTokens : List Content → List Token
  | [] => []
  | c :: items => .entry :: c.tokens false ++ itemTokens items

def fieldTokens : List (String × Content) → List Token
  | [] => []
  | (k, c) :: fields => .key :: .scalar true k :: .value :: c.tokens true ++ fieldTokens fields

end

mutual

def Content.depth : Content → Nat
  | .text _ => 1
  | .flag _ => 0
  | .list items => itemDepth items + 1
  | .record fields => fieldDepth fields + 1

def itemDepth : List Content → Nat
  | [] => 0
  | c :: items => max c.depth (itemDepth items)

def fieldDepth : List (String × Content) → Nat
  | [] => 0
  | (_, c) :: fields => max c.depth (fieldDepth fields)

end

mutual

/-- All keys can stand as they are, and those of one record differ. -/
def Content.Keyed : Content → Prop
  | .text _ => True
  | .flag _ => True
  | .list items => ItemsKeyed items
  | .record fields => (fields.map (·.1)).Nodup ∧ FieldsKeyed fields

def ItemsKeyed : List Content → Prop
  | [] => True
  | c :: items => c.Keyed ∧ ItemsKeyed items

def FieldsKeyed : List (String × Content) → Prop
  | [] => True
  | (k, c) :: fields => IsKey k ∧ c.Keyed ∧ FieldsKeyed fields

end

namespace Scanner

theorem enter_headD {column : Nat} {margins : List Nat} (h : margins.headD 0 ≤ column + 1) :
    (enter column margins).headD 0 = column + 1 := by
  unfold enter
  split
  · rfl
  · omega

theorem enter_of_headD {column : Nat} {margins : List Nat} (h : margins.headD 0 = column + 1) :
    enter column margins = margins := by
  rw [enter, if_neg (by omega)]

theorem opening_of_headD {column : Nat} {margins : List Nat} (h : margins.headD 0 = column + 1)
    (t : Token) : opening column t margins = [] := by
  rw [opening, if_neg (by omega)]

theorem flagText_eq (b : Bool) : flagText b = (flagWord b).toList ++ ['\n'] := by
  cases b <;> rfl

theorem flagWord_alphanum (b : Bool) : ∀ c ∈ (flagWord b).toList, c.isAlphanum := by
  have word : (flagWord b).toList.all Char.isAlphanum = true := by cases b <;> decide
  exact List.all_eq_true.1 word

section Words
variable {s : Scanner} {n column : Nat} {rest : List Char} {margins : List Nat} {allowed : Bool}
  {tokens : List Token}

theorem stands_flagWord (b : Bool) : Stands (flagWord b).toList :=
  stands_of_word (flagWord_alphanum b) (by cases b <;> decide)

theorem Ready.flag {b : Bool}
    (h : Ready (flagText b ++ (spaces n ++ rest)) column margins allowed tokens s)
    (right : column ≠ 0) (left : n < margins.headD 0) (inside : margins.headD 0 ≤ column + 1)
    (free : allowed = true → margins.headD 0 ≠ column + 1) (next : Resumes rest) :
    ∃ s', Reaches s s' ∧ Ready rest n margins true (tokens ++ [.scalar true (flagWord b)]) s' := by
  rw [flagText_eq, List.append_assoc, List.singleton_append, ← nextLine_zero_append] at h
  have scanned := h.standing (stands_flagWord b) right left inside free next
  simpa using scanned

theorem starts_of_ascii {c : Char} {r : List Char} (ascii : isPlainAscii c) (space : c ≠ ' ')
    (mark : c ≠ '#') : Starts (c :: r) := by
  rintro d r' e
  obtain ⟨rfl, -⟩ := List.cons.inj e
  exact ⟨isInline_of_isPlainAscii ascii, space, mark⟩

theorem starts_writeText (indent width : Nat) (text : String) (x : List Char) :
    Starts (writeText indent width text ++ '\n' :: x) := by
  cases hs : styleOf text.toList with
  | plain =>
    have plain := (plain_of_styleOf hs).1
    rw [writeText_plain hs]
    cases ht : text.toList with
    | nil => exact absurd (ht ▸ plain) (by decide)
    | cons c r =>
      rw [ht] at plain
      obtain ⟨y, start, fold⟩ := plainStart_of_isPlain plain indent width x
      rw [fold]
      exact start.starts
  | single =>
    rw [writeText_single hs]
    exact starts_of_ascii (c := '\'') (by decide) (by decide) (by decide)
  | double =>
    rw [writeText_double hs]
    exact starts_of_ascii (c := '"') (by decide) (by decide) (by decide)

theorem starts_of_stands {cs : List Char} (h : Stands cs) (x : List Char) : Starts (cs ++ x) := by
  obtain ⟨c, r, rfl⟩ := List.exists_cons_of_ne_nil h.nonempty
  exact (plainStart_of_stands h x).starts

theorem writeItems_cons_append (indent : Nat) (c : Content) (items : List Content)
    (x : List Char) : writeItems indent true (c :: items) ++ x =
      '-' :: ' ' :: (writeItem indent c ++ (writeItems indent false items ++ x)) := by
  simp [writeItems]

theorem writeFields_cons_append (indent : Nat) (k : String) (c : Content)
    (fields : List (String × Content)) (x : List Char) :
    writeFields indent true ((k, c) :: fields) ++ x =
      k.toList ++ ':' ::
        (writeField indent k.length c ++ (writeFields indent false fields ++ x)) := by
  simp [writeFields]

theorem resumes_items (indent : Nat) (c : Content) (items : List Content) (x : List Char) :
    Resumes (writeItems indent true (c :: items) ++ x) := by
  rw [writeItems_cons_append]
  exact ⟨starts_of_ascii (by decide) (by decide) (by decide), rfl⟩

theorem resumes_fields {k : String} (hk : IsKey k) (indent : Nat) (c : Content)
    (fields : List (String × Content)) (x : List Char) :
    Resumes (writeFields indent true ((k, c) :: fields) ++ x) := by
  rw [writeFields_cons_append]
  exact ⟨starts_of_stands hk.stands _, atMarker_append hk.marker (by decide) (by decide) _⟩

theorem starts_flag (b : Bool) (x : List Char) : Starts (flagText b ++ x) := by
  rw [flagText_eq, List.append_assoc]
  exact starts_of_stands (stands_flagWord b) _

theorem starts_writeItem {c : Content} (keyed : c.Keyed) (indent : Nat) (x : List Char) :
    Starts (writeItem indent c ++ x) := by
  cases c with
  | text s =>
    simp only [writeItem, List.append_assoc, List.singleton_append]
    exact starts_writeText _ _ _ _
  | flag b => exact starts_flag b x
  | list items =>
    cases items with
    | nil => exact starts_of_ascii (by decide) (by decide) (by decide)
    | cons c items =>
      rw [writeItem]
      · exact (resumes_items _ _ _ _).start
      · exact nofun
  | record fields =>
    cases fields with
    | nil => exact starts_of_ascii (by decide) (by decide) (by decide)
    | cons f fields =>
      rw [writeItem]
      · exact (resumes_fields keyed.2.1 _ _ _ _).start
      · exact nofun

end Words

section Collections

theorem atGap_writeField (indent key : Nat) (c : Content) (x : List Char) :
    atGap (writeField indent key c ++ x) := by
  match c with
  | .text s => rfl
  | .flag b => rfl
  | .list [] => rfl
  | .record [] => rfl
  | .list (c :: items) => rfl
  | .record (f :: fields) => rfl

theorem opened_cons {indent : Nat} {margins : List Nat} {t : Token}
    (h : margins.headD 0 = indent + 1) :
    opening (indent + 2) t margins = [t] ∧
      enter (indent + 2) margins = (indent + 3) :: margins := by
  rw [opening, enter, if_pos (by omega), if_pos (by omega)]
  exact ⟨rfl, rfl⟩

mutual

theorem Ready.item (c : Content) {indent n : Nat} {rest : List Char} {margins : List Nat}
    {tokens : List Token} {s : Scanner} (keyed : c.Keyed)
    (small : indent + 2 * c.depth < lineWidth)
    (h : Ready (writeItem indent c ++ (spaces n ++ rest)) (indent + 2) margins true tokens s)
    (head : margins.headD 0 = indent + 1) (left : n ≤ indent) (next : Resumes rest) :
    ∃ s', Reaches s s' ∧ Ready rest n margins true (tokens ++ c.tokens false) s' := by
  have free : true = true → margins.headD 0 ≠ indent + 2 + 1 := fun _ => by omega
  match c with
  | .text text =>
    simp only [writeItem, List.append_assoc, List.singleton_append] at h
    simp only [Content.depth] at small
    exact h.text (by omega) (by omega) (by omega) (by omega) (by omega) free next
  | .flag b =>
    simp only [writeItem] at h
    exact h.flag (by omega) (by omega) (by omega) free next
  | .list [] => exact Ready.pair .sequence h (by omega) free next.start
  | .record [] => exact Ready.pair .mapping h (by omega) free next.start
  | .list (c :: items) =>
    rw [writeItem] at h
    · simp only [Content.depth] at small
      obtain ⟨s', reached, ready⟩ := Ready.items c items keyed (by omega) h (by omega) (by omega)
        next
      obtain ⟨opened, entered⟩ := opened_cons (t := .blockSequence) head
      rw [opened, entered] at ready
      have closed := ready.close (by omega)
      exact ⟨s', reached, by simpa [Content.tokens] using closed⟩
    · exact nofun
  | .record ((k, c) :: fields) =>
    rw [writeItem] at h
    · simp only [Content.depth] at small
      obtain ⟨s', reached, ready⟩ := Ready.fields k c fields keyed.2 (by omega) h (by omega)
        (by omega) next
      obtain ⟨opened, entered⟩ := opened_cons (t := .blockMapping) head
      rw [opened, entered] at ready
      have closed := ready.close (by omega)
      exact ⟨s', reached, by simpa [Content.tokens] using closed⟩
    · exact nofun
termination_by sizeOf c

theorem Ready.items (c : Content) (items : List Content) {indent n : Nat} {rest : List Char}
    {margins : List Nat} {tokens : List Token} {s : Scanner} (keyed : ItemsKeyed (c :: items))
    (small : indent + 2 * itemDepth (c :: items) < lineWidth)
    (h : Ready (writeItems indent true (c :: items) ++ (spaces n ++ rest)) indent margins true
      tokens s)
    (inside : margins.headD 0 ≤ indent + 1) (left : n ≤ indent) (next : Resumes rest) :
    ∃ s', Reaches s s' ∧ Ready rest n (enter indent margins) true
      (tokens ++ opening indent .blockSequence margins ++ itemTokens (c :: items)) s' := by
  rw [writeItems_cons_append] at h
  simp only [itemDepth] at small
  obtain ⟨s₁, reached₁, ready₁⟩ := h.entry inside (starts_writeItem keyed.1 indent _)
  have head := enter_headD inside
  match hi : items with
  | [] =>
    obtain ⟨s₂, reached₂, ready₂⟩ := Ready.item c keyed.1 (by omega) ready₁ head left next
    exact ⟨s₂, reached₁.trans reached₂, by simpa [itemTokens] using ready₂⟩
  | d :: others =>
    have more : writeItems indent false (d :: others) ++ (spaces n ++ rest) =
        spaces indent ++ (writeItems indent true (d :: others) ++ (spaces n ++ rest)) := by
      simp [writeItems]
    rw [more] at ready₁
    obtain ⟨s₂, reached₂, ready₂⟩ := Ready.item c keyed.1 (by omega) ready₁ head (Nat.le_refl _)
      (resumes_items indent d others _)
    obtain ⟨s₃, reached₃, ready₃⟩ := Ready.items d others keyed.2 (by omega) ready₂
      (Nat.le_of_eq head) left next
    rw [enter_of_headD head, opening_of_headD head] at ready₃
    exact ⟨s₃, (reached₁.trans reached₂).trans reached₃, by simpa [itemTokens] using ready₃⟩
termination_by sizeOf (c :: items)
decreasing_by
  all_goals subst_vars
  all_goals simp only [List.cons.sizeOf_spec]
  all_goals omega

theorem Behind.field (c : Content) {indent n column key : Nat} {rest : List Char}
    {margins : List Nat} {tokens : List Token} {s : Scanner} (keyed : c.Keyed)
    (small : indent + 2 * c.depth < lineWidth)
    (h : Behind (writeField indent key c ++ (spaces n ++ rest)) column margins false tokens s)
    (right : indent ≤ column) (head : margins.headD 0 = indent + 1) (left : n ≤ indent)
    (next : Resumes rest) :
    ∃ s', Reaches s s' ∧ Ready rest n margins true (tokens ++ c.tokens true) s' := by
  have free : false = true → margins.headD 0 ≠ column + 1 + 1 := nofun
  match c with
  | .text text =>
    simp only [writeField, List.append_assoc, List.cons_append, List.nil_append] at h
    simp only [Content.depth] at small
    have ready := h.inline (starts_writeText _ _ _ _)
    exact ready.text (by omega) (by omega) (by omega) (by omega) (by omega) free next
  | .flag b =>
    simp only [writeField, List.cons_append] at h
    have ready := h.inline (starts_flag b _)
    exact ready.flag (by omega) (by omega) (by omega) free next
  | .list [] =>
    have ready := Behind.inline h (starts_of_ascii (c := '[') (by decide) (by decide) (by decide))
    exact Ready.pair .sequence ready (by omega) free next.start
  | .record [] =>
    have ready := Behind.inline h
      (starts_of_ascii (c := '\x7b') (by decide) (by decide) (by decide))
    exact Ready.pair .mapping ready (by omega) free next.start
  | .list (c :: items) =>
    rw [writeField, List.cons_append, List.cons_append, List.append_assoc,
      ← nextLine_zero_append] at h
    · simp only [Content.depth] at small
      have ready := h.below (resumes_items indent c items _).start
      obtain ⟨s', reached, ready'⟩ := Ready.items c items keyed (by omega) ready (by omega) left
        next
      rw [enter_of_headD head, opening_of_headD head] at ready'
      exact ⟨s', reached, by simpa [Content.tokens] using ready'⟩
    · exact nofun
  | .record ((k, c) :: fields) =>
    rw [writeField, List.cons_append, List.cons_append, List.append_assoc,
      ← nextLine_zero_append] at h
    · simp only [Content.depth] at small
      have ready := h.below (resumes_fields keyed.2.1 (indent + 2) c fields _).start
      obtain ⟨s', reached, ready'⟩ := Ready.fields k c fields keyed.2 (by omega) ready (by omega)
        (by omega) next
      obtain ⟨opened, entered⟩ := opened_cons (t := .blockMapping) head
      rw [opened, entered] at ready'
      have closed := ready'.close (by omega)
      exact ⟨s', reached, by simpa [Content.tokens] using closed⟩
    · exact nofun
termination_by sizeOf c

theorem Ready.fields (k : String) (c : Content) (fields : List (String × Content))
    {indent n : Nat} {rest : List Char} {margins : List Nat} {tokens : List Token} {s : Scanner}
    (keyed : FieldsKeyed ((k, c) :: fields))
    (small : indent + 2 * fieldDepth ((k, c) :: fields) < lineWidth)
    (h : Ready (writeFields indent true ((k, c) :: fields) ++ (spaces n ++ rest)) indent margins
      true tokens s)
    (inside : margins.headD 0 ≤ indent + 1) (left : n ≤ indent) (next : Resumes rest) :
    ∃ s', Reaches s s' ∧ Ready rest n (enter indent margins) true
      (tokens ++ opening indent .blockMapping margins ++ fieldTokens ((k, c) :: fields)) s' := by
  rw [writeFields_cons_append] at h
  simp only [fieldDepth] at small
  obtain ⟨s₁, reached₁, behind⟩ := h.key keyed.1.stands keyed.1.short keyed.1.marker
    (atGap_writeField indent _ c _) inside
  have head := enter_headD inside
  match hf : fields with
  | [] =>
    obtain ⟨s₂, reached₂, ready₂⟩ := Behind.field c keyed.2.1 (by omega) behind (by omega) head
      left next
    exact ⟨s₂, reached₁.trans reached₂, by simpa [fieldTokens] using ready₂⟩
  | (k', c') :: others =>
    have more : writeFields indent false ((k', c') :: others) ++ (spaces n ++ rest) =
        spaces indent ++ (writeFields indent true ((k', c') :: others) ++ (spaces n ++ rest)) := by
      simp [writeFields]
    rw [more] at behind
    obtain ⟨s₂, reached₂, ready₂⟩ := Behind.field c keyed.2.1 (by omega) behind (by omega) head
      (Nat.le_refl _) (resumes_fields keyed.2.2.1 indent c' others _)
    obtain ⟨s₃, reached₃, ready₃⟩ := Ready.fields k' c' others keyed.2.2 (by omega) ready₂
      (Nat.le_of_eq head) left next
    rw [enter_of_headD head, opening_of_headD head] at ready₃
    exact ⟨s₃, (reached₁.trans reached₂).trans reached₃, by simpa [fieldTokens] using ready₃⟩
termination_by sizeOf ((k, c) :: fields)
decreasing_by
  all_goals subst_vars
  all_goals simp only [List.cons.sizeOf_spec, Prod.mk.sizeOf_spec]
  all_goals omega

end

end Collections

/-- At the end of the text the collections that are still open are closed. -/
theorem Ready.finish {m : Nat} {tokens : List Token} {s : Scanner}
    (h : Ready [] 0 [1] true tokens s) :
    run (m + 2) s = (tokens ++ [Token.blockEnd, Token.streamEnd]).toArray := by
  obtain ⟨index, line, prepared⟩ := h.prepared
  rw [unwind_of_le (by decide)] at prepared
  have closed : (block ⟨[], index, line, 0⟩ [1] none true tokens).unwind 0 =
      block ⟨[], index, line, 0⟩ [] none true (tokens ++ [.blockEnd]) := by
    rw [unwind_of_lt Nat.one_pos]
    rfl
  have last : s.next = .ok { block ⟨[], index, line, 0⟩ [] none true
      (tokens ++ [.blockEnd, .streamEnd]) with finished := true } := by
    rw [Scanner.next, prepared]
    change (block ⟨[], index, line, 0⟩ [1] none true tokens).finish = _
    rw [Scanner.finish, closed, dropCandidate_block]
    simp [bind, Except.bind, pure, Except.pure, push, block]
  simp [run, h.running, last, block]

theorem ready_start {cs : List Char} (h : Starts cs) : Ready cs 0 [] true [] (start cs) :=
  ready_inline h 0

theorem tokenize_of_reaches {cs : List Char} {tokens : List Token} {s : Scanner}
    (reached : Reaches (start cs) s) (ready : Ready [] 0 [1] true tokens s) :
    tokenize cs = tokens ++ [.blockEnd, .streamEnd] := by
  obtain ⟨n, shorter, run⟩ := reached
  have steps : cs.length + 2 = n + (cs.length - n + 2) := by
    change n + s.cursor.rest.length ≤ cs.length at shorter
    omega
  rw [tokenize, steps, run, ready.finish]

end Scanner

theorem tokenize_writeFields {k : String} {c : Content} {fields : List (String × Content)}
    (keyed : FieldsKeyed ((k, c) :: fields))
    (small : 2 * fieldDepth ((k, c) :: fields) < lineWidth) :
    tokenize (writeFields 0 true ((k, c) :: fields)) =
      (Content.record ((k, c) :: fields)).tokens false ++ [.streamEnd] := by
  have resumes := Scanner.resumes_fields keyed.1 0 c fields []
  rw [List.append_nil] at resumes
  have start : Scanner.Ready (writeFields 0 true ((k, c) :: fields) ++ (spaces 0 ++ [])) 0 []
      true [] (Scanner.start (writeFields 0 true ((k, c) :: fields))) := by
    rw [show spaces 0 ++ [] = ([] : List Char) from rfl, List.append_nil]
    exact Scanner.ready_start resumes.start
  obtain ⟨s', reached, ready⟩ := Scanner.Ready.fields k c fields keyed (by omega) start (by decide)
    (Nat.le_refl 0) resumes_nil
  rw [Scanner.tokenize_of_reaches reached ready]
  simp [Scanner.opening, Content.tokens]

end CiWorkflow.Yaml
