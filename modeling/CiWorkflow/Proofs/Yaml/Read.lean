import CiWorkflow.Proofs.Yaml.Parse
import CiWorkflow.Yaml.Meaning
import Mathlib.Data.List.Induction

set_option autoImplicit false

namespace CiWorkflow.Yaml

open Node

mutual

def Content.value : Content → Value
  | .text s => .text s
  | .flag b => .bool b
  | .list items => .list (itemValues items)
  | .record fields => .map (fieldValues fields)

def itemValues : List Content → List Value
  | [] => []
  | c :: items => c.value :: itemValues items

def fieldValues : List (String × Content) → List (Value × Value)
  | [] => []
  | (k, c) :: fields => (.text k, c.value) :: fieldValues fields

end

section Meaning

theorem put_of_apart {k v : Value} {entries : List (Value × Value)}
    (h : ∀ e ∈ entries, Value.sameKey k e.1 = false) :
    Value.put k v entries = entries ++ [(k, v)] := by
  induction entries with
  | nil => rfl
  | cons e rest ih =>
    have more := ih fun d hd => h d (List.mem_cons_of_mem _ hd)
    simp [Value.put, h e List.mem_cons_self, more]

theorem ofPairs_of_apart {entries : List (Value × Value)}
    (h : (entries.map (·.1)).Pairwise fun a b => Value.sameKey b a = false) :
    Value.ofPairs entries = entries := by
  induction entries using List.reverseRecOn with
  | nil => rfl
  | append_singleton entries e ih =>
    rw [List.map_append, List.pairwise_append] at h
    obtain ⟨before, -, apart⟩ := h
    have new (d : Value × Value) (hd : d ∈ entries) : Value.sameKey e.1 d.1 = false :=
      apart d.1 (List.mem_map_of_mem hd) e.1 (by simp)
    have known : Value.ofPairs entries = entries := ih before
    rw [Value.ofPairs] at known ⊢
    rw [List.foldl_append, known]
    exact put_of_apart new

theorem map_fst_fieldValues (fields : List (String × Content)) :
    (fieldValues fields).map (·.1) = (fields.map (·.1)).map Value.text := by
  induction fields with
  | nil => rfl
  | cons f fields ih => simp [fieldValues, ih]

theorem ofPairs_fieldValues {fields : List (String × Content)} (h : (fields.map (·.1)).Nodup) :
    Value.ofPairs (fieldValues fields) = fieldValues fields := by
  refine ofPairs_of_apart ?_
  rw [map_fst_fieldValues, List.pairwise_map]
  refine h.imp fun {a b} other => ?_
  rw [Bool.eq_false_iff]
  intro same
  exact other (Value.text.inj (Value.sameKey_text_iff.1 same))

theorem readBool_flagWord (b : Bool) : readBool (flagWord b) = .ok b := by
  have lower : (flagWord b).toLower = flagWord b := by
    apply String.toList_inj.1
    unfold String.toLower
    rw [String.toList_map]
    cases b <;> decide
  rw [readBool, lower]
  cases b with
  | false => rw [if_neg (by decide), if_pos (by decide)]
  | true => rw [if_pos (by decide)]

variable (follow : String → Value)

mutual

theorem meaning_node (c : Content) (level : Nat) (keyed : c.Keyed) :
    meaning follow level c.node = ⟨c.value, []⟩ := by
  match c with
  | .text s => rfl
  | .flag b =>
    have read : scalarValue .bool (flagWord b) = .ok (.bool b) := by
      rw [scalarValue, readBool_flagWord]
      rfl
    rw [Content.node, meaning]
    · rw [read]
      rfl
    all_goals exact nofun
  | .list items =>
    have parts := meanings_itemNodes items (level + 1) keyed
    simp [Content.node, meaning, parts, Content.value, Function.comp_def]
  | .record fields =>
    have entries := entriesOf_fieldNodes fields (level + 1) keyed.2
    simp [Content.node, meaning, entries, Content.value, Entries.pairs, Entries.all, Entries.faults,
      Function.comp_def, ofPairs_fieldValues keyed.1]
    rintro _ k v - rfl
    rfl

theorem meanings_itemNodes (items : List Content) (level : Nat) (keyed : ItemsKeyed items) :
    meanings follow level (itemNodes items) = (itemValues items).map fun v => ⟨v, []⟩ := by
  match items with
  | [] => rfl
  | c :: items =>
    simp [itemNodes, meanings, itemValues, meaning_node c level keyed.1,
      meanings_itemNodes items level keyed.2]

theorem entriesOf_fieldNodes (fields : List (String × Content)) (level : Nat)
    (keyed : FieldsKeyed fields) : entriesOf follow level (fieldNodes fields) =
      ⟨[], (fieldValues fields).map fun p => ⟨p.1, p.2, []⟩, false⟩ := by
  match fields with
  | [] => rfl
  | (k, c) :: fields =>
    have more := entriesOf_fieldNodes fields level keyed.2.2
    have value := meaning_node c level keyed.2.1
    have merge : ¬ Node.tag (.scalar .str k) = .merge := nofun
    have ordinary : ¬ Node.tag (.scalar .str k) = .default := nofun
    have key : meaning follow level (.scalar .str k) = ⟨.text k, []⟩ := rfl
    rw [fieldNodes, entriesOf.eq_def]
    simp only [if_neg merge, if_neg ordinary, more, value, key]
    rfl

end

end Meaning

theorem ofTokens?_mapping {ts : List Token} {entries : List (Node × Node)}
    (h : parseKeys (4 * ts.length + 11) (reader defaultHandles ts) =
      .ok (entries, reader defaultHandles [.streamEnd])) :
    ofTokens? (.blockMapping :: ts) = .ok (some ⟨.mapping .map entries, []⟩) := by
  rw [ofTokens?]
  change Except.bind (parse _ true false (reader defaultHandles _)) _ = _
  rw [List.length_cons, Nat.mul_add, parse_blockMapping h]
  rfl

theorem ofTokens?_record {k : String} {c : Content} {fields : List (String × Content)}
    (keyed : FieldsKeyed ((k, c) :: fields)) :
    ofTokens? ((Content.record ((k, c) :: fields)).tokens false ++ [.streamEnd]) =
      .ok (some ⟨.mapping .map (fieldNodes ((k, c) :: fields)), []⟩) := by
  have text : (Content.record ((k, c) :: fields)).tokens false ++ [.streamEnd] =
      .blockMapping :: (fieldTokens ((k, c) :: fields) ++ .blockEnd :: [.streamEnd]) := by
    simp [Content.tokens]
  rw [text]
  exact ofTokens?_mapping (parseKeys_tokens _ _ _ _ keyed (by simp; omega))

section Printed

def Printed (cs : List Char) : Prop := ∀ c ∈ cs, isPlainAscii c ∨ c = '\n'

theorem Printed.nil : Printed [] := nofun

theorem printed_append {a b : List Char} : Printed (a ++ b) ↔ Printed a ∧ Printed b :=
  List.forall_mem_append

theorem printed_cons {c : Char} {cs : List Char} :
    Printed (c :: cs) ↔ (isPlainAscii c ∨ c = '\n') ∧ Printed cs :=
  List.forall_mem_cons

theorem printed_spaces (n : Nat) : Printed (spaces n) :=
  fun c hc => .inl (isPlainAscii_spaces n c hc)

theorem printed_foldPlain {cs : List Char} (h : ∀ c ∈ cs, isPlainAscii c) (indent column : Nat)
    (after : Bool) : Printed (foldPlain indent after column cs) := by
  induction cs generalizing after column with
  | nil => exact .nil
  | cons c r ih =>
    have more := ih fun d hd => h d (List.mem_cons_of_mem _ hd)
    rw [foldPlain]
    split
    · rw [List.cons_append, printed_cons, printed_append]
      exact ⟨.inr rfl, printed_spaces indent, more _ _⟩
    · exact printed_cons.2 ⟨.inl (h c List.mem_cons_self), more _ _⟩

theorem printed_foldSingle {cs : List Char} (h : Printed cs) (indent column : Nat)
    (p : Option Char) : Printed (foldSingle indent p column cs) := by
  induction cs generalizing p column with
  | nil => exact .nil
  | cons c r ih =>
    obtain ⟨head, rest⟩ := printed_cons.1 h
    have more := ih rest
    rw [foldSingle]
    split
    · simp only [printed_append, printed_cons]
      refine ⟨⟨?_, .inr trivial, ?_⟩, more _ _⟩
      · split <;> simp [Printed]
      · split
        · exact .nil
        · exact printed_spaces indent
    · split
      · rw [List.cons_append, printed_cons, printed_append]
        exact ⟨.inr rfl, printed_spaces indent, more _ _⟩
      · split
        · exact printed_cons.2 ⟨.inl rfl, printed_cons.2 ⟨.inl rfl, more _ _⟩⟩
        · exact printed_cons.2 ⟨head, more _ _⟩

theorem printed_upperHex (k n : Nat) : Printed (upperHex k n) := by
  have digit : ∀ d < 16, isPlainAscii (upperHexDigit d) = true := by decide
  induction k generalizing n with
  | zero => exact .nil
  | succ k ih =>
    rw [upperHex, printed_append]
    refine ⟨ih _, fun c hc => .inl ?_⟩
    rw [List.mem_singleton.1 hc]
    exact digit _ (Nat.mod_lt n (by decide))

theorem isPlainAscii_of_escapeLetter? {c l : Char} (h : escapeLetter? c = some l) :
    isPlainAscii l := by
  unfold escapeLetter? at h
  split at h <;> simp_all <;> subst_vars <;> decide

theorem printed_escape {c : Char} {e : List Char} (h : escape? c = some e) : Printed e := by
  have code (l : Char) (hl : isPlainAscii l) (k : Nat) :
      Printed ('\\' :: l :: upperHex k c.toNat) :=
    printed_cons.2 ⟨.inl rfl, printed_cons.2 ⟨.inl hl, printed_upperHex k c.toNat⟩⟩
  rw [escape?] at h
  split at h
  next l letter =>
    obtain rfl := Option.some.inj h
    exact printed_cons.2 ⟨.inl rfl,
      printed_cons.2 ⟨.inl (isPlainAscii_of_escapeLetter? letter), .nil⟩⟩
  next =>
    split at h
    · cases h
    · split at h
      · obtain rfl := Option.some.inj h
        exact code 'x' (by decide) 2
      · split at h
        · obtain rfl := Option.some.inj h
          exact code 'u' (by decide) 4
        · obtain rfl := Option.some.inj h
          exact code 'U' (by decide) 8

theorem printed_breakLine (indent : Nat) (next : Option Char) :
    Printed (breakLine indent next) := by
  refine printed_append.2 ⟨printed_cons.2 ⟨.inl rfl, printed_cons.2 ⟨.inr rfl,
    printed_spaces indent⟩⟩, ?_⟩
  split
  · exact printed_cons.2 ⟨.inl rfl, .nil⟩
  · exact .nil

theorem printed_foldDouble (cs : List Char) (indent column : Nat) (before : Before) :
    Printed (foldDouble indent before column cs) := by
  induction cs generalizing column before with
  | nil => exact .nil
  | cons c r ih =>
    rw [foldDouble]
    cases h : escape? c with
    | some e =>
      have escape := printed_escape h
      simp only
      split
      · simp only [printed_append]
        exact ⟨⟨escape, printed_breakLine _ _⟩, ih _ _⟩
      · exact printed_append.2 ⟨escape, ih _ _⟩
    | none =>
      have ascii := isPlainAscii_of_escape? h
      simp only
      split
      · simp only [printed_append, printed_cons]
        exact ⟨printed_breakLine _ _, .inl ascii, ih _ _⟩
      · exact printed_cons.2 ⟨.inl ascii, ih _ _⟩

theorem printed_writeText (indent column : Nat) (s : String) :
    Printed (writeText indent column s) := by
  cases h : styleOf s.toList with
  | plain =>
    rw [writeText_plain h]
    have ascii := (stands_of_isPlain (plain_of_styleOf h).1).2.1
    exact printed_foldPlain (List.all_eq_true.1 ascii) _ _ _
  | single =>
    rw [writeText_single h]
    simp only [printed_append, printed_cons]
    exact ⟨⟨.inl rfl, printed_foldSingle (single_of_styleOf h).1 _ _ _⟩, .inl rfl, .nil⟩
  | double =>
    rw [writeText_double h]
    simp only [printed_append, printed_cons]
    exact ⟨⟨.inl rfl, printed_foldDouble _ _ _ _⟩, .inl rfl, .nil⟩

theorem printed_word {w : List Char} (h : ∀ c ∈ w, c.isAlphanum) : Printed w :=
  fun c hc => .inl (isPlainAscii_of_isAlphanum (h c hc)).1

theorem printed_flagText (b : Bool) : Printed (flagText b) := by
  rw [Scanner.flagText_eq, printed_append]
  exact ⟨printed_word (Scanner.flagWord_alphanum b), printed_cons.2 ⟨.inr rfl, .nil⟩⟩

theorem printed_pair {a b : Char} (ha : isPlainAscii a) (hb : isPlainAscii b) :
    Printed [a, b, '\n'] :=
  printed_cons.2 ⟨.inl ha, printed_cons.2 ⟨.inl hb, printed_cons.2 ⟨.inr rfl, .nil⟩⟩⟩

mutual

theorem printed_writeItems (items : List Content) (indent : Nat) (first : Bool)
    (keyed : ItemsKeyed items) : Printed (writeItems indent first items) := by
  match items with
  | [] => exact .nil
  | c :: items =>
    simp only [writeItems, printed_append, printed_cons]
    refine ⟨⟨?_, .inl rfl, .inl rfl, printed_writeItem c indent keyed.1⟩,
      printed_writeItems items indent false keyed.2⟩
    split
    · exact .nil
    · exact printed_spaces indent

theorem printed_writeItem (c : Content) (indent : Nat) (keyed : c.Keyed) :
    Printed (writeItem indent c) := by
  match c with
  | .text s =>
    rw [writeItem, printed_append]
    exact ⟨printed_writeText _ _ _, printed_cons.2 ⟨.inr rfl, .nil⟩⟩
  | .flag b => exact printed_flagText b
  | .list [] => exact printed_pair (a := '[') (b := ']') (by decide) (by decide)
  | .record [] => exact printed_pair (a := '\x7b') (b := '\x7d') (by decide) (by decide)
  | .list (c :: items) =>
    rw [writeItem]
    · exact printed_writeItems (c :: items) (indent + 2) true keyed
    · exact nofun
  | .record (f :: fields) =>
    rw [writeItem]
    · exact printed_writeFields (f :: fields) (indent + 2) true keyed.2
    · exact nofun

theorem printed_writeFields (fields : List (String × Content)) (indent : Nat) (first : Bool)
    (keyed : FieldsKeyed fields) : Printed (writeFields indent first fields) := by
  match fields with
  | [] => exact .nil
  | (k, c) :: fields =>
    simp only [writeFields, printed_append, printed_cons]
    refine ⟨⟨⟨?_, printed_word keyed.1.word⟩, .inl rfl,
      printed_writeField c indent k.length keyed.2.1⟩,
      printed_writeFields fields indent false keyed.2.2⟩
    split
    · exact .nil
    · exact printed_spaces indent

theorem printed_writeField (c : Content) (indent key : Nat) (keyed : c.Keyed) :
    Printed (writeField indent key c) := by
  match c with
  | .text s =>
    simp only [writeField, printed_append, printed_cons]
    exact ⟨⟨.inl rfl, printed_writeText _ _ _⟩, .inr trivial, .nil⟩
  | .flag b => exact printed_cons.2 ⟨.inl rfl, printed_flagText b⟩
  | .list [] =>
    exact printed_cons.2 ⟨.inl rfl, printed_pair (a := '[') (b := ']') (by decide) (by decide)⟩
  | .record [] =>
    exact printed_cons.2 ⟨.inl rfl,
      printed_pair (a := '\x7b') (b := '\x7d') (by decide) (by decide)⟩
  | .list (c :: items) =>
    rw [writeField]
    · simp only [printed_append, printed_cons]
      exact ⟨⟨.inr trivial, printed_spaces indent⟩,
        printed_writeItems (c :: items) indent true keyed⟩
    · exact nofun
  | .record (f :: fields) =>
    rw [writeField]
    · simp only [printed_append, printed_cons]
      exact ⟨⟨.inr trivial, printed_spaces _⟩, printed_writeFields (f :: fields) _ true keyed.2⟩
    · exact nofun

end

end Printed

theorem isAllowed_of_printed {cs : List Char} (h : Printed cs) : cs.all isAllowed = true := by
  rw [List.all_eq_true]
  intro c hc
  rcases h c hc with ascii | rfl
  · simp only [isPlainAscii, Bool.and_eq_true, decide_eq_true_eq] at ascii
    have low : 0x20 ≤ c.toNat := ascii.1
    have high : c.toNat ≤ 0x7E := ascii.2
    simp [isAllowed, low, high]
  · rfl

/-- A record that is written is read back, if no line is indented too far. -/
theorem read_write {fields : List (String × Content)} (nonempty : fields ≠ [])
    (keyed : (Content.record fields).Keyed) (small : 2 * fieldDepth fields < lineWidth) :
    read (write fields).toList = .ok (.map (fieldValues fields)) := by
  obtain ⟨⟨k, c⟩, rest, rfl⟩ := List.exists_cons_of_ne_nil nonempty
  have allowed := isAllowed_of_printed (printed_writeFields ((k, c) :: rest) 0 true keyed.2)
  have value := meaning_node (followTo [] followDepth) (.record ((k, c) :: rest)) 0 keyed
  rw [write, String.toList_ofList, read, if_pos allowed, tokenize_writeFields keyed.2 small,
    ofTokens?_record keyed.2]
  change Document.value ⟨(Content.record ((k, c) :: rest)).node, []⟩ = _
  rw [Document.value, value]
  rfl

end CiWorkflow.Yaml
