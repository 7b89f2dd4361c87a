import CiWorkflow.Proofs.Yaml.Layout
import CiWorkflow.Proofs.Yaml.Read

set_option autoImplicit false

namespace CiWorkflow.Yaml

open Node

namespace Layout

mutual

def node : Layout → Node
  | word w _ => .scalar (Tag.ofPlain w.text.toList) w.text
  | quoted _ text => .scalar .str text
  | bracketed text => .sequence .seq [.scalar .str text]
  | absent => Node.empty
  | list items => .sequence .seq (itemNodes items)
  | record fields => .mapping .map (fieldNodes fields)

def itemNodes : List (Nat × Layout) → List Node
  | [] => []
  | (_, x) :: items => node x :: itemNodes items

def fieldNodes : List (Nat × Word × Layout) → List (Node × Node)
  | [] => []
  | (_, k, x) :: fields =>
    (.scalar (Tag.ofPlain k.text.toList) k.text, node x) :: fieldNodes fields

end

mutual

def value : Layout → Value
  | word w _ => w.value
  | quoted _ text => .text text
  | bracketed text => .list [.text text]
  | absent => .null
  | list items => .list (itemValues items)
  | record fields => .map (fieldValues fields)

def itemValues : List (Nat × Layout) → List Value
  | [] => []
  | (_, x) :: items => value x :: itemValues items

def fieldValues : List (Nat × Word × Layout) → List (Value × Value)
  | [] => []
  | (_, k, x) :: fields => (k.value, value x) :: fieldValues fields

end

section Parse
variable {handles : List (String × String)} {fuel : Nat} {loose : Bool} {ts : List Token}

theorem parse_word {w : Word} (stands : Stands w.text.toList) (block : Bool) :
    parse (fuel + 1) block loose (reader handles (.scalar true w.text :: ts)) =
      .ok (.scalar (Tag.ofPlain w.text.toList) w.text, reader handles ts) := by
  have newline : w.text.toList.getLast? ≠ some '\n' := fun last =>
    absurd rfl (stands.inline _ (List.mem_of_getLast? last)).ne_newline
  rw [← ofScalar_of_getLast? newline]
  exact parse_scalar true w.text block

theorem parse_bracketed (text : String) :
    parse (fuel + 4) true loose
      (reader handles (.openSequence :: .scalar false text :: .closeSequence :: ts)) =
        .ok (.sequence .seq [.scalar .str text], reader handles ts) :=
  parse_openSequence rfl

/-- Where a node may be absent, a token comes behind it that none starts with. -/
def Stops (stops rest : List Token) : Prop :=
  (stops = [.entry, .blockEnd] ∨ stops = [.key, .value, .blockEnd]) ∧
    ∃ t r, rest = t :: r ∧ t ∈ stops

theorem stops_items (items : List (Nat × Layout)) (ts : List Token) :
    Stops [.entry, .blockEnd] (itemTokens items ++ .blockEnd :: ts) := by
  refine ⟨.inl rfl, ?_⟩
  cases items with
  | nil => exact ⟨_, _, rfl, by decide⟩
  | cons _ items => exact ⟨_, _, rfl, by decide⟩

theorem stops_fields (fields : List (Nat × Word × Layout)) (ts : List Token) :
    Stops [.key, .value, .blockEnd] (fieldTokens fields ++ .blockEnd :: ts) := by
  refine ⟨.inr rfl, ?_⟩
  cases fields with
  | nil => exact ⟨_, _, rfl, by decide⟩
  | cons _ fields => exact ⟨_, _, rfl, by decide⟩

theorem parseUnless_absent {stops : List Token} (h : Stops stops ts) :
    parseUnless (fuel + 1) true loose stops (reader handles ts) =
      .ok (Node.empty, reader handles ts) := by
  obtain ⟨rfl | rfl, t, r, rfl, mem⟩ := h
  · simp only [List.mem_cons, List.not_mem_nil, or_false] at mem
    rcases mem with rfl | rfl <;> rfl
  · simp only [List.mem_cons, List.not_mem_nil, or_false] at mem
    rcases mem with rfl | rfl | rfl <;> rfl

theorem parseUnless_present {t : Token} {node : Node} {stops rest : List Token}
    (peek : (reader handles (t :: ts)).peek = .ok t) (h : Stops stops rest)
    (other : t ∉ [Token.entry, .key, .value, .blockEnd])
    (parsed : parse fuel true loose (reader handles (t :: ts)) = .ok (node, reader handles rest)) :
    parseUnless (fuel + 1) true loose stops (reader handles (t :: ts)) =
      .ok (node, reader handles rest) := by
  refine parseUnless_of_parse peek ?_ parsed
  obtain ⟨rfl | rfl, -⟩ := h <;> simp_all [isAny]

variable (handles)

-- No part takes more than four steps for each of its tokens: a list in brackets takes four.
mutual

theorem parseUnless_laid (x : Layout) (loose : Bool) (fuel : Nat) {stops rest : List Token}
    (fits : x.Fits) (ends : Stops stops rest) (enough : 4 * x.tokens.length + 3 ≤ fuel) :
    parseUnless fuel true loose stops (reader handles (x.tokens ++ rest)) =
      .ok (x.node, reader handles rest) := by
  obtain ⟨fuel, rfl⟩ : ∃ m, fuel = m + 1 := ⟨fuel - 1, by omega⟩
  match x with
  | .word w _ =>
    obtain ⟨fuel, rfl⟩ : ∃ m, fuel = m + 1 := ⟨fuel - 1, by omega⟩
    exact parseUnless_present rfl ends (by simp) (parse_word fits.1.stands true)
  | .quoted _ text =>
    obtain ⟨fuel, rfl⟩ : ∃ m, fuel = m + 1 := ⟨fuel - 1, by omega⟩
    exact parseUnless_present rfl ends (by simp) (parse_scalar false text true)
  | .bracketed text =>
    obtain ⟨fuel, rfl⟩ : ∃ m, fuel = m + 4 := ⟨fuel - 4, by simp [tokens] at enough; omega⟩
    exact parseUnless_present rfl ends (by simp) (parse_bracketed text)
  | .absent => exact parseUnless_absent ends
  | .list items =>
    have size : (tokens (.list items)).length = (itemTokens items).length + 2 := by simp [tokens]
    obtain ⟨fuel, rfl⟩ : ∃ m, fuel = m + 1 := ⟨fuel - 1, by omega⟩
    have read := parseEntries_laid items fuel rest fits.2 (by omega)
    have text : tokens (.list items) ++ rest =
        .blockSequence :: (itemTokens items ++ .blockEnd :: rest) := by simp [tokens]
    rw [text]
    exact parseUnless_present rfl ends (by simp) (parse_blockSequence read)
  | .record fields =>
    have size : (tokens (.record fields)).length = (fieldTokens fields).length + 2 := by
      simp [tokens]
    obtain ⟨fuel, rfl⟩ : ∃ m, fuel = m + 1 := ⟨fuel - 1, by omega⟩
    have read := parseKeys_laid fields fuel rest fits.2.2 (by omega)
    have text : tokens (.record fields) ++ rest =
        .blockMapping :: (fieldTokens fields ++ .blockEnd :: rest) := by simp [tokens]
    rw [text]
    exact parseUnless_present rfl ends (by simp) (parse_blockMapping read)

theorem parseEntries_laid (items : List (Nat × Layout)) (fuel : Nat) (rest : List Token)
    (fits : ItemsFit items) (enough : 4 * (itemTokens items).length + 1 ≤ fuel) :
    parseEntries fuel (reader handles (itemTokens items ++ .blockEnd :: rest)) =
      .ok (itemNodes items, reader handles rest) := by
  obtain ⟨fuel, rfl⟩ : ∃ m, fuel = m + 1 := ⟨fuel - 1, by omega⟩
  match items with
  | [] => exact parseEntries_end
  | (above, x) :: items =>
    have size : (itemTokens ((above, x) :: items)).length =
        1 + x.tokens.length + (itemTokens items).length := by
      simp [itemTokens]
      omega
    have item := parseUnless_laid x false fuel fits.1 (stops_items items rest) (by omega)
    have more := parseEntries_laid items fuel rest fits.2 (by omega)
    have text : itemTokens ((above, x) :: items) ++ .blockEnd :: rest =
        .entry :: (x.tokens ++ (itemTokens items ++ .blockEnd :: rest)) := by simp [itemTokens]
    rw [text]
    exact parseEntries_entry item more

theorem parseKeys_laid (fields : List (Nat × Word × Layout)) (fuel : Nat) (rest : List Token)
    (fits : FieldsFit fields) (enough : 4 * (fieldTokens fields).length + 1 ≤ fuel) :
    parseKeys fuel (reader handles (fieldTokens fields ++ .blockEnd :: rest)) =
      .ok (fieldNodes fields, reader handles rest) := by
  obtain ⟨fuel, rfl⟩ : ∃ m, fuel = m + 1 := ⟨fuel - 1, by omega⟩
  match fields with
  | [] => rfl
  | (above, k, x) :: fields =>
    have size : (fieldTokens ((above, k, x) :: fields)).length =
        3 + x.tokens.length + (fieldTokens fields).length := by
      simp [fieldTokens]
      omega
    obtain ⟨fuel, rfl⟩ : ∃ m, fuel = m + 2 := ⟨fuel - 2, by omega⟩
    have value := parseUnless_laid x true (fuel + 1) fits.2.1 (stops_fields fields rest) (by omega)
    have more := parseKeys_laid fields (fuel + 2) rest fits.2.2 (by omega)
    have text : fieldTokens ((above, k, x) :: fields) ++ .blockEnd :: rest =
        .key :: .scalar true k.text :: .value ::
          (x.tokens ++ (fieldTokens fields ++ .blockEnd :: rest)) := by simp [fieldTokens]
    rw [text]
    exact parseKeys_entry (parseUnless_of_parse rfl rfl (parse_word fits.1.stands true))
      (parseBlockValue_value value) more

end

end Parse

section Meaning

theorem key?_of_scalarValue {t : Tag} {s : String} {v : Value} (h : scalarValue t s = .ok v) :
    v.key?.isSome := by
  obtain ⟨-, rfl⟩ | ⟨key, -⟩ := shape_of_scalarValue h
  · rfl
  · exact key

variable (follow : String → Value)

theorem meaning_scalar {t : Tag} {s : String} {v : Value} (h : scalarValue t s = .ok v)
    (level : Nat) : meaning follow level (.scalar t s) = ⟨v, []⟩ := by
  cases t with
  | seq | map | set | omap | pairs => cases h
  | _ => simp [meaning, h, Meaning.ofExcept]

theorem map_fst_fieldValues (fields : List (Nat × Word × Layout)) :
    (fieldValues fields).map (·.1) = fields.map (·.2.1.value) := by
  induction fields with
  | nil => rfl
  | cons f fields ih => simp [fieldValues, ih]

mutual

theorem meaning_laid (x : Layout) (level : Nat) (fits : x.Fits) :
    meaning follow level x.node = ⟨x.value, []⟩ := by
  match x with
  | .word w _ => exact meaning_scalar follow fits.1.value level
  | .quoted _ text => rfl
  | .bracketed text => rfl
  | .absent => rfl
  | .list items =>
    have parts := meanings_laid items (level + 1) fits.2
    simp [node, meaning, parts, value, Function.comp_def]
  | .record fields =>
    have entries := entriesOf_laid fields (level + 1) fits.2.2
    have apart : Value.ofPairs (fieldValues fields) = fieldValues fields := by
      refine ofPairs_of_apart ?_
      rw [map_fst_fieldValues]
      exact fits.2.1
    simp [node, meaning, entries, value, Entries.pairs, Entries.all, Entries.faults,
      Function.comp_def, apart]
    rintro _ k v - rfl
    rfl

theorem meanings_laid (items : List (Nat × Layout)) (level : Nat) (fits : ItemsFit items) :
    meanings follow level (itemNodes items) = (itemValues items).map fun v => ⟨v, []⟩ := by
  match items with
  | [] => rfl
  | (_, x) :: items =>
    simp [itemNodes, meanings, itemValues, meaning_laid x level fits.1,
      meanings_laid items level fits.2]

theorem entriesOf_laid (fields : List (Nat × Word × Layout)) (level : Nat)
    (fits : FieldsFit fields) : entriesOf follow level (fieldNodes fields) =
      ⟨[], (fieldValues fields).map fun p => ⟨p.1, p.2, []⟩, false⟩ := by
  match fields with
  | [] => rfl
  | (_, k, x) :: fields =>
    have more := entriesOf_laid fields level fits.2.2
    have value := meaning_laid x level fits.2.1
    have key := meaning_scalar follow fits.1.value level
    have merge : ¬ Node.tag (.scalar (Tag.ofPlain k.text.toList) k.text) = .merge := fun e => by
      have read := fits.1.value
      rw [show Tag.ofPlain k.text.toList = .merge from e] at read
      cases read
    have ordinary : ¬ Node.tag (.scalar (Tag.ofPlain k.text.toList) k.text) = .default :=
      fun e => by
        have read := fits.1.value
        rw [show Tag.ofPlain k.text.toList = .default from e] at read
        cases read
    rw [fieldNodes, entriesOf.eq_def]
    simp only [if_neg merge, if_neg ordinary, more, value, key]
    simp [entry, key?_of_scalarValue fits.1.value, fieldValues]

end

end Meaning

end Layout

/-- A record that is laid out is read as the value that is laid out. -/
theorem read_document {fields : List (Nat × Word × Layout)} (fits : (Layout.record fields).Fits)
    (allowed : (Layout.document fields).all isAllowed) :
    read (Layout.document fields) = .ok (Layout.record fields).value := by
  obtain ⟨⟨above, k, x⟩, rest, rfl⟩ := List.exists_cons_of_ne_nil fits.1
  have value := Layout.meaning_laid (followTo [] followDepth) (.record ((above, k, x) :: rest)) 0
    fits
  have tokens : (Layout.record ((above, k, x) :: rest)).tokens ++ [.streamEnd] =
      .blockMapping ::
        (Layout.fieldTokens ((above, k, x) :: rest) ++ .blockEnd :: [.streamEnd]) := by
    simp [Layout.tokens]
  have document := ofTokens?_mapping
    (Layout.parseKeys_laid defaultHandles ((above, k, x) :: rest) _ [.streamEnd] fits.2.2
      (by simp; omega))
  rw [read, if_pos allowed, tokenize_document fits.2.2, tokens, document]
  change Document.value ⟨(Layout.record ((above, k, x) :: rest)).node, []⟩ = _
  rw [Document.value, value]
  rfl

end CiWorkflow.Yaml
