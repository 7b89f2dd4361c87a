import CiWorkflow.Proofs.Yaml.Content
import CiWorkflow.Yaml.Node

set_option autoImplicit false

namespace CiWorkflow.Yaml

open Node

mutual

def Content.node : Content → Node
  | .text s => .scalar .str s
  | .flag b => .scalar .bool (flagWord b)
  | .list items => .sequence .seq (itemNodes items)
  | .record fields => .mapping .map (fieldNodes fields)

def itemNodes : List Content → List Node
  | [] => []
  | c :: items => c.node :: itemNodes items

def fieldNodes : List (String × Content) → List (Node × Node)
  | [] => []
  | (k, c) :: fields => (.scalar .str k, c.node) :: fieldNodes fields

end

section Steps
variable {handles : List (String × String)} {fuel : Nat} {loose : Bool} {ts : List Token}

def reader (handles : List (String × String)) (ts : List Token) : Parser := ⟨ts, [], handles⟩

theorem parse_scalar (plain : Bool) (text : String) (block : Bool) :
    parse (fuel + 1) block loose (reader handles (.scalar plain text :: ts)) =
      .ok (.scalar (scalarTag plain text none) text, reader handles ts) := by
  rw [parse]
  rfl

theorem parse_blockSequence {items : List Node} {rest : List Token}
    (h : parseEntries fuel (reader handles ts) = .ok (items, reader handles rest)) :
    parse (fuel + 1) true loose (reader handles (.blockSequence :: ts)) =
      .ok (.sequence .seq items, reader handles rest) := by
  rw [parse]
  change Except.bind (Except.bind (parseEntries fuel (reader handles ts)) _) _ = _
  rw [h]
  rfl

theorem parse_blockMapping {items : List (Node × Node)} {rest : List Token}
    (h : parseKeys fuel (reader handles ts) = .ok (items, reader handles rest)) :
    parse (fuel + 1) true loose (reader handles (.blockMapping :: ts)) =
      .ok (.mapping .map items, reader handles rest) := by
  rw [parse]
  change Except.bind (Except.bind (parseKeys fuel (reader handles ts)) _) _ = _
  rw [h]
  rfl

theorem parse_loose {items : List Node} {rest : List Token}
    (h : parseLooseEntries fuel (reader handles (.entry :: ts)) =
      .ok (items, reader handles rest)) :
    parse (fuel + 1) true true (reader handles (.entry :: ts)) =
      .ok (.sequence .seq items, reader handles rest) := by
  rw [parse]
  change Except.bind (Except.bind (parseLooseEntries fuel (reader handles (.entry :: ts))) _) _ = _
  rw [h]
  rfl

theorem parse_openSequence_eq (block : Bool) :
    parse (fuel + 1) block loose (reader handles (.openSequence :: ts)) = (do
      let (items, p) ← parseFlowItems fuel true (reader handles ts)
      pure (.sequence .seq items, p)) := by
  rw [parse]
  change Except.bind (Except.bind (parseFlowItems fuel true (reader handles ts)) _) _ = _
  cases parseFlowItems fuel true (reader handles ts) <;> rfl

theorem parse_openSequence {items : List Node} {rest : List Token}
    (h : parseFlowItems fuel true (reader handles ts) = .ok (items, reader handles rest)) :
    parse (fuel + 1) true loose (reader handles (.openSequence :: ts)) =
      .ok (.sequence .seq items, reader handles rest) := by
  rw [parse_openSequence_eq, h]
  rfl

theorem parse_openMapping_eq (block : Bool) :
    parse (fuel + 1) block loose (reader handles (.openMapping :: ts)) = (do
      let (entries, p) ← parseFlowEntries fuel true (reader handles ts)
      pure (.mapping .map entries, p)) := by
  rw [parse]
  change Except.bind (Except.bind (parseFlowEntries fuel true (reader handles ts)) _) _ = _
  cases parseFlowEntries fuel true (reader handles ts) <;> rfl

theorem parse_openMapping {items : List (Node × Node)} {rest : List Token}
    (h : parseFlowEntries fuel true (reader handles ts) = .ok (items, reader handles rest)) :
    parse (fuel + 1) true loose (reader handles (.openMapping :: ts)) =
      .ok (.mapping .map items, reader handles rest) := by
  rw [parse_openMapping_eq, h]
  rfl

theorem parseFlowItems_close : parseFlowItems (fuel + 1) true
    (reader handles (.closeSequence :: ts)) = .ok ([], reader handles ts) := rfl

theorem parseFlowEntries_close : parseFlowEntries (fuel + 1) true
    (reader handles (.closeMapping :: ts)) = .ok ([], reader handles ts) := rfl

theorem parseUnless_of_parse {t : Token} {stops : List Token} {node : Node} {rest : List Token}
    (peek : (reader handles (t :: ts)).peek = .ok t) (ht : isAny stops t = false)
    (h : parse fuel true loose (reader handles (t :: ts)) = .ok (node, reader handles rest)) :
    parseUnless (fuel + 1) true loose stops (reader handles (t :: ts)) =
      .ok (node, reader handles rest) := by
  rw [parseUnless, peek]
  simp [bind, Except.bind, ht, h]

theorem parseEntries_entry {item : Node} {items : List Node} {mid rest : List Token}
    (h : parseUnless fuel true false [.entry, .blockEnd] (reader handles ts) =
      .ok (item, reader handles mid))
    (h' : parseEntries fuel (reader handles mid) = .ok (items, reader handles rest)) :
    parseEntries (fuel + 1) (reader handles (.entry :: ts)) =
      .ok (item :: items, reader handles rest) := by
  rw [parseEntries]
  change Except.bind (parseUnless fuel true false [.entry, .blockEnd] (reader handles ts)) _ = _
  rw [h]
  change Except.bind (parseEntries fuel (reader handles mid)) _ = _
  rw [h']
  rfl

theorem parseEntries_end : parseEntries (fuel + 1) (reader handles (.blockEnd :: ts)) =
    .ok ([], reader handles ts) := rfl

theorem parseLooseEntries_entry {item : Node} {items : List Node} {mid rest : List Token}
    (h : parseUnless fuel true false [.entry, .key, .value, .blockEnd] (reader handles ts) =
      .ok (item, reader handles mid))
    (h' : parseLooseEntries fuel (reader handles mid) = .ok (items, reader handles rest)) :
    parseLooseEntries (fuel + 1) (reader handles (.entry :: ts)) =
      .ok (item :: items, reader handles rest) := by
  rw [parseLooseEntries]
  change Except.bind (parseUnless fuel true false [.entry, .key, .value, .blockEnd]
    (reader handles ts)) _ = _
  rw [h]
  change Except.bind (parseLooseEntries fuel (reader handles mid)) _ = _
  rw [h']
  rfl

theorem parseKeys_entry {key value : Node} {entries : List (Node × Node)}
    {ts₁ ts₂ rest : List Token}
    (h : parseUnless fuel true true [.key, .value, .blockEnd] (reader handles ts) =
      .ok (key, reader handles ts₁))
    (h₁ : parseBlockValue fuel (reader handles ts₁) = .ok (value, reader handles ts₂))
    (h₂ : parseKeys fuel (reader handles ts₂) = .ok (entries, reader handles rest)) :
    parseKeys (fuel + 1) (reader handles (.key :: ts)) =
      .ok ((key, value) :: entries, reader handles rest) := by
  rw [parseKeys]
  change Except.bind (parseUnless fuel true true [.key, .value, .blockEnd]
    (reader handles ts)) _ = _
  rw [h]
  change Except.bind (parseBlockValue fuel (reader handles ts₁)) _ = _
  rw [h₁]
  change Except.bind (parseKeys fuel (reader handles ts₂)) _ = _
  rw [h₂]
  rfl

theorem parseUnless_key {k : String} (str : Tag.ofScalar k.toList = .str) :
    parseUnless (fuel + 2) true true [.key, .value, .blockEnd]
      (reader handles (.scalar true k :: .value :: ts)) =
        .ok (.scalar .str k, reader handles (.value :: ts)) := by
  have scalar : parse (fuel + 1) true true (reader handles (.scalar true k :: .value :: ts)) =
      .ok (.scalar (Tag.ofScalar k.toList) k, reader handles (.value :: ts)) :=
    parse_scalar true k true
  rw [str] at scalar
  exact parseUnless_of_parse rfl rfl scalar

theorem parseBlockValue_value {value : Node} {rest : List Token}
    (h : parseUnless fuel true true [.key, .value, .blockEnd] (reader handles ts) =
      .ok (value, reader handles rest)) :
    parseBlockValue (fuel + 1) (reader handles (.value :: ts)) =
      .ok (value, reader handles rest) := by
  rw [parseBlockValue]
  exact h

theorem parseFlowItems_comma : parseFlowItems fuel false (reader handles (.comma :: ts)) =
    parseFlowItems fuel true (reader handles ts) := by
  cases fuel with
  | zero => rfl
  | succ fuel =>
    rw [parseFlowItems, parseFlowItems]
    have comma : (reader handles (.comma :: ts)).peek = .ok .comma := rfl
    have skipped : (reader handles (.comma :: ts)).skip = reader handles ts := rfl
    simp only [comma, skipped, bind, Except.bind]
    cases h : (reader handles ts).peek with
    | error f => simp [h]
    | ok t => cases t <;> simp [h, pure, Except.pure]

theorem parseFlowEntries_comma : parseFlowEntries fuel false (reader handles (.comma :: ts)) =
    parseFlowEntries fuel true (reader handles ts) := by
  cases fuel with
  | zero => rfl
  | succ fuel =>
    rw [parseFlowEntries, parseFlowEntries]
    have comma : (reader handles (.comma :: ts)).peek = .ok .comma := rfl
    have skipped : (reader handles (.comma :: ts)).skip = reader handles ts := rfl
    simp only [comma, skipped, bind, Except.bind]
    cases h : (reader handles ts).peek with
    | error f => simp [h]
    | ok t => cases t <;> simp [h, pure, Except.pure]

def Token.StartsNode : Token → Prop
  | .scalar _ _ | .openSequence | .openMapping => True
  | _ => False

theorem Token.StartsNode.peek {t : Token} (h : t.StartsNode) :
    (reader handles (t :: ts)).peek = .ok t := by
  cases t <;> first | rfl | cases h

theorem parseFlowItems_item {t : Token} (h : t.StartsNode) :
    parseFlowItems (fuel + 1) true (reader handles (t :: ts)) = (do
      let (item, p) ← parse fuel false false (reader handles (t :: ts))
      let (items, p) ← parseFlowItems fuel false p
      pure (item :: items, p)) := by
  rw [parseFlowItems]
  cases t <;> first | rfl | cases h

theorem parseUnless_of_startsNode {t : Token} (h : t.StartsNode) (block : Bool) {stops : List Token}
    (other : isAny stops t = false) :
    parseUnless (fuel + 1) block loose stops (reader handles (t :: ts)) =
      parse fuel block loose (reader handles (t :: ts)) := by
  rw [parseUnless, h.peek]
  simp [bind, Except.bind, other]

theorem parseFlowEntries_key {t : Token} (h : t.StartsNode) (plain : Bool) (name : String) :
    parseFlowEntries (fuel + 3) true
      (reader handles (.key :: .scalar plain name :: .value :: t :: ts)) = (do
        let (value, p) ← parse fuel false false (reader handles (t :: ts))
        let (entries, p) ← parseFlowEntries (fuel + 2) false p
        pure ((.scalar (scalarTag plain name none) name, value) :: entries, p)) := by
  have starts : (Token.scalar plain name).StartsNode := trivial
  have other : isAny [.comma, .closeMapping] t = false := by
    cases t <;> first | rfl | cases h
  have key : parseUnless (fuel + 2) false false [.value, .comma, .closeMapping]
      (reader handles (.scalar plain name :: .value :: t :: ts)) =
        .ok (.scalar (scalarTag plain name none) name, reader handles (.value :: t :: ts)) :=
    (parseUnless_of_startsNode starts false rfl).trans (parse_scalar plain name false)
  have value : parseFlowValue (fuel + 2) [.comma, .closeMapping]
      (reader handles (.value :: t :: ts)) = parse fuel false false (reader handles (t :: ts)) := by
    rw [parseFlowValue]
    exact parseUnless_of_startsNode h false other
  have marked : parseFlowEntries (fuel + 3) true
      (reader handles (.key :: .scalar plain name :: .value :: t :: ts)) = (do
        let (key, p) ← parseUnless (fuel + 2) false false [.value, .comma, .closeMapping]
          (reader handles (.scalar plain name :: .value :: t :: ts))
        let (value, p) ← parseFlowValue (fuel + 2) [.comma, .closeMapping] p
        let (entries, p) ← parseFlowEntries (fuel + 2) false p
        pure ((key, value) :: entries, p)) := by
    rw [parseFlowEntries]
    rfl
  rw [marked, key]
  change Except.bind (parseFlowValue (fuel + 2) [.comma, .closeMapping]
    (reader handles (.value :: t :: ts))) _ = _
  rw [value]
  rfl

/-- A name without its key mark is an entry of its own, and a comma should come behind it. -/
theorem parseFlowEntries_unmarked (plain : Bool) (name : String) :
    parseFlowEntries fuel true (reader handles (.scalar plain name :: .value :: ts)) =
      .error .malformed := by
  cases fuel with
  | zero => rfl
  | succ fuel =>
    cases fuel with
    | zero => rfl
    | succ fuel =>
      rw [parseFlowEntries]
      rfl

end Steps

section Tags

theorem ofScalar_of_getLast? {cs : List Char} (h : cs.getLast? ≠ some '\n') :
    Tag.ofScalar cs = Tag.ofPlain cs := by
  unfold Tag.ofScalar
  split
  next r e =>
    rw [List.getLast?_eq_head?_reverse, e] at h
    exact absurd rfl h
  next => rfl

theorem scalarTag_text (text : String) :
    scalarTag (styleOf text.toList == .plain) text none = .str := by
  by_cases hs : styleOf text.toList = .plain
  · obtain ⟨plain, str⟩ := plain_of_styleOf hs
    have last : text.toList.getLast? ≠ some '\n' := by
      simp only [isPlain, isEdge, Bool.and_eq_true, Bool.not_eq_true', Bool.or_eq_false_iff,
        beq_eq_false_iff_ne] at plain
      exact plain.1.1.1.2.2
    rw [hs]
    change Tag.ofScalar text.toList = .str
    rw [ofScalar_of_getLast? last, str]
  · have quoted : (styleOf text.toList == Style.plain) = false := by simpa using hs
    rw [quoted]
    rfl

theorem scalarTag_flag (b : Bool) : scalarTag true (flagWord b) none = .bool := by
  cases b <;> decide

theorem ofScalar_of_isKey {k : String} (h : IsKey k) : Tag.ofScalar k.toList = .str := by
  rw [ofScalar_of_getLast?, h.str]
  intro last
  exact absurd (h.word _ (List.mem_of_getLast? last)) (by decide)

end Tags

/-- The first token of a content ends no list of entries and no mapping. -/
theorem Content.tokens_eq_cons (c : Content) (bare : Bool) : ∃ t ts, c.tokens bare = t :: ts ∧
    (∀ handles rest, (reader handles (t :: rest)).peek = .ok t) ∧
    isAny [.key, .value, .blockEnd] t = false ∧
    (bare = false → isAny [.entry, .blockEnd] t = false ∧
      isAny [.entry, .key, .value, .blockEnd] t = false) := by
  match c with
  | .text s => exact ⟨_, _, rfl, fun _ _ => rfl, rfl, fun _ => ⟨rfl, rfl⟩⟩
  | .flag b => exact ⟨_, _, rfl, fun _ _ => rfl, rfl, fun _ => ⟨rfl, rfl⟩⟩
  | .list [] => exact ⟨_, _, rfl, fun _ _ => rfl, rfl, fun _ => ⟨rfl, rfl⟩⟩
  | .record [] => exact ⟨_, _, rfl, fun _ _ => rfl, rfl, fun _ => ⟨rfl, rfl⟩⟩
  | .record (f :: fields) => exact ⟨_, _, rfl, fun _ _ => rfl, rfl, fun _ => ⟨rfl, rfl⟩⟩
  | .list (c :: items) =>
    cases bare with
    | true => exact ⟨_, _, rfl, fun _ _ => rfl, rfl, nofun⟩
    | false => exact ⟨_, _, rfl, fun _ _ => rfl, rfl, fun _ => ⟨rfl, rfl⟩⟩

/-- What may follow a list that is not indented. -/
def Ends (ts : List Token) : Prop := ∃ r, ts = .key :: r ∨ ts = .blockEnd :: r

theorem length_itemTokens_cons (c : Content) (items : List Content) :
    (itemTokens (c :: items)).length =
      1 + (c.tokens false).length + (itemTokens items).length := by
  simp [itemTokens]
  omega

theorem itemTokens_cons_append (c : Content) (items : List Content) (rest : List Token) :
    itemTokens (c :: items) ++ rest =
      .entry :: (c.tokens false ++ (itemTokens items ++ rest)) := by
  simp [itemTokens]

section Contents
variable (handles : List (String × String))

theorem parseUnless_tokens {c : Content} {bare : Bool} {fuel : Nat} {stops rest : List Token}
    (stop : stops = [.key, .value, .blockEnd] ∨
      bare = false ∧ (stops = [.entry, .blockEnd] ∨ stops = [.entry, .key, .value, .blockEnd]))
    (h : parse fuel true bare (reader handles (c.tokens bare ++ rest)) =
      .ok (c.node, reader handles rest)) :
    parseUnless (fuel + 1) true bare stops (reader handles (c.tokens bare ++ rest)) =
      .ok (c.node, reader handles rest) := by
  obtain ⟨t, ts, first, peek, mapping, sequence⟩ := c.tokens_eq_cons bare
  rw [first] at h ⊢
  refine parseUnless_of_parse (peek handles (ts ++ rest)) ?_ h
  rcases stop with rfl | ⟨indented, rfl | rfl⟩
  · exact mapping
  · exact (sequence indented).1
  · exact (sequence indented).2

mutual

theorem parse_tokens (c : Content) (bare : Bool) (fuel : Nat) (rest : List Token)
    (keyed : c.Keyed) (enough : 4 * (c.tokens bare).length + 2 ≤ fuel) (ends : bare → Ends rest) :
    parse fuel true bare (reader handles (c.tokens bare ++ rest)) =
      .ok (c.node, reader handles rest) := by
  obtain ⟨fuel, rfl⟩ : ∃ m, fuel = m + 1 := ⟨fuel - 1, by omega⟩
  match c with
  | .text text =>
    rw [Content.node, ← scalarTag_text text]
    exact parse_scalar _ _ _
  | .flag b =>
    rw [Content.node, ← scalarTag_flag b]
    exact parse_scalar _ _ _
  | .list [] =>
    obtain ⟨fuel, rfl⟩ : ∃ m, fuel = m + 1 := ⟨fuel - 1, by omega⟩
    exact parse_openSequence parseFlowItems_close
  | .record [] =>
    obtain ⟨fuel, rfl⟩ : ∃ m, fuel = m + 1 := ⟨fuel - 1, by omega⟩
    exact parse_openMapping parseFlowEntries_close
  | .list (c :: items) =>
    cases bare with
    | true =>
      exact parse_loose (parseLooseEntries_tokens (c :: items) _ _ keyed
        (by simp only [Content.tokens, if_true] at enough; omega) (ends rfl))
    | false =>
      have size : (Content.tokens false (.list (c :: items))).length =
          (itemTokens (c :: items)).length + 2 := by simp [Content.tokens]
      have read := parseEntries_tokens (c :: items) fuel rest keyed (by omega)
      have text : Content.tokens false (.list (c :: items)) ++ rest =
          .blockSequence :: (itemTokens (c :: items) ++ .blockEnd :: rest) := by
        simp [Content.tokens]
      rw [text]
      exact parse_blockSequence read
  | .record (f :: fields) =>
    have size : (Content.tokens bare (.record (f :: fields))).length =
        (fieldTokens (f :: fields)).length + 2 := by simp [Content.tokens]
    have read := parseKeys_tokens (f :: fields) fuel rest keyed.2 (by omega)
    have text : Content.tokens bare (.record (f :: fields)) ++ rest =
        .blockMapping :: (fieldTokens (f :: fields) ++ .blockEnd :: rest) := by
      simp [Content.tokens]
    rw [text]
    exact parse_blockMapping read

theorem parseEntries_tokens (items : List Content) (fuel : Nat) (rest : List Token)
    (keyed : ItemsKeyed items) (enough : 4 * (itemTokens items).length + 1 ≤ fuel) :
    parseEntries fuel (reader handles (itemTokens items ++ .blockEnd :: rest)) =
      .ok (itemNodes items, reader handles rest) := by
  match items with
  | [] =>
    obtain ⟨fuel, rfl⟩ : ∃ m, fuel = m + 1 := ⟨fuel - 1, by omega⟩
    exact parseEntries_end
  | c :: items =>
    have size := length_itemTokens_cons c items
    obtain ⟨fuel, rfl⟩ : ∃ m, fuel = m + 2 := ⟨fuel - 2, by omega⟩
    have item := parse_tokens c false fuel (itemTokens items ++ .blockEnd :: rest) keyed.1
      (by omega) nofun
    have more := parseEntries_tokens items (fuel + 1) rest keyed.2 (by omega)
    rw [itemTokens_cons_append]
    exact parseEntries_entry (parseUnless_tokens handles (.inr ⟨rfl, .inl rfl⟩) item) more

theorem parseLooseEntries_tokens (items : List Content) (fuel : Nat) (rest : List Token)
    (keyed : ItemsKeyed items) (enough : 4 * (itemTokens items).length + 1 ≤ fuel)
    (ends : Ends rest) :
    parseLooseEntries fuel (reader handles (itemTokens items ++ rest)) =
      .ok (itemNodes items, reader handles rest) := by
  match items with
  | [] =>
    obtain ⟨fuel, rfl⟩ : ∃ m, fuel = m + 1 := ⟨fuel - 1, by omega⟩
    obtain ⟨r, rfl | rfl⟩ := ends <;> rfl
  | c :: items =>
    have size := length_itemTokens_cons c items
    obtain ⟨fuel, rfl⟩ : ∃ m, fuel = m + 2 := ⟨fuel - 2, by omega⟩
    have item := parse_tokens c false fuel (itemTokens items ++ rest) keyed.1 (by omega) nofun
    have more := parseLooseEntries_tokens items (fuel + 1) rest keyed.2 (by omega) ends
    rw [itemTokens_cons_append]
    exact parseLooseEntries_entry (parseUnless_tokens handles (.inr ⟨rfl, .inr rfl⟩) item) more

theorem parseKeys_tokens (fields : List (String × Content)) (fuel : Nat) (rest : List Token)
    (keyed : FieldsKeyed fields) (enough : 4 * (fieldTokens fields).length + 1 ≤ fuel) :
    parseKeys fuel (reader handles (fieldTokens fields ++ .blockEnd :: rest)) =
      .ok (fieldNodes fields, reader handles rest) := by
  match fields with
  | [] =>
    obtain ⟨fuel, rfl⟩ : ∃ m, fuel = m + 1 := ⟨fuel - 1, by omega⟩
    rfl
  | (k, c) :: fields =>
    have size : (fieldTokens ((k, c) :: fields)).length =
        3 + (c.tokens true).length + (fieldTokens fields).length := by
      simp [fieldTokens]
      omega
    obtain ⟨fuel, rfl⟩ : ∃ m, fuel = m + 3 := ⟨fuel - 3, by omega⟩
    have ends : Ends (fieldTokens fields ++ .blockEnd :: rest) := by
      cases fields with
      | nil => exact ⟨rest, .inr rfl⟩
      | cons f fields => exact ⟨_, .inl rfl⟩
    have value := parse_tokens c true fuel _ keyed.2.1 (by omega) fun _ => ends
    have more := parseKeys_tokens fields (fuel + 2) rest keyed.2.2 (by omega)
    have text : fieldTokens ((k, c) :: fields) ++ .blockEnd :: rest =
        .key :: .scalar true k :: .value ::
          (c.tokens true ++ (fieldTokens fields ++ .blockEnd :: rest)) := by
      simp [fieldTokens]
    rw [text]
    exact parseKeys_entry (parseUnless_key (ofScalar_of_isKey keyed.1))
      (parseBlockValue_value (parseUnless_tokens handles (.inl rfl) value)) more

end

end Contents

end CiWorkflow.Yaml
