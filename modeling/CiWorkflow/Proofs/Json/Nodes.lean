import CiWorkflow.Proofs.Json.Tokens
import CiWorkflow.Proofs.Yaml.Parse

set_option autoImplicit false

namespace CiWorkflow.Json

open Yaml (Token Node Tag reader)
open Yaml.Node (Parser parse parseUnless parseFlowItems parseFlowEntries parseFlowValue isAny)
open Yaml.Scanner (Near keyMark)

mutual

def Tree.node : Tree → Node
  | .literal l => .scalar (Tag.ofScalar l.spelling) (String.ofList l.spelling)
  | .text ls => .scalar .str (String.ofList (flowed .none ls))
  | .array items => .sequence .seq (itemNodes items)
  | .object members => .mapping .map (memberNodes members)

def itemNodes : List Tree → List Node
  | [] => []
  | t :: rest => t.node :: itemNodes rest

def memberNodes : List (List Letter × Tree) → List (Node × Node)
  | [] => []
  | (ls, t) :: rest =>
    (.scalar .str (String.ofList (flowed .none ls)), t.node) :: memberNodes rest

end

def IsNear : Sign × List Char → Prop
  | (.name ls, b) => Near ('"' :: (unquoted ls ++ b))
  | _ => True

instance (p : Sign × List Char) : Decidable (IsNear p) := by
  unfold IsNear
  split <;> infer_instance

def provided {ε α : Type} (good : Sign × List Char → Prop) [DecidablePred good] (fault : ε)
    (l : List (Sign × List Char)) (a : α) : Except ε α :=
  if ∀ p ∈ l, good p then .ok a else .error fault

section Provided
variable {ε α β : Type} {good : Sign × List Char → Prop} [DecidablePred good] {fault : ε}
  {l l' : List (Sign × List Char)}

theorem provided_of_good (all : ∀ p ∈ l, good p) (a : α) : provided good fault l a = .ok a :=
  if_pos all

theorem provided_of_bad (bad : ¬ ∀ p ∈ l, good p) (a : α) :
    provided good fault l a = .error fault := if_neg bad

theorem provided_congr (same : (∀ p ∈ l, good p) ↔ ∀ p ∈ l', good p) (a : α) :
    provided good fault l a = provided good fault l' a := by
  simp only [provided, same]

theorem provided_bind {x : Except ε α} {a : α} {b : β} {f : α → Except ε β}
    (first : x = provided good fault l a) (more : f a = provided good fault l' b) :
    x.bind f = provided good fault (l ++ l') b := by
  by_cases all : ∀ p ∈ l, good p
  · rw [first, provided_of_good all]
    refine more.trans (provided_congr ?_ b)
    rw [List.forall_mem_append, and_iff_right all]
  · rw [first, provided_of_bad all, provided_of_bad fun h => all (List.forall_mem_append.1 h).1]
    rfl

theorem provided_map {x : Except ε α} {a : α} (h : x = provided good fault l a) (f : α → β) :
    (x.bind fun q => .ok (f q)) = provided good fault l (f a) := by
  rw [← List.append_nil l]
  exact provided_bind h (if_pos nofun).symm

theorem provided_cons {p : Sign × List Char} (hp : good p) (a : α) :
    provided good fault (p :: l) a = provided good fault l a :=
  provided_congr (by simp [hp]) a

theorem provided_bracketed {p q : Sign × List Char} (hp : good p) (hq : good q) (a : α) :
    provided good fault (p :: (l ++ [q])) a = provided good fault l a :=
  provided_congr (by simp [hp, hq, or_imp, forall_and]) a

end Provided

section Parse
variable {l : List (Sign × List Char)}

theorem exists_startsNode (t : Tree) (spelled : l.map (·.1) = t.signs) :
    ∃ x ts, l.flatMap signTokens = x :: ts ∧ x.StartsNode := by
  cases t with
  | literal | text | array | object =>
    obtain ⟨⟨s, b⟩, l, rfl, rfl, -⟩ := List.map_eq_cons_iff.1 spelled
    exact ⟨_, _, rfl, trivial⟩

theorem exists_bracketed {a z : Sign} {signs : List Sign}
    (spelled : l.map (·.1) = a :: (signs ++ [z])) :
    ∃ b l' b', l = (a, b) :: (l' ++ [(z, b')]) ∧ l'.map (·.1) = signs := by
  obtain ⟨⟨_, b⟩, l, rfl, rfl, inside⟩ := List.map_eq_cons_iff.1 spelled
  obtain ⟨l', last, rfl, inner, closed⟩ := List.map_eq_append_iff.1 inside
  obtain ⟨⟨_, b'⟩, rfl, rfl⟩ := List.map_eq_singleton_iff.1 closed
  exact ⟨b, l', b', rfl, inner⟩

variable (handles : List (String × String))

mutual

theorem parse_signs (t : Tree) (l : List (Sign × List Char)) (block loose : Bool) (fuel : Nat)
    (rest : List Token) (spelled : l.map (·.1) = t.signs) (enough : l.length ≤ fuel) :
    parse fuel block loose (reader handles (l.flatMap signTokens ++ rest)) =
      provided IsNear .malformed l (t.node, reader handles rest) := by
  match t with
  | .literal lit =>
    obtain ⟨⟨_, b⟩, rfl, rfl⟩ := List.map_eq_singleton_iff.1 spelled
    obtain ⟨fuel, rfl⟩ := Nat.exists_eq_add_one.2 enough
    rw [provided_of_good (by simp [IsNear])]
    refine (Yaml.parse_scalar _ _ _).trans ?_
    simp [Tree.node, Yaml.Node.scalarTag]
  | .text ls =>
    obtain ⟨⟨_, b⟩, rfl, rfl⟩ := List.map_eq_singleton_iff.1 spelled
    obtain ⟨fuel, rfl⟩ := Nat.exists_eq_add_one.2 enough
    rw [provided_of_good (by simp [IsNear])]
    exact Yaml.parse_scalar _ _ _
  | .array items =>
    obtain ⟨b, l, b', rfl, inside⟩ := exists_bracketed spelled
    simp only [List.length_cons, List.length_append, List.length_nil] at enough
    obtain ⟨fuel, rfl⟩ : ∃ m, fuel = m + 1 := ⟨fuel - 1, by omega⟩
    have read := parseFlowItems_signs items l true fuel rest inside (by omega)
    have tokens : ((Sign.openArray, b) :: (l ++ [(.closeArray, b')])).flatMap signTokens ++ rest =
        .openSequence :: (l.flatMap signTokens ++ .closeSequence :: rest) := by
      simp [signTokens]
    rw [tokens, Yaml.parse_openSequence_eq,
      provided_bracketed (p := (.openArray, b)) (q := (.closeArray, b')) trivial trivial]
    exact provided_map read fun q => (Node.sequence .seq q.1, q.2)
  | .object members =>
    obtain ⟨b, l, b', rfl, inside⟩ := exists_bracketed spelled
    simp only [List.length_cons, List.length_append, List.length_nil] at enough
    obtain ⟨fuel, rfl⟩ : ∃ m, fuel = m + 1 := ⟨fuel - 1, by omega⟩
    have read := parseFlowEntries_signs members l true fuel rest inside (by omega)
    have tokens : ((Sign.openObject, b) :: (l ++ [(.closeObject, b')])).flatMap signTokens ++ rest =
        .openMapping :: (l.flatMap signTokens ++ .closeMapping :: rest) := by
      simp [signTokens]
    rw [tokens, Yaml.parse_openMapping_eq,
      provided_bracketed (p := (.openObject, b)) (q := (.closeObject, b')) trivial trivial]
    exact provided_map read fun q => (Node.mapping .map q.1, q.2)

theorem parseFlowItems_signs (items : List Tree) (l : List (Sign × List Char)) (first : Bool)
    (fuel : Nat) (rest : List Token) (spelled : l.map (·.1) = itemSigns first items)
    (enough : l.length < fuel) :
    parseFlowItems fuel first (reader handles (l.flatMap signTokens ++ .closeSequence :: rest)) =
      provided IsNear .malformed l (itemNodes items, reader handles rest) := by
  match items with
  | [] =>
    obtain rfl := List.map_eq_nil_iff.1 spelled
    obtain ⟨fuel, rfl⟩ := Nat.exists_eq_add_one.2 enough
    exact (if_pos nofun).symm
  | t :: items =>
    have go (l : List (Sign × List Char)) (spelled : l.map (·.1) = t.signs ++ itemSigns false items)
        (enough : l.length < fuel) : parseFlowItems fuel true
          (reader handles (l.flatMap signTokens ++ .closeSequence :: rest)) =
            provided IsNear .malformed l (t.node :: itemNodes items, reader handles rest) := by
      obtain ⟨l, l', rfl, one, others⟩ := List.map_eq_append_iff.1 spelled
      rw [List.length_append] at enough
      obtain ⟨x, ts, start, starts⟩ := exists_startsNode t one
      have size : l ≠ [] := by
        rintro rfl
        cases start
      have size := List.length_pos_iff.2 size
      obtain ⟨fuel, rfl⟩ : ∃ m, fuel = m + 1 := ⟨fuel - 1, by omega⟩
      have item := parse_signs t l false false fuel
        (l'.flatMap signTokens ++ .closeSequence :: rest) one (by omega)
      have more := parseFlowItems_signs items l' false fuel rest others (by omega)
      rw [start] at item
      rw [List.flatMap_append, List.append_assoc, start, List.cons_append,
        Yaml.parseFlowItems_item starts]
      exact provided_bind item (provided_map more fun q => (t.node :: q.1, q.2))
    cases first with
    | true => exact go l spelled enough
    | false =>
      obtain ⟨⟨_, b⟩, l, rfl, rfl, behind⟩ := List.map_eq_cons_iff.1 spelled
      rw [provided_cons (p := (.comma, b)) trivial]
      exact Yaml.parseFlowItems_comma.trans (go l behind (Nat.lt_of_succ_lt enough))

theorem parseFlowEntries_signs (members : List (List Letter × Tree))
    (l : List (Sign × List Char)) (first : Bool) (fuel : Nat) (rest : List Token)
    (spelled : l.map (·.1) = memberSigns first members) (enough : l.length < fuel) :
    parseFlowEntries fuel first (reader handles (l.flatMap signTokens ++ .closeMapping :: rest)) =
      provided IsNear .malformed l (memberNodes members, reader handles rest) := by
  match members with
  | [] =>
    obtain rfl := List.map_eq_nil_iff.1 spelled
    obtain ⟨fuel, rfl⟩ := Nat.exists_eq_add_one.2 enough
    exact (if_pos nofun).symm
  | (ls, t) :: members =>
    have go (l : List (Sign × List Char))
        (spelled : l.map (·.1) = .name ls :: .colon :: (t.signs ++ memberSigns false members))
        (enough : l.length < fuel) : parseFlowEntries fuel true
          (reader handles (l.flatMap signTokens ++ .closeMapping :: rest)) =
            provided IsNear .malformed l
              (memberNodes ((ls, t) :: members), reader handles rest) := by
      obtain ⟨⟨_, b⟩, l, rfl, rfl, colon⟩ := List.map_eq_cons_iff.1 spelled
      obtain ⟨⟨_, b'⟩, l, rfl, rfl, behind⟩ := List.map_eq_cons_iff.1 colon
      obtain ⟨l, l', rfl, one, others⟩ := List.map_eq_append_iff.1 behind
      simp only [List.length_cons, List.length_append] at enough
      obtain ⟨fuel, rfl⟩ : ∃ m, fuel = m + 3 := ⟨fuel - 3, by omega⟩
      by_cases near : Near ('"' :: (unquoted ls ++ b))
      · have value := parse_signs t l false false fuel
          (l'.flatMap signTokens ++ .closeMapping :: rest) one (by omega)
        have more := parseFlowEntries_signs members l' false (fuel + 2) rest others (by omega)
        obtain ⟨x, ts, start, starts⟩ := exists_startsNode t one
        have tokens : ((Sign.name ls, b) :: (.colon, b') :: (l ++ l')).flatMap signTokens ++
            .closeMapping :: rest = .key :: .scalar false (String.ofList (flowed .none ls)) ::
              .value :: x :: (ts ++ (l'.flatMap signTokens ++ .closeMapping :: rest)) := by
          simp [signTokens, keyMark, near, start]
        rw [start] at value
        rw [tokens, provided_cons (p := (.name ls, b)) near,
          provided_cons (p := (.colon, b')) trivial, Yaml.parseFlowEntries_key starts]
        exact provided_bind value (provided_map more fun q => (_ :: q.1, q.2))
      · have tokens : ((Sign.name ls, b) :: (.colon, b') :: (l ++ l')).flatMap signTokens ++
            .closeMapping :: rest = .scalar false (String.ofList (flowed .none ls)) :: .value ::
              ((l ++ l').flatMap signTokens ++ .closeMapping :: rest) := by
          simp [signTokens, keyMark, near]
        rw [tokens, Yaml.parseFlowEntries_unmarked, provided_of_bad]
        exact fun all => near (all _ List.mem_cons_self)
    cases first with
    | true => exact go l spelled enough
    | false =>
      obtain ⟨⟨_, b⟩, l, rfl, rfl, behind⟩ := List.map_eq_cons_iff.1 spelled
      rw [provided_cons (p := (.comma, b)) trivial]
      exact Yaml.parseFlowEntries_comma.trans (go l behind (Nat.lt_of_succ_lt enough))

end

end Parse

theorem length_le_tokens (l : List (Sign × List Char)) :
    l.length ≤ (l.flatMap signTokens).length := by
  induction l with
  | nil => exact Nat.le_refl _
  | cons p l ih =>
    have token : 0 < (signTokens p).length := by
      obtain ⟨s, b⟩ := p
      cases s <;> simp [signTokens]
    rw [List.flatMap_cons, List.length_append, List.length_cons]
    omega

/-- The tokens of an object are a document just if all names are near their colons. -/
theorem ofTokens?_signs {members : List (List Letter × Tree)} {l : List (Sign × List Char)}
    (spelled : l.map (·.1) = (Tree.object members).signs) :
    Yaml.Node.ofTokens? (l.flatMap signTokens ++ [.streamEnd]) =
      if ∀ p ∈ l, IsNear p then .ok (some ⟨(Tree.object members).node, []⟩)
      else .error .malformed := by
  let tokens := l.flatMap signTokens ++ [.streamEnd]
  let fuel := 4 * tokens.length + 8
  have enough : l.length ≤ fuel := by
    have size := length_le_tokens l
    simp only [fuel, tokens, List.length_append]
    omega
  have read := parse_signs Yaml.Node.defaultHandles (.object members) l true false fuel
    [.streamEnd] spelled enough
  have first : ∃ ts, tokens = .openMapping :: ts := by
    obtain ⟨b, l, b', rfl, -⟩ := exists_bracketed spelled
    exact ⟨_, rfl⟩
  obtain ⟨ts, first⟩ := first
  have composed : Yaml.Node.ofTokens? tokens =
      (parse fuel true false (reader Yaml.Node.defaultHandles tokens)).bind fun q =>
        (Yaml.Node.expectEnd q.2).bind fun _ => .ok (some ⟨q.1, q.2.anchors⟩) := by
    simp only [fuel, first]
    rfl
  rw [composed, read, provided]
  split <;> rfl

end CiWorkflow.Json
