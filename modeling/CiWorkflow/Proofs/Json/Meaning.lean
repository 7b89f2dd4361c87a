import CiWorkflow.Proofs.Json.Nodes
import CiWorkflow.Proofs.Json.Numbers

/-! The nodes of a JSON text as its value. With the names as they are, they mean what the text
denotes just if each string and each number does. -/

set_option autoImplicit false

namespace CiWorkflow.Json

open Yaml (Node Meaning Tag scalarValue)
open Yaml.Node (meaning meanings entriesOf)

/-- A string or a literal that is read as what it denotes. No line is folded in a name. -/
def Sign.IsKept : Sign → Prop
  | text ls => Unfolded ls ∧ Unpaired ls
  | name ls => Unpaired ls
  | literal l => l.IsKept
  | _ => True

instance : (s : Sign) → Decidable s.IsKept
  | .text ls => inferInstanceAs (Decidable (Unfolded ls ∧ Unpaired ls))
  | .name ls => inferInstanceAs (Decidable (Unpaired ls))
  | .literal l => inferInstanceAs (Decidable l.IsKept)
  | .openObject | .closeObject | .openArray | .closeArray | .comma | .colon =>
    inferInstanceAs (Decidable True)

def Sign.IsNamed : Sign → Prop
  | name ls => Unfolded ls
  | _ => True

section Lists
variable {items : List Tree} {members : List (List Letter × Tree)} {first : Bool} {s : Sign}

theorem itemNodes_eq_map (items : List Tree) : itemNodes items = items.map Tree.node := by
  induction items with
  | nil => rfl
  | cons t rest ih => rw [itemNodes, ih, List.map_cons]

theorem itemValues_eq_map (items : List Tree) : itemValues items = items.map Tree.value := by
  induction items with
  | nil => rfl
  | cons t rest ih => rw [itemValues, ih, List.map_cons]

theorem memberValues_eq_map (members : List (List Letter × Tree)) :
    memberValues members = members.map fun m => (.text (content m.1), m.2.value) := by
  induction members with
  | nil => rfl
  | cons m rest ih => rw [memberValues, ih, List.map_cons]

theorem forall_signs_array {p : Sign → Prop} (marks : p .openArray ∧ p .closeArray ∧ p .comma) :
    (∀ s ∈ (Tree.array items).signs, p s) ↔ ∀ t ∈ items, ∀ s ∈ t.signs, p s := by
  have inside (first : Bool) :
      (∀ s ∈ itemSigns first items, p s) ↔ ∀ t ∈ items, ∀ s ∈ t.signs, p s := by
    induction items generalizing first with
    | nil => simp [itemSigns]
    | cons t rest ih =>
      have separated : ∀ s ∈ between first, p s := by cases first <;> simp [between, marks]
      simp only [itemSigns, List.forall_mem_append, List.forall_mem_cons, ih]
      exact and_iff_right separated
  simp [Tree.signs, or_imp, forall_and, marks, inside]

theorem forall_signs_object {p : Sign → Prop}
    (marks : p .openObject ∧ p .closeObject ∧ p .comma ∧ p .colon) :
    (∀ s ∈ (Tree.object members).signs, p s) ↔
      ∀ m ∈ members, p (.name m.1) ∧ ∀ s ∈ m.2.signs, p s := by
  have inside (first : Bool) : (∀ s ∈ memberSigns first members, p s) ↔
      ∀ m ∈ members, p (.name m.1) ∧ ∀ s ∈ m.2.signs, p s := by
    induction members generalizing first with
    | nil => simp [memberSigns]
    | cons m rest ih =>
      obtain ⟨ls, t⟩ := m
      have separated : ∀ s ∈ between first, p s := by cases first <;> simp [between, marks]
      simp only [memberSigns, List.forall_mem_append, List.forall_mem_cons, ih, marks, true_and,
        and_assoc]
      exact and_iff_right separated
  simp only [Tree.signs, List.forall_mem_cons, List.forall_mem_append, inside, marks, true_and,
    List.not_mem_nil, false_imp_iff, implies_true, and_true]

/-- Members of different names are kept apart, whatever their values are. -/
theorem apart_names (distinct : (members.map fun m => content m.1).Pairwise (· ≠ ·))
    (value : List Letter × Tree → Value) :
    ((members.map fun m => (Value.text (content m.1), value m)).map (·.1)).Pairwise
      fun a b => Value.sameKey b a = false := by
  rw [List.map_map, List.pairwise_map]
  rw [List.pairwise_map] at distinct
  refine distinct.imp fun {a b} other => Bool.eq_false_iff.2 fun same => other ?_
  exact Value.text.inj (Value.sameKey_text_iff.1 same)

theorem keys_put_sublist (k v : Value) (entries : List (Value × Value)) :
    ((Value.put k v entries).map (·.1)).Sublist (entries.map (·.1) ++ [k]) := by
  induction entries with
  | nil => exact List.Sublist.refl _
  | cons e rest ih =>
    rw [Value.put]
    split
    · exact List.sublist_append_left _ _
    · exact ih.cons_cons e.1

theorem keys_ofPairs_sublist (pairs : List (Value × Value)) :
    ((Value.ofPairs pairs).map (·.1)).Sublist (pairs.map (·.1)) := by
  induction pairs using List.reverseRecOn with
  | nil => exact List.Sublist.refl _
  | append_singleton pairs p ih =>
    rw [Value.ofPairs, List.foldl_append, List.map_append]
    exact (keys_put_sublist p.1 p.2 _).trans (ih.append_right _)

end Lists

section Meaning
variable (follow : String → Value)

theorem meaning_eq_iff {m : Meaning} {v : Value} :
    m = ⟨v, []⟩ ↔ m.value = v ∧ m.faults = [] := by
  cases m
  simp

theorem ofExcept_eq_iff {level : Nat} {x : Except Yaml.Fault Value} {v : Value} :
    Meaning.ofExcept level x = ⟨v, []⟩ ↔ x = .ok v := by
  cases x <;> simp [Meaning.ofExcept]

theorem meaning_scalar_iff {t : Tag} {text : String} {level : Nat} {v : Value} :
    meaning follow level (.scalar t text) = ⟨v, []⟩ ↔ scalarValue t text = .ok v := by
  cases t with
  | seq | map | set | omap | pairs => simp [meaning, scalarValue]
  | _ =>
    rw [meaning]
    · exact ofExcept_eq_iff
    all_goals intro h; cases h

/-- A tree means its value, without faults. -/
def Tree.Means (level : Nat) (t : Tree) : Prop := meaning follow level t.node = ⟨t.value, []⟩

theorem meanings_eq_map (level : Nat) (nodes : List Node) :
    meanings follow level nodes = nodes.map (meaning follow level) := by
  induction nodes with
  | nil => rfl
  | cons n rest ih => rw [meanings, ih, List.map_cons]

theorem means_array {items : List Tree} {level : Nat} :
    (Tree.array items).Means follow level ↔ ∀ t ∈ items, t.Means follow (level + 1) := by
  simp only [Tree.Means, Tree.node, Tree.value, meaning, meanings_eq_map, itemNodes_eq_map,
    itemValues_eq_map, meaning_eq_iff, Value.list.injEq, List.map_map, List.map_inj_left,
    List.flatMap_eq_nil_iff, List.forall_mem_map, Function.comp_apply, forall_and]

def nameText (ls : List Letter) : String := String.ofList (flowed .none ls)

theorem nameText_eq_content_iff (ls : List Letter) :
    nameText ls = content ls ↔ Unfolded ls ∧ Unpaired ls := by
  rw [nameText, content, String.ofList_inj]
  exact flowed_eq_iff ls

theorem entriesOf_memberNodes (members : List (List Letter × Tree)) (level : Nat) :
    entriesOf follow level (memberNodes members) = ⟨[], members.map fun m =>
      let meant := meaning follow level m.2.node
      ⟨.text (nameText m.1), meant.value, meant.faults⟩, false⟩ := by
  induction members with
  | nil => rfl
  | cons m rest ih =>
    obtain ⟨ls, t⟩ := m
    have merge : ¬ Node.tag (.scalar .str (nameText ls)) = .merge := nofun
    have ordinary : ¬ Node.tag (.scalar .str (nameText ls)) = .default := nofun
    have key : meaning follow level (.scalar .str (nameText ls)) = ⟨.text (nameText ls), []⟩ := rfl
    rw [memberNodes, ← nameText, entriesOf.eq_def]
    simp only [if_neg merge, if_neg ordinary, ih, key]
    rfl

def memberPairs (level : Nat) (members : List (List Letter × Tree)) : List (Value × Value) :=
  members.map fun m => (.text (nameText m.1), (meaning follow level m.2.node).value)

theorem memberPairs_of_preserved {members : List (List Letter × Tree)}
    (preserved : ∀ m ∈ members, Unfolded m.1 ∧ Unpaired m.1) (level : Nat) :
    memberPairs follow level members =
      members.map fun m => (.text (content m.1), (meaning follow level m.2.node).value) := by
  refine List.map_congr_left fun m hm => ?_
  rw [(nameText_eq_content_iff m.1).2 (preserved m hm)]

/-- Only names that are read as they are give as many members with these names. -/
theorem preserved_of_ofPairs {members : List (List Letter × Tree)} {level : Nat}
    (same : Value.ofPairs (memberPairs follow level members) = memberValues members) :
    ∀ m ∈ members, Unfolded m.1 ∧ Unpaired m.1 := by
  have kept := keys_ofPairs_sublist (memberPairs follow level members)
  rw [same, memberValues_eq_map, memberPairs] at kept
  have keys := kept.eq_of_length (by simp)
  rw [List.map_map, List.map_map] at keys
  intro m hm
  have key : Value.text (content m.1) = .text (nameText m.1) := List.map_inj_left.1 keys m hm
  exact (nameText_eq_content_iff m.1).1 (Value.text.inj key).symm

theorem means_object {members : List (List Letter × Tree)} {level : Nat}
    (named : ∀ m ∈ members, Unfolded m.1)
    (distinct : (members.map fun m => content m.1).Pairwise (· ≠ ·)) :
    (Tree.object members).Means follow level ↔
      ∀ m ∈ members, Unpaired m.1 ∧ m.2.Means follow (level + 1) := by
  have apart := apart_names distinct fun m => (meaning follow (level + 1) m.2.node).value
  have means : (Tree.object members).Means follow level ↔
      Value.ofPairs (memberPairs follow (level + 1) members) = memberValues members ∧
        ∀ m ∈ members, (meaning follow (level + 1) m.2.node).faults = [] := by
    simp only [Tree.Means, Tree.node, Tree.value, meaning, entriesOf_memberNodes, meaning_eq_iff,
      Value.map.injEq, Yaml.Entries.pairs, Yaml.Entries.all, Yaml.Entries.faults, memberPairs,
      List.nil_append, List.map_map, Function.comp_def, Bool.false_eq_true, if_false,
      List.flatMap_map, List.flatMap_eq_nil_iff]
  have values (preserved : ∀ m ∈ members, Unfolded m.1 ∧ Unpaired m.1) :
      Value.ofPairs (memberPairs follow (level + 1) members) = memberValues members ↔
        ∀ m ∈ members, (meaning follow (level + 1) m.2.node).value = m.2.value := by
    simp only [memberPairs_of_preserved follow preserved, Yaml.ofPairs_of_apart apart,
      memberValues_eq_map, List.map_inj_left, Prod.mk.injEq, true_and]
  rw [means]
  constructor
  · rintro ⟨same, faultless⟩ m hm
    have preserved := preserved_of_ofPairs follow same
    exact ⟨(preserved m hm).2, meaning_eq_iff.2
      ⟨(values preserved).1 same m hm, faultless m hm⟩⟩
  · intro all
    have preserved (m) (hm : m ∈ members) : Unfolded m.1 ∧ Unpaired m.1 :=
      ⟨named m hm, (all m hm).1⟩
    exact ⟨(values preserved).2 fun m hm => (meaning_eq_iff.1 (all m hm).2).1,
      fun m hm => (meaning_eq_iff.1 (all m hm).2).2⟩

mutual

/-- A value is read as what it denotes just if all its strings and numbers are. -/
theorem Tree.means_iff (t : Tree) (level : Nat) (distinct : t.Distinct)
    (named : ∀ s ∈ t.signs, s.IsNamed) :
    t.Means follow level ↔ ∀ s ∈ t.signs, s.IsKept := by
  match t with
  | .literal l =>
    rw [Tree.signs, List.forall_mem_singleton, Sign.IsKept, ← l.scalarValue_eq_iff]
    exact meaning_scalar_iff follow
  | .text ls =>
    rw [Tree.signs, List.forall_mem_singleton, Sign.IsKept, ← flowed_eq_iff]
    refine (meaning_scalar_iff follow).trans ?_
    rw [scalarValue, Tree.value, Except.ok.injEq, Value.text.injEq, content, String.ofList_inj]
  | .array items =>
    have named := (forall_signs_array ⟨trivial, trivial, trivial⟩).1 named
    rw [forall_signs_array ⟨trivial, trivial, trivial⟩, means_array]
    exact forall₂_congr (items_means_iff items (level + 1) distinct named)
  | .object members =>
    have named := (forall_signs_object ⟨trivial, trivial, trivial, trivial⟩).1 named
    rw [forall_signs_object ⟨trivial, trivial, trivial, trivial⟩,
      means_object follow (fun m hm => (named m hm).1) distinct.1]
    refine forall₂_congr fun m hm => and_congr_right' ?_
    exact members_means_iff members (level + 1) distinct.2 (fun m hm => (named m hm).2) m hm

theorem items_means_iff (items : List Tree) (level : Nat) (distinct : ItemsDistinct items)
    (named : ∀ t ∈ items, ∀ s ∈ t.signs, s.IsNamed) :
    ∀ t ∈ items, t.Means follow level ↔ ∀ s ∈ t.signs, s.IsKept := by
  match items with
  | [] => exact nofun
  | t :: rest =>
    obtain ⟨first, others⟩ := List.forall_mem_cons.1 named
    exact List.forall_mem_cons.2 ⟨t.means_iff level distinct.1 first,
      items_means_iff rest level distinct.2 others⟩

theorem members_means_iff (members : List (List Letter × Tree)) (level : Nat)
    (distinct : MembersDistinct members) (named : ∀ m ∈ members, ∀ s ∈ m.2.signs, s.IsNamed) :
    ∀ m ∈ members, m.2.Means follow level ↔ ∀ s ∈ m.2.signs, s.IsKept := by
  match members with
  | [] => exact nofun
  | (ls, t) :: rest =>
    obtain ⟨first, others⟩ := List.forall_mem_cons.1 named
    exact List.forall_mem_cons.2 ⟨t.means_iff level distinct.1 first,
      members_means_iff rest level distinct.2 others⟩

end

end Meaning

theorem firstFault_eq_none_iff {faults : List (Nat × Yaml.Fault)} :
    Meaning.firstFault faults = none ↔ faults = [] := by
  cases faults with
  | nil => simp [Meaning.firstFault]
  | cons f rest =>
    refine iff_of_false (fun none => ?_) nofun
    rw [Meaning.firstFault] at none
    split at none <;> cases none

theorem document_value_iff {t : Tree} (distinct : t.Distinct) (named : ∀ s ∈ t.signs, s.IsNamed) :
    Yaml.Node.Document.value ⟨t.node, []⟩ = .ok t.value ↔ ∀ s ∈ t.signs, s.IsKept := by
  rw [← t.means_iff (Yaml.Node.followTo [] Yaml.Node.followDepth) 0 distinct named, Tree.Means,
    meaning_eq_iff, Yaml.Node.Document.value, ← firstFault_eq_none_iff]
  split <;> simp_all

end CiWorkflow.Json
