import CiWorkflow.Proofs.Config.Issues
import Mathlib.Data.List.Nodup
import Mathlib.Data.List.Pairwise

/-! The entries of a record with some of them changed. A field is then checked as if only its own
entry had changed: by the value among the changes, or else by what it held, which needs no check. No
key but the names of the fields gets through. -/

set_option autoImplicit false

namespace CiWorkflow

namespace Value

theorem eq_text_of_sameKey {k : Value} {s : String} (h : sameKey k (.text s) = true) :
    k = .text s := by
  obtain ⟨-, same⟩ := Bool.and_eq_true_iff.1 h
  exact key?_eq_text_iff.1 (beq_iff_eq.1 same)

theorem lookup_cons (e : Value × Value) (entries : Entries) (name : String) :
    lookup name (e :: entries) = (lookup name [e]).or (lookup name entries) := by
  obtain ⟨k, v⟩ := e
  cases k with
  | text s => by_cases hs : s = name <;> simp [lookup, hs]
  | _ => rfl

theorem lookup_cons_of_not_text {k : Value} (h : ∀ s, k ≠ .text s) (v : Value) (entries : Entries)
    (name : String) : lookup name ((k, v) :: entries) = lookup name entries := by
  cases k with
  | text s => exact absurd rfl (h s)
  | _ => rfl

theorem lookup_put_of_not_text {k : Value} (h : ∀ s, k ≠ .text s) (v : Value) (entries : Entries)
    (name : String) : lookup name (put k v entries) = lookup name entries := by
  induction entries with
  | nil => exact lookup_cons_of_not_text h v [] name
  | cons e rest ih =>
    obtain ⟨k', w⟩ := e
    rw [put]
    split
    · rename_i same
      have other (s : String) : k' ≠ .text s := by
        rintro rfl
        exact h s (eq_text_of_sameKey same)
      rw [lookup_cons_of_not_text other, lookup_cons_of_not_text other]
    · cases k' with
      | text s => by_cases hs : s = name <;> simp [lookup, hs, ih]
      | _ => exact ih

theorem lookup_put_or (k v : Value) (entries : Entries) (name : String) :
    lookup name (put k v entries) = (lookup name [(k, v)]).or (lookup name entries) := by
  by_cases text : ∃ s, k = .text s
  · obtain ⟨s, rfl⟩ := text
    by_cases hs : s = name <;> simp [lookup_put, lookup, hs]
  · have other (s : String) : k ≠ .text s := fun e => text ⟨s, e⟩
    rw [lookup_put_of_not_text other, lookup_cons_of_not_text other, lookup, Option.none_or]

theorem lookup_changed (data changes : Entries) (name : String) :
    lookup name (changed data changes) = (lookup name (ofPairs changes)).or (lookup name data) := by
  induction changes generalizing data with
  | nil => rfl
  | cons e changes ih =>
    have given : ofPairs (e :: changes) = changed [e] changes := rfl
    have all : changed data (e :: changes) = changed (put e.1 e.2 data) changes := rfl
    rw [all, given, ih, ih, lookup_put_or, Option.or_assoc]

theorem lookup_ofPairs_cons (e : Value × Value) (changes : Entries) (name : String) :
    lookup name (ofPairs (e :: changes)) = (lookup name (ofPairs changes)).or (lookup name [e]) :=
  lookup_changed [e] changes name

theorem mem_of_lookup {entries : Entries} {name : String} {v : Value}
    (h : lookup name entries = some v) : (.text name, v) ∈ entries := by
  induction entries with
  | nil => simp [lookup] at h
  | cons e rest ih =>
    obtain ⟨k, w⟩ := e
    by_cases here : k = .text name
    · subst here
      obtain rfl : w = v := by simpa [lookup] using h
      exact List.mem_cons_self
    · refine List.mem_cons_of_mem _ (ih ?_)
      cases k with
      | text s =>
        have hs : s ≠ name := fun e => here (e ▸ rfl)
        simpa [lookup, hs] using h
      | _ => exact h

theorem mem_of_lookup_ofPairs {changes : Entries} {name : String} {v : Value}
    (h : lookup name (ofPairs changes) = some v) : (.text name, v) ∈ changes := by
  induction changes with
  | nil => simp [ofPairs, lookup] at h
  | cons e changes ih =>
    rw [lookup_ofPairs_cons, Option.or_eq_some_iff] at h
    rcases h with later | ⟨-, here⟩
    · exact List.mem_cons_of_mem _ (ih later)
    · exact List.mem_singleton.1 (mem_of_lookup here) ▸ List.mem_cons_self

/-- The same names are found among pairs and in the mapping made of them. -/
theorem lookup_ofPairs_isSome (changes : Entries) (name : String) :
    (lookup name (ofPairs changes)).isSome = (lookup name changes).isSome := by
  induction changes with
  | nil => rfl
  | cons e changes ih =>
    rw [lookup_ofPairs_cons, lookup_cons e changes, Option.isSome_or, Option.isSome_or, ih,
      Bool.or_comm]

end Value

theorem key_mem_changed {data changes : Entries} {e : Value × Value}
    (h : e ∈ changed data changes) : e.1 ∈ data.map (·.1) ∨ e.1 ∈ changes.map (·.1) := by
  have put (k v : Value) (entries : Entries) {e : Value × Value} (h : e ∈ Value.put k v entries) :
      e.1 ∈ entries.map (·.1) ∨ e.1 = k := by
    fun_induction Value.put k v entries with
    | case1 => exact .inr (by rw [List.mem_singleton.1 h])
    | case2 k' w rest same =>
      rcases List.mem_cons.1 h with rfl | h
      · exact .inl List.mem_cons_self
      · exact .inl (List.mem_cons_of_mem _ (List.mem_map_of_mem h))
    | case3 k' w rest differ ih =>
      rcases List.mem_cons.1 h with rfl | h
      · exact .inl List.mem_cons_self
      · exact (ih h).imp_left (List.mem_cons_of_mem _)
  induction changes generalizing data with
  | nil => exact .inl (List.mem_map_of_mem h)
  | cons c changes ih =>
    rcases ih h with before | later
    · obtain ⟨x, hx, key⟩ := List.mem_map.1 before
      rw [← key]
      rcases put c.1 c.2 data hx with old | new
      · exact .inl old
      · exact .inr (by simp [new])
    · exact .inr (List.mem_cons_of_mem _ later)

namespace Field

/-- The new value of a field among changes. Of several the last one counts. -/
def change? (f : Field) (changes : Entries) : Option Value :=
  Value.lookup f.name (Value.ofPairs changes)

/-- The check of a field among changes: a new value is checked, and without one the old holds. -/
def part {α : Type} (f : Field) (changes : Entries) (check : Value → Check α) (old : α) : Check α :=
  match f.change? changes with
  | some v => (check v).under (.key f.name)
  | none => .ok old

/-- What a field holds after changes: the new value as its check gives it, or the old one. -/
def Holds {α : Type} (f : Field) (changes : Entries) (check : Value → Check α) (old new : α) :
    Prop :=
  match f.change? changes with
  | some v => ∀ n, (check v n).result = .ok new
  | none => new = old

/-- Changes do not have the field in camel case, unless its name is the same. -/
def ByName (f : Field) (changes : Entries) : Prop :=
  f.name = f.camel ∨ Value.lookup f.camel (Value.ofPairs changes) = none

theorem eq_of_given {f : Field} {data : Entries} {p : String × Value}
    (h : f.given data = some p) : p.1 = f.camel ∨ p.1 = f.name := by
  rw [Field.given] at h
  split at h
  · exact .inl (congrArg Prod.fst (Option.some.inj h).symm)
  · obtain ⟨v, -, rfl⟩ := Option.map_eq_some_iff.1 h
    exact .inr rfl

instance : Std.Symm Apart := ⟨fun _ _ => Apart.symm⟩

theorem Apart.of_mem {fields : List Field} (apart : fields.Pairwise Apart) {f g : Field}
    (hf : f ∈ fields) (hg : g ∈ fields) (differ : f ≠ g) : f.Apart g :=
  apart.forall hf hg differ

/-- Where a field is given in both spellings, its name is a key too much. -/
theorem extraKey_of_both {fields : List Field} (apart : fields.Pairwise Apart) {f : Field}
    (hf : f ∈ fields) (differ : f.name ≠ f.camel) {data : Entries} {v w : Value}
    (camel : Value.lookup f.camel data = some v) (name : (.text f.name, w) ∈ data) (n : Nat) :
    ∃ issues, (checkKeys fields data n).rejection = .issues issues ∧
      ⟨.extraKey, [.key f.name]⟩ ∈ issues := by
  have unknown : f.name ∉ fields.filterMap fun g => (g.given data).map (·.1) := by
    intro mem
    obtain ⟨g, hg, key⟩ := List.mem_filterMap.1 mem
    obtain ⟨p, hp, name⟩ := Option.map_eq_some_iff.1 key
    by_cases same : g = f
    · subst same
      rw [Field.given, camel] at hp
      obtain rfl := Option.some.inj hp
      exact differ name.symm
    · have far := Apart.of_mem apart hg hf same
      rcases eq_of_given hp with h | h
      · exact far.2.2.1 (h ▸ name)
      · exact far.1 (h ▸ name)
  exact ⟨_, rejection_checkKeys fields data n,
    List.mem_filterMap.2 ⟨_, name, by simp [keyIssue, unknown]⟩⟩

section
variable {α : Type} {given : List (Field × Value)} {changes : Entries} {f : Field} {w : Value}
  {check : Value → Check α} {old : α}

variable (changes) in
theorem lookup_name_changed (apart : (given.map (·.1)).Pairwise Apart) (hm : (f, w) ∈ given) :
    Value.lookup f.name (changed (entriesOf .name given) changes) =
      some ((f.change? changes).getD w) := by
  have before : Value.lookup (f.spell .name) (entriesOf .name given) = some w :=
    lookup_of_mem apart hm
  rw [spell] at before
  rw [Value.lookup_changed, before]
  cases h : Value.lookup f.name (Value.ofPairs changes) <;> simp [change?, h]

theorem given_changed (apart : (given.map (·.1)).Pairwise Apart) (hm : (f, w) ∈ given)
    (byName : f.ByName changes) :
    f.given (changed (entriesOf .name given) changes) =
      some (f.name, (f.change? changes).getD w) := by
  have found := lookup_name_changed changes apart hm
  rw [Field.given]
  by_cases same : f.name = f.camel
  · rw [← same, found]
  · have none : Value.lookup f.camel (changed (entriesOf .name given) changes) = none := by
      rw [Value.lookup_changed, byName.resolve_left same, lookup_camel_eq_none apart hm same]
      rfl
    rw [none, found]
    rfl

theorem check_changed (apart : (given.map (·.1)).Pairwise Apart) (hm : (f, w) ∈ given)
    (byName : f.ByName changes) (own : check w = .ok old) (default : Check α) :
    f.check (changed (entriesOf .name given) changes) default check =
      f.part changes check old := by
  rw [Field.check, given_changed apart hm byName, part]
  cases f.change? changes with
  | none =>
    simp only [Option.getD_none, own]
    rfl
  | some v => rfl

theorem holds_of_part {new : α} {n : Nat} (still : ∀ v, (check v).Still)
    (h : (f.part changes check old n).result = .ok new) : f.Holds changes check old new := by
  rw [part] at h
  rw [Holds]
  cases hc : f.change? changes with
  | none =>
    rw [hc] at h
    exact (Except.ok.inj h).symm
  | some v =>
    rw [hc] at h
    exact fun m => (still v).result m n ▸ Check.under_eq_ok_iff.1 h

/-- Where changes have a field in camel case, its name is a key too much. -/
theorem not_isOk_of_camel (apart : (given.map (·.1)).Pairwise Apart) (hm : (f, w) ∈ given)
    (differ : f.name ≠ f.camel) {v : Value}
    (camel : Value.lookup f.camel (Value.ofPairs changes) = some v) (n : Nat) :
    (checkKeys (given.map (·.1)) (changed (entriesOf .name given) changes) n).isOk = false := by
  have found : Value.lookup f.camel (changed (entriesOf .name given) changes) = some v := by
    rw [Value.lookup_changed, camel]
    rfl
  have named := Value.mem_of_lookup (lookup_name_changed changes apart hm)
  obtain ⟨issues, blamed, issue⟩ :=
    extraKey_of_both apart (List.mem_map_of_mem hm) differ found named n
  refine Bool.not_eq_true _ |>.mp fun ok => ?_
  rw [Checked.rejection_of_isOk ok] at blamed
  exact absurd issue (Rejection.issues.inj blamed ▸ List.not_mem_nil)

theorem byName_of_checkKeys (apart : (given.map (·.1)).Pairwise Apart) (hm : (f, w) ∈ given)
    {n : Nat}
    (keys : (checkKeys (given.map (·.1)) (changed (entriesOf .name given) changes) n).isOk = true) :
    f.ByName changes := by
  by_cases same : f.name = f.camel
  · exact .inl same
  · refine .inr (Option.eq_none_iff_forall_ne_some.2 fun v camel => ?_)
    have refused := not_isOk_of_camel apart hm same camel n
    exact absurd keys (by simp [refused])

/-- Where no key is refused, a field that was checked holds what the changes make of it. -/
theorem holds_of_check {default : Check α} {new : α} {n m : Nat}
    (apart : (given.map (·.1)).Pairwise Apart)
    (keys : (checkKeys (given.map (·.1)) (changed (entriesOf .name given) changes) n).isOk = true)
    (hm : (f, w) ∈ given) (own : check w = .ok old) (still : ∀ v, (check v).Still)
    (found : (f.check (changed (entriesOf .name given) changes) default check m).result =
      .ok new) : f.Holds changes check old new := by
  have part := check_changed apart hm (byName_of_checkKeys apart hm keys) own default
  exact holds_of_part still (part ▸ found)

def Named (fields : List Field) (changes : Entries) : Prop :=
  ∀ e ∈ changes, ∃ f ∈ fields, e.1 = .text f.name

theorem Named.byName {fields : List Field} (named : Named fields changes)
    (apart : fields.Pairwise Apart) (hf : f ∈ fields) : f.ByName changes := by
  by_cases same : f.name = f.camel
  · exact .inl same
  · refine .inr (Option.eq_none_iff_forall_ne_some.2 fun v camel => ?_)
    obtain ⟨g, hg, key⟩ := named _ (Value.mem_of_lookup_ofPairs camel)
    have key : f.camel = g.name := Value.text.inj key
    by_cases other : f = g
    · subst other
      exact same key.symm
    · exact (Apart.of_mem apart hf hg other).2.2.1 key

end

end Field

theorem checkKeys_changed {given : List (Field × Value)} {changes : Entries}
    (apart : (given.map (·.1)).Pairwise Field.Apart)
    (named : Field.Named (given.map (·.1)) changes) :
    checkKeys (given.map (·.1)) (changed (Field.entriesOf .name given) changes) = .ok () := by
  refine checkKeys_of_given fun e he => ?_
  obtain ⟨p, hp, key⟩ : ∃ p ∈ given, e.1 = .text p.1.name := by
    rcases key_mem_changed he with old | new
    · obtain ⟨x, hx, key⟩ := List.mem_map.1 old
      obtain ⟨p, hp, rfl⟩ := List.mem_map.1 hx
      exact ⟨p, hp, key.symm⟩
    · obtain ⟨x, hx, key⟩ := List.mem_map.1 new
      obtain ⟨f, hf, text⟩ := named x hx
      obtain ⟨p, hp, rfl⟩ := List.mem_map.1 hf
      exact ⟨p, hp, key ▸ text⟩
  have hf : p.1 ∈ given.map (·.1) := List.mem_map_of_mem hp
  exact ⟨p.1, hf, _, Field.given_changed apart hp (named.byName apart hf), key⟩

end CiWorkflow
