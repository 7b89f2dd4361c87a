import CiWorkflow.Proofs.Config.Changes

/-! New values for different fields of a record. What is checked of a field depends on its own new
value only, so neither the order of the values nor their grouping counts for it. -/

set_option autoImplicit false

namespace CiWorkflow

namespace Field

structure Chosen (fields : List Field) (changes : List (Field × Value)) : Prop where
  known : ∀ p ∈ changes, p.1 ∈ fields
  distinct : (changes.map (·.1)).Nodup

def inOrder (fields : List Field) (changes : List (Field × Value)) : List (Field × Value) :=
  fields.filterMap fun f => changes.find? fun p => p.1 = f

section
variable {fields : List Field} {changes order rest : List (Field × Value)} {f : Field}
  {p e : Field × Value} {v : Value}

theorem mem_of_mem_inOrder (h : p ∈ inOrder fields changes) : p ∈ changes := by
  obtain ⟨f, -, found⟩ := List.mem_filterMap.1 h
  exact List.mem_of_find?_eq_some found

theorem Chosen.mem_inOrder (h : Chosen fields changes) (hp : p ∈ changes) :
    p ∈ inOrder fields changes := by
  have some : (changes.find? fun q => q.1 = p.1).isSome = true :=
    List.find?_isSome.2 ⟨p, hp, by simp⟩
  obtain ⟨q, found⟩ := Option.isSome_iff_exists.1 some
  have same : q.1 = p.1 := by simpa using List.find?_some found
  obtain rfl : q = p :=
    List.inj_on_of_nodup_map h.distinct (List.mem_of_find?_eq_some found) hp same
  exact List.mem_filterMap.2 ⟨q.1, h.known q hp, found⟩

theorem Chosen.alone (h : Chosen fields changes) (hp : p ∈ changes) : Chosen fields [p] :=
  ⟨fun _ hq => List.mem_singleton.1 hq ▸ h.known p hp, List.nodup_singleton _⟩

theorem Chosen.perm (h : Chosen fields changes) (perm : order.Perm changes) :
    Chosen fields order :=
  ⟨fun p hp => h.known p (perm.subset hp), (perm.map _).nodup_iff.2 h.distinct⟩

theorem Chosen.tail (h : Chosen fields (e :: rest)) : Chosen fields rest :=
  ⟨fun p hp => h.known p (List.mem_cons_of_mem _ hp), (List.nodup_cons.1 h.distinct).2⟩

theorem Chosen.named (h : Chosen fields changes) : Named fields (entriesOf .name changes) := by
  intro e he
  obtain ⟨p, hp, rfl⟩ := List.mem_map.1 he
  exact ⟨p.1, h.known p hp, rfl⟩

theorem Chosen.apart (h : Chosen fields changes) (apart : fields.Pairwise Apart) :
    (changes.map (·.1)).Pairwise Apart := by
  have known (f : Field) (hf : f ∈ changes.map (·.1)) : f ∈ fields := by
    obtain ⟨p, hp, rfl⟩ := List.mem_map.1 hf
    exact h.known p hp
  exact h.distinct.pairwise_of_forall_ne fun f hf g hg differ =>
    Apart.of_mem apart (known f hf) (known g hg) differ

theorem Chosen.change?_eq_some_iff (h : Chosen fields changes) (apart : fields.Pairwise Apart)
    (hf : f ∈ fields) : f.change? (entriesOf .name changes) = some v ↔ (f, v) ∈ changes := by
  have given {w : Value} (hw : f.change? (entriesOf .name changes) = some w) :
      (f, w) ∈ changes := by
    obtain ⟨⟨g, u⟩, hg, same⟩ := List.mem_map.1 (Value.mem_of_lookup_ofPairs hw)
    have names : g.name = f.name := Value.text.inj (congrArg Prod.fst same)
    obtain rfl : u = w := congrArg Prod.snd same
    by_cases other : g = f
    · exact other ▸ hg
    · exact absurd names (Apart.of_mem apart (h.known _ hg) hf other).1
  have found {w : Value} (hw : (f, w) ∈ changes) :
      Value.lookup (f.spell .name) (entriesOf .name changes) = some w :=
    lookup_of_mem (h.apart apart) hw
  refine ⟨given, fun hv => ?_⟩
  have some : (f.change? (entriesOf .name changes)).isSome = true := by
    rw [change?, Value.lookup_ofPairs_isSome]
    exact Option.isSome_of_eq_some (found hv)
  obtain ⟨w, hw⟩ := Option.isSome_iff_exists.1 some
  obtain rfl := Option.some.inj ((found hv).symm.trans (found (given hw)))
  exact hw

theorem Chosen.change?_eq_none (h : Chosen fields changes) (apart : fields.Pairwise Apart)
    (hf : f ∈ fields) (other : f ∉ changes.map (·.1)) :
    f.change? (entriesOf .name changes) = none :=
  Option.eq_none_iff_forall_ne_some.2 fun v hv =>
    other (List.mem_map.2 ⟨(f, v), (h.change?_eq_some_iff apart hf).1 hv, rfl⟩)

/-- Changes that give a field the same new value are alike to it. -/
theorem Chosen.change?_congr {changes' : List (Field × Value)} (h : Chosen fields changes)
    (h' : Chosen fields changes') (apart : fields.Pairwise Apart) (hf : f ∈ fields)
    (same : ∀ v, (f, v) ∈ changes ↔ (f, v) ∈ changes') :
    f.change? (entriesOf .name changes) = f.change? (entriesOf .name changes') := by
  refine Option.ext fun v => ?_
  rw [h.change?_eq_some_iff apart hf, h'.change?_eq_some_iff apart hf]
  exact same v

section
variable {α : Type} {check : Value → Check α} {old new : α} {n : Nat}

theorem still_part (still : ∀ v, (check v).Still) (f : Field) (changes : Entries) (old : α) :
    (f.part changes check old).Still := by
  rw [part]
  split
  · exact (still _).under _
  · exact Check.still_ok old

theorem drawn_part (still : ∀ v, (check v).Still) (f : Field) (changes : Entries) (old : α)
    (n : Nat) : (f.part changes check old n).drawn = n := (f.still_part still changes old).drawn n

theorem part_of_none {changes : Entries} (none : f.change? changes = none) :
    f.part changes check old = .ok old := by
  rw [part, none]

theorem part_congr {changes changes' : Entries} (same : f.change? changes = f.change? changes') :
    f.part changes check old = f.part changes' check old := by
  rw [part, part, same]

/-- One of the changes by itself is the same to its field, and nothing to the others. -/
theorem Chosen.part_alone (h : Chosen fields changes) (apart : fields.Pairwise Apart)
    (hf : f ∈ fields) (hp : p ∈ changes) :
    f.part (entriesOf .name [p]) check old =
      if p.1 = f then f.part (entriesOf .name changes) check old else .ok old := by
  have alone := h.alone hp
  by_cases same : p.1 = f
  · subst same
    have among := (h.change?_eq_some_iff apart hf).2 hp
    have single := (alone.change?_eq_some_iff apart hf).2 List.mem_cons_self
    rw [if_pos rfl, part_congr (single.trans among.symm)]
  · have other : f ∉ [p].map (·.1) := fun hm => same (List.mem_singleton.1 hm).symm
    rw [if_neg same, part_of_none (alone.change?_eq_none apart hf other)]

/-- A field that is changed among others goes the same way by the first change and then by the
rest: one of both is not about it. -/
theorem part_cons (h : Chosen fields (e :: rest)) (apart : fields.Pairwise Apart)
    (hf : f ∈ fields)
    (ok : (f.part (entriesOf .name (e :: rest)) check old n).result = .ok new) :
    let first := f.part (entriesOf .name [e]) check old n
    ∃ mid, first.result = .ok mid ∧
      (f.part (entriesOf .name rest) check mid first.drawn).result = .ok new ∧
      (f.part (entriesOf .name rest) check mid first.drawn).drawn =
        (f.part (entriesOf .name (e :: rest)) check old n).drawn := by
  rw [h.part_alone apart hf List.mem_cons_self]
  by_cases here : e.1 = f
  · have later : f.change? (entriesOf .name rest) = none :=
      h.tail.change?_eq_none apart hf (here ▸ (List.nodup_cons.1 h.distinct).1)
    refine ⟨new, ?_⟩
    rw [if_pos here, part_of_none later]
    exact ⟨ok, rfl, rfl⟩
  · have later : f.change? (entriesOf .name rest) = f.change? (entriesOf .name (e :: rest)) := by
      refine h.tail.change?_congr h apart hf fun v => ?_
      have notFirst : (f, v) ≠ e := fun same => here (same ▸ rfl)
      simp [notFirst]
    refine ⟨old, ?_⟩
    rw [if_neg here, part_congr later]
    exact ⟨rfl, ok, rfl⟩

/-- What is wrong with a field is what is wrong with its new value, whatever it held. -/
theorem rejection_part (f : Field) (changes : Entries) (check : Value → Check α) (old : α)
    (n : Nat) :
    (f.part changes check old n).rejection = (f.change? changes).elim (.issues []) fun v =>
      (check v n).rejection.under (.key f.name) := by
  rw [part]
  cases f.change? changes with
  | none => rfl
  | some v => exact Check.rejection_under n _ (check v)

theorem isOk_part (f : Field) (changes : Entries) (check : Value → Check α) (old : α) (n : Nat) :
    (f.part changes check old n).isOk = (f.change? changes).elim true fun v =>
      (check v n).isOk := by
  rw [part]
  cases f.change? changes with
  | none => rfl
  | some v => exact Check.isOk_under n _ (check v)

end

end

end Field

end CiWorkflow
