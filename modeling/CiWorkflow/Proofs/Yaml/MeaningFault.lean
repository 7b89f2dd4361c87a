import CiWorkflow.Proofs.Yaml.NodeFault

set_option autoImplicit false

namespace CiWorkflow.Yaml

abbrev Reading := Tag × Except Fault Value

/-- Either the document is malformed, or one of these scalars is not what its tag says. -/
def Foreseen (ss : List Reading) (f : Fault) : Prop :=
  f = .malformed ∨ ∃ t, (t, .error f) ∈ ss

def Explains (ss : List Reading) (faults : List (Nat × Fault)) : Prop :=
  ∀ p ∈ faults, Foreseen ss p.2

namespace Explains
variable {ss tt : List Reading} {xs ys : List (Nat × Fault)}

theorem nil : Explains ss [] := nofun

theorem malformed {level : Nat} : Explains ss [(level, .malformed)] := by
  intro p hp
  exact .inl (congrArg Prod.snd (List.mem_singleton.1 hp))

theorem append (hx : Explains ss xs) (hy : Explains ss ys) : Explains ss (xs ++ ys) :=
  fun p hp => (List.mem_append.1 hp).elim (hx p) (hy p)

theorem mono (hx : Explains ss xs) (h : ss ⊆ tt) : Explains tt xs :=
  fun p hp => (hx p hp).imp_right fun ⟨t, ht⟩ => ⟨t, h ht⟩

theorem flatMap {α : Type} {as : List α} {g : α → List (Nat × Fault)}
    (h : ∀ a ∈ as, Explains ss (g a)) : Explains ss (as.flatMap g) := by
  intro p hp
  obtain ⟨a, ha, hp⟩ := List.mem_flatMap.1 hp
  exact h a ha p hp

theorem ofExcept {t : Tag} {x : Except Fault Value} (h : (t, x) ∈ ss) (level : Nat) :
    Explains ss (Meaning.ofExcept level x).faults := by
  cases x with
  | ok v => exact nil
  | error f =>
    intro p hp
    obtain rfl := List.mem_singleton.1 hp
    exact .inr ⟨t, h⟩

end Explains

/-- The faults of all entries, merged ones and own ones, are foreseen. -/
def Entries.Explained (ss : List Reading) (es : Entries) : Prop :=
  ∀ e ∈ es.all, Explains ss e.faults

namespace Entries.Explained
variable {ss tt : List Reading} {es found : Entries}

theorem faults (h : es.Explained ss) (level : Nat) : Explains ss (es.faults level) := by
  refine .append ?_ (.flatMap h)
  split
  · exact .malformed
  · exact .nil

theorem mono (h : es.Explained ss) (hs : ss ⊆ tt) : es.Explained tt :=
  fun e he => (h e he).mono hs

theorem ofValue (v : Value) : (Entries.ofValue v).Explained ss := by
  intro e he
  cases v with
  | map entries =>
    obtain ⟨p, _, rfl⟩ := List.mem_map.1 he
    exact .nil
  | _ => cases he

theorem append {later : Entries} (hf : found.Explained ss) (hl : later.Explained ss)
    (faulty : Bool) : Entries.Explained ss ⟨[], later.all ++ found.all, faulty⟩ := by
  intro e he
  exact (List.mem_append.1 (show e ∈ later.all ++ found.all from he)).elim (hl e) (hf e)

theorem merge (hf : found.Explained ss) (h : es.Explained ss) :
    (found.merge es).Explained ss := by
  intro e he
  simp only [Entries.merge, Entries.all, List.append_assoc, List.mem_append] at he
  rcases he with he | he | he
  · exact hf e (List.mem_append_left _ he)
  · exact hf e (List.mem_append_right _ he)
  · exact h e (List.mem_append.2 he)

theorem cons {e : Entry} (he : Explains ss e.faults) (h : es.Explained ss) :
    Entries.Explained ss ⟨es.merged, e :: es.own, es.faulty⟩ := by
  intro e' he'
  simp only [Entries.all, List.mem_append, List.mem_cons] at he'
  rcases he' with hm | rfl | ho
  · exact h e' (List.mem_append_left _ hm)
  · exact he
  · exact h e' (List.mem_append_right _ ho)

end Entries.Explained

namespace Node

mutual

/-- What comes of the scalars of a document. A mapping may be built as the scalar that it gives for
the key `=`. -/
def readings : Node → List Reading
  | scalar t s => [(t, scalarValue t s)]
  | sequence _ items => itemReadings items
  | mapping t entries =>
    (defaultText entries).toList.map (fun s => (t, mappedValue t s)) ++ entryReadings entries
  | again _ => []

def itemReadings : List Node → List Reading
  | [] => []
  | n :: rest => readings n ++ itemReadings rest

def entryReadings : List (Node × Node) → List Reading
  | [] => []
  | (k, v) :: rest => readings k ++ (readings v ++ entryReadings rest)

end

section Building
variable {ss : List Reading} {level : Nat}

theorem explains_defaultKey (k : Node) : Explains ss (defaultKey level k).faults := by
  rw [defaultKey]
  split
  · exact .nil
  · exact .malformed

theorem explains_entry {k v : Meaning} (hk : Explains ss k.faults) (hv : Explains ss v.faults) :
    Explains ss (entry level k v).faults := by
  refine .append (.append hk ?_) hv
  split
  · exact .nil
  · exact .malformed

theorem itemReadings_tail (n : Node) (rest : List Node) :
    itemReadings rest ⊆ itemReadings (n :: rest) := List.subset_append_right _ _

theorem entryReadings_key (k v : Node) (rest : List (Node × Node)) :
    readings k ⊆ entryReadings ((k, v) :: rest) := List.subset_append_left _ _

theorem entryReadings_value (k v : Node) (rest : List (Node × Node)) :
    readings v ⊆ entryReadings ((k, v) :: rest) :=
  List.subset_append_of_subset_right _ (List.subset_append_left _ _)

theorem entryReadings_tail (k v : Node) (rest : List (Node × Node)) :
    entryReadings rest ⊆ entryReadings ((k, v) :: rest) :=
  List.subset_append_of_subset_right _ (List.subset_append_right _ _)

theorem entryReadings_entries (t : Tag) (entries : List (Node × Node)) :
    entryReadings entries ⊆ (mapping t entries).readings := List.subset_append_right _ _

mutual

/-- All that is wrong with what a node means is the shape of the node, or one of its scalars. -/
theorem explains_meaning (follow : String → Value) (level : Nat) :
    ∀ n : Node, Explains n.readings (n.meaning follow level).faults
  | scalar t s => by
    have built := Explains.ofExcept
      (List.mem_singleton.2 rfl : (t, scalarValue t s) ∈ (scalar t s).readings) level
    cases t with
    | seq | map | set | omap | pairs => exact .malformed
    | _ => exact built
  | sequence t items => by
    cases t with
    | seq => exact .flatMap (explains_meanings follow (level + 1) items)
    | omap | pairs => exact .flatMap (explains_pairings follow (level + 1) items)
    | _ => exact .malformed
  | mapping t entries => by
    have es := ((explained_entriesOf follow (level + 1) entries).mono
      (entryReadings_entries t entries)).faults (level + 1)
    have built : Explains (mapping t entries).readings (match defaultText entries with
        | some s => Meaning.ofExcept level (mappedValue t s)
        | none => ⟨.null, [(level, .malformed)]⟩).faults := by
      cases hs : defaultText entries with
      | none => exact .malformed
      | some s => exact .ofExcept (t := t) (by simp [readings, hs]) level
    cases t with
    | map | set => exact es
    | seq | omap | pairs => exact .malformed
    | _ => exact built
  | again a => .nil

theorem explains_meanings (follow : String → Value) (level : Nat) :
    ∀ items : List Node, ∀ m ∈ meanings follow level items, Explains (itemReadings items) m.faults
  | [] => nofun
  | n :: rest => by
    intro m hm
    rcases List.mem_cons.1 hm with rfl | hm
    · exact (explains_meaning follow level n).mono (List.subset_append_left _ _)
    · exact (explains_meanings follow level rest m hm).mono (itemReadings_tail n rest)

theorem explains_pairings (follow : String → Value) (level : Nat) :
    ∀ items : List Node, ∀ m ∈ pairings follow level items, Explains (itemReadings items) m.faults
  | [] => nofun
  | mapping t [(k, v)] :: rest => by
    intro m hm
    rcases List.mem_cons.1 hm with rfl | hm
    · have key := (explains_meaning follow level k).mono (entryReadings_key k v [])
      have value := (explains_meaning follow level v).mono (entryReadings_value k v [])
      exact (key.append value).mono fun _ h =>
        List.mem_append_left _ (entryReadings_entries t [(k, v)] h)
    · exact (explains_pairings follow level rest m hm).mono (itemReadings_tail _ rest)
  | mapping _ [] :: rest | mapping _ (_ :: _ :: _) :: rest | scalar _ _ :: rest
  | sequence _ _ :: rest | again _ :: rest => by
    intro m hm
    rcases List.mem_cons.1 hm with rfl | hm
    · exact .malformed
    · exact (explains_pairings follow level rest m hm).mono (itemReadings_tail _ rest)

theorem explained_entriesOf (follow : String → Value) (level : Nat) :
    ∀ entries : List (Node × Node),
      (entriesOf follow level entries).Explained (entryReadings entries)
  | [] => nofun
  | (k, v) :: rest => by
    have more := (explained_entriesOf follow level rest).mono (entryReadings_tail k v rest)
    rw [entriesOf.eq_def]
    dsimp only
    split
    · cases v with
      | mapping t es =>
        exact ((explained_entriesOf follow level es).mono
          (fun _ h => entryReadings_value k _ rest (entryReadings_entries t es h))).merge more
      | sequence t items =>
        exact ((explained_mergeAll follow level items).mono
          (entryReadings_value k (sequence t items) rest)).merge more
      | again a => exact (Entries.Explained.ofValue _).merge more
      | scalar t s => exact more
    · have value := (explains_meaning follow level v).mono (entryReadings_value k v rest)
      refine .cons (explains_entry ?_ value) more
      split
      · exact explains_defaultKey k
      · exact (explains_meaning follow level k).mono (entryReadings_key k v rest)

theorem explained_mergeAll (follow : String → Value) (level : Nat) :
    ∀ items : List Node, (mergeAll follow level items).Explained (itemReadings items)
  | [] => nofun
  | n :: rest => by
    have later := (explained_mergeAll follow level rest).mono (itemReadings_tail n rest)
    rw [mergeAll.eq_def]
    cases n with
    | mapping t es =>
      exact ((explained_entriesOf follow level es).mono (fun _ h =>
        List.mem_append_left _ (entryReadings_entries t es h))).append later _
    | again a => exact (Entries.Explained.ofValue _).append later _
    | _ => exact later

end

end Building

end Node

namespace Meaning

theorem mem_of_firstFault : ∀ {faults : List (Nat × Fault)} {g : Nat × Fault},
    firstFault faults = some g → g ∈ faults
  | f :: rest, g, h => by
    rw [firstFault] at h
    split at h
    · rename_i first hfirst
      obtain rfl := Option.some.inj h
      split
      · exact List.mem_cons_of_mem _ (mem_of_firstFault hfirst)
      · exact List.mem_cons_self
    · obtain rfl := Option.some.inj h
      exact List.mem_cons_self

end Meaning

namespace Node

theorem foreseen_of_value {d : Document} {f : Fault} (h : d.value = .error f) :
    Foreseen d.root.readings f := by
  rw [Document.value] at h
  split at h
  · rename_i g hg
    obtain rfl := Except.error.inj h
    exact explains_meaning _ 0 d.root g (Meaning.mem_of_firstFault hg)
  · cases h

end Node

section Typed

/-- A computation that does not find the document malformed. -/
abbrev WellFormed {α : Type} (x : Except Fault α) : Prop :=
  Results (· ≠ .malformed) (fun _ => True) x

theorem wellFormed_mapM {α β : Type} {read : α → Except Fault β} (h : ∀ a, WellFormed (read a)) :
    ∀ as : List α, WellFormed (as.mapM read)
  | [] => trivial
  | a :: rest => by
    rw [List.mapM_cons]
    exact (h a).bind fun _ _ => (wellFormed_mapM h rest).bind fun _ _ => trivial

theorem wellFormed_readWhole (base : Nat) (cs : List Char) : WellFormed (readWhole base cs) := by
  rw [readWhole]
  split
  · exact .ite nofun trivial
  · exact nofun

theorem wellFormed_readMagnitude (cs : List Char) : WellFormed (readMagnitude cs) := by
  rw [readMagnitude.eq_def]
  split
  · exact nofun
  · trivial
  · exact wellFormed_readWhole 2 _
  · exact wellFormed_readWhole 16 _
  · exact wellFormed_readWhole 8 _
  · exact .ite ((wellFormed_mapM (wellFormed_readWhole 10) _).bind fun _ _ => trivial)
      (wellFormed_readWhole 10 _)

theorem wellFormed_readInteger (text : List Char) : WellFormed (readInteger text) := by
  rw [readInteger]
  split
  · exact nofun
  · exact (wellFormed_readMagnitude _).map fun _ _ => trivial
  · exact wellFormed_readMagnitude _
  · exact wellFormed_readMagnitude _

theorem wellFormed_readReal (cs : List Char) : WellFormed (readReal cs) := by
  rw [readReal]
  split
  · trivial
  · exact nofun

theorem wellFormed_sumPlaces (sum : Float) (base : Nat) (places : List Float) :
    WellFormed (sumPlaces sum base places) := by
  fun_induction sumPlaces sum base places with
  | case1 => trivial
  | case2 => exact nofun
  | case3 _ _ _ _ _ ih => exact ih

theorem wellFormed_readUnsigned (cs : List Char) : WellFormed (readUnsigned cs) := by
  rw [readUnsigned]
  exact .ite trivial <| .ite trivial <|
    .ite ((wellFormed_mapM wellFormed_readReal _).bind fun _ _ => wellFormed_sumPlaces _ _ _)
      (wellFormed_readReal cs)

theorem wellFormed_readFloat (text : List Char) : WellFormed (readFloat text) := by
  rw [readFloat]
  split
  · exact nofun
  · exact (wellFormed_readUnsigned _).map fun _ _ => trivial
  · exact wellFormed_readUnsigned _
  · exact wellFormed_readUnsigned _

theorem wellFormed_readBool (text : String) : WellFormed (readBool text) :=
  .ite trivial (.ite trivial nofun)

theorem wellFormed_readMoment (text : List Char) : WellFormed (readMoment text) := by
  rw [readMoment]
  split
  · exact nofun
  · split
    · split
      · trivial
      · exact nofun
    · split
      · trivial
      · exact nofun

/-- Tags by which a text is to be a value of some type, and may not be one. -/
def Tag.IsTyped (t : Tag) : Prop := t = .bool ∨ t = .int ∨ t = .float ∨ t = .timestamp

theorem wellFormed_scalarValue {t : Tag} (h : t.IsTyped) (s : String) :
    WellFormed (scalarValue t s) := by
  rcases h with rfl | rfl | rfl | rfl
  · exact (wellFormed_readBool s).map fun _ _ => trivial
  · exact (wellFormed_readInteger s.toList).map fun _ _ => trivial
  · exact (wellFormed_readFloat s.toList).map fun _ _ => trivial
  · exact wellFormed_readMoment s.toList

theorem malformed_of_readBytes {cs : List Char} {f : Fault} (h : readBytes cs = .error f) :
    f = .malformed := by
  rw [readBytes] at h
  split at h
  · split at h
    · cases h
    · exact (Except.error.inj h).symm
  · exact (Except.error.inj h).symm

theorem wellFormed_mappedValue {t : Tag} (h : t.IsTyped) (s : String) :
    WellFormed (mappedValue t s) := by
  rw [mappedValue.eq_def]
  split
  · exact nofun
  · exact wellFormed_scalarValue h s

theorem typed_of_scalarValue {t : Tag} {s : String} {f : Fault} (h : scalarValue t s = .error f)
    (hf : f ≠ .malformed) : t.IsTyped := by
  cases t with
  | bool | int | float | timestamp => simp [Tag.IsTyped]
  | null | str => cases h
  | binary =>
    rw [scalarValue] at h
    cases hb : readBytes s.toList with
    | ok bytes => simp [hb, Except.map] at h
    | error e =>
      rw [hb] at h
      obtain rfl := Except.error.inj h
      exact absurd (malformed_of_readBytes hb) hf
  | _ => exact absurd (Except.error.inj h).symm hf

theorem typed_of_mappedValue {t : Tag} {s : String} {f : Fault} (h : mappedValue t s = .error f)
    (hf : f ≠ .malformed) : t.IsTyped := by
  rw [mappedValue.eq_def] at h
  split at h
  · simp [Tag.IsTyped]
  · exact typed_of_scalarValue h hf

end Typed

namespace Node

mutual

/-- A reading is that of some text by the tag, in a scalar or in a mapping. -/
theorem exists_of_mem_readings {p : Reading} :
    ∀ n : Node, p ∈ n.readings → ∃ s, p.2 = scalarValue p.1 s ∨ p.2 = mappedValue p.1 s
  | scalar t s, h => by
    obtain rfl := List.mem_singleton.1 h
    exact ⟨s, .inl rfl⟩
  | sequence _ items, h => exists_of_mem_itemReadings items h
  | mapping t entries, h => by
    rcases List.mem_append.1 h with own | inside
    · obtain ⟨s, -, rfl⟩ := List.mem_map.1 own
      exact ⟨s, .inr rfl⟩
    · exact exists_of_mem_entryReadings entries inside
  | again _, h => absurd h List.not_mem_nil

theorem exists_of_mem_itemReadings {p : Reading} : ∀ items : List Node,
    p ∈ itemReadings items → ∃ s, p.2 = scalarValue p.1 s ∨ p.2 = mappedValue p.1 s
  | [], h => absurd h List.not_mem_nil
  | n :: rest, h => (List.mem_append.1 h).elim (exists_of_mem_readings n)
      (exists_of_mem_itemReadings rest)

theorem exists_of_mem_entryReadings {p : Reading} : ∀ entries : List (Node × Node),
    p ∈ entryReadings entries → ∃ s, p.2 = scalarValue p.1 s ∨ p.2 = mappedValue p.1 s
  | [], h => absurd h List.not_mem_nil
  | (k, v) :: rest, h => (List.mem_append.1 h).elim (exists_of_mem_readings k) fun h =>
      (List.mem_append.1 h).elim (exists_of_mem_readings v) (exists_of_mem_entryReadings rest)

end

theorem typed_iff_of_mem_readings {n : Node} {t : Tag} {f : Fault}
    (h : (t, .error f) ∈ n.readings) : f ≠ .malformed ↔ t.IsTyped := by
  obtain ⟨s, unfit | unfit⟩ := exists_of_mem_readings n h
  · refine ⟨typed_of_scalarValue unfit.symm, fun typed => ?_⟩
    have wellFormed := wellFormed_scalarValue typed s
    rw [← unfit] at wellFormed
    exact wellFormed
  · refine ⟨typed_of_mappedValue unfit.symm, fun typed => ?_⟩
    have wellFormed := wellFormed_mappedValue typed s
    rw [← unfit] at wellFormed
    exact wellFormed

end Node

/-- What can keep a text from being read, apart from its being no document at all: an escape past
the last code point, a version whose number is too long, or a scalar that is not what its tag
says. -/
inductive Misfit (cs : List Char) : Fault → Prop
  | codePoint {n : Nat} (big : 0x10FFFF < n) (met : .fault (.codePoint n) ∈ tokenize cs) :
      Misfit cs (.codePoint n)
  | version {digits : Nat} (long : Number.digitLimit < digits)
      (met : .fault (.longInteger digits) ∈ tokenize cs) : Misfit cs (.longInteger digits)
  | scalar {d : Node.Document} {t : Tag} {f : Fault}
      (composed : Node.ofTokens? (tokenize cs) = .ok (some d)) (typed : t.IsTyped)
      (unfit : (t, .error f) ∈ d.root.readings) : Misfit cs f

theorem Misfit.ne_malformed {cs : List Char} {f : Fault} (h : Misfit cs f) : f ≠ .malformed := by
  cases h with
  | codePoint | version => exact nofun
  | scalar composed typed unfit => exact (Node.typed_iff_of_mem_readings unfit).2 typed

theorem misfit_of_read {cs : List Char} {f : Fault} (h : read cs = .error f)
    (hf : f ≠ .malformed) : Misfit cs f := by
  rw [read] at h
  split at h
  · have composing := Node.checks_ofTokens? (tokenize cs)
    cases hd : Node.ofTokens? (tokenize cs) with
    | error e =>
      rw [hd] at h composing
      obtain rfl := Except.error.inj h
      have met := composing.resolve_left hf
      cases lexical_of_mem_tokenize met with
      | malformed => exact absurd rfl hf
      | codePoint big => exact .codePoint big met
      | longInteger long => exact .version long met
    | ok d? =>
      rw [hd] at h
      cases d? with
      | none => cases h
      | some d =>
        obtain ⟨t, unfit⟩ := (Node.foreseen_of_value h).resolve_left hf
        exact .scalar hd ((Node.typed_iff_of_mem_readings unfit).1 hf) unfit
  · exact absurd (Except.error.inj h).symm hf

end CiWorkflow.Yaml
