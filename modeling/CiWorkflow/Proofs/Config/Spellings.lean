import CiWorkflow.Proofs.Config.Alike
import CiWorkflow.Proofs.Config.Changes

/-! The spellings of the keys of a record. A key of no field is refused, and so is a field in both
spellings. Otherwise it makes no difference which spelling a key has, except for the places of
issues. -/

set_option autoImplicit false

namespace CiWorkflow

theorem Value.exists_lookup_of_mem {data : Entries} {name : String} {v : Value}
    (h : (.text name, v) ∈ data) : ∃ w, lookup name data = some w := by
  induction data with
  | nil => exact absurd h List.not_mem_nil
  | cons e rest ih =>
    rw [lookup_cons]
    rcases List.mem_cons.1 h with rfl | h
    · exact ⟨v, by simp [lookup]⟩
    · obtain ⟨w, found⟩ := ih h
      cases lookup name [e] with
      | some w' => exact ⟨w', rfl⟩
      | none => exact ⟨w, found⟩

instance (key : Value) (s : String) : Decidable (key = .text s) :=
  match key with
  | .text t => decidable_of_iff (t = s) ⟨congrArg Value.text, Value.text.inj⟩
  | .null | .bool _ | .int _ | .float _ | .bytes _ | .date _ | .moment _ | .list _ | .tuple _
  | .set _ | .map _ | .endless => isFalse nofun

def Value.mappings : Value → List Entries
  | .list items | .tuple items => items.filterMap fun
    | .map data => some data
    | _ => none
  | _ => []

theorem Value.mem_mappings {v : Value} {items : List Value} {data : Entries}
    (held : v = .list items ∨ v = .tuple items) (item : .map data ∈ items) : data ∈ v.mappings := by
  rcases held with rfl | rfl
  · exact List.mem_filterMap.2 ⟨_, item, rfl⟩
  · exact List.mem_filterMap.2 ⟨_, item, rfl⟩

def Value.items : Value → List Value
  | .list items | .tuple items | .set items => items
  | _ => []

theorem Value.mem_items_of_mem_mappings {v : Value} {data : Entries} (h : data ∈ v.mappings) :
    .map data ∈ v.items := by
  have among {items : List Value} (h : data ∈ items.filterMap fun
      | .map data => some data
      | _ => none) : .map data ∈ items := by
    obtain ⟨w, item, is⟩ := List.mem_filterMap.1 h
    cases w with
    | map data' => exact Option.some.inj is ▸ item
    | _ => cases is
  cases v with
  | list items | tuple items => exact among h
  | _ => exact absurd h List.not_mem_nil

def Field.Spells (f : Field) (key : Value) : Prop := ∃ a, key = .text (f.spell a)

theorem Field.spells_iff {f : Field} {key : Value} :
    f.Spells key ↔ key = .text f.name ∨ key = .text f.camel := by
  constructor
  · rintro ⟨a | a, h⟩
    · exact .inl h
    · exact .inr h
  · rintro (h | h)
    · exact ⟨.name, h⟩
    · exact ⟨.camel, h⟩

instance (f : Field) (key : Value) : Decidable (f.Spells key) :=
  decidable_of_iff _ Field.spells_iff.symm

/-- A key that gives no field, or a field that is given in both spellings. -/
def Strange (fields : List Field) (data : Entries) : Prop :=
  (∃ e ∈ data, ∀ f ∈ fields, ¬ f.Spells e.1) ∨
    ∃ f ∈ fields, f.name ≠ f.camel ∧ (∃ e ∈ data, e.1 = .text f.name) ∧
      ∃ e ∈ data, e.1 = .text f.camel

instance (fields : List Field) (data : Entries) : Decidable (Strange fields data) := by
  unfold Strange
  infer_instance

def Distinct (data : Entries) : Prop :=
  data.Pairwise fun e e' => Value.sameKey e.1 e'.1 = false

instance (data : Entries) : Decidable (Distinct data) := by
  unfold Distinct
  infer_instance

/-- The same fields in the same order, each in some spelling, with values that count as the same. -/
def Respelled (fields : List Field) (same : Field → Value → Value → Prop) :
    Entries → Entries → Prop :=
  List.Forall₂ fun e e' => ∃ f ∈ fields, f.Spells e.1 ∧ f.Spells e'.1 ∧ same f e.2 e'.2

/-- Each entry gives a field, and no two entries give the same one. -/
structure Fits (fields : List Field) (data : Entries) : Prop where
  known : ∀ e ∈ data, ∃ f ∈ fields, f.Spells e.1
  single : data.Pairwise fun e e' => ∀ f ∈ fields, f.Spells e.1 → ¬ f.Spells e'.1

theorem fits_of_not_strange {fields : List Field} {data : Entries} (distinct : Distinct data)
    (h : ¬ Strange fields data) : Fits fields data where
  known e he := by
    by_contra unknown
    exact h (.inl ⟨e, he, fun f hf spells => unknown ⟨f, hf, spells⟩⟩)
  single := by
    refine distinct.imp_of_mem fun {e e'} he he' differ f hf => ?_
    rintro ⟨a, ha⟩ ⟨b, hb⟩
    have keys : f.spell a ≠ f.spell b := by
      intro same
      rw [ha, hb, same, Value.sameKey_text_iff.2 rfl] at differ
      exact absurd differ (by decide)
    refine h (.inr ⟨f, hf, ?_⟩)
    cases a <;> cases b
    · exact absurd rfl keys
    · exact ⟨keys, ⟨e, he, ha⟩, e', he', hb⟩
    · exact ⟨keys.symm, ⟨e', he', hb⟩, e, he, ha⟩
    · exact absurd rfl keys

namespace Field
variable {f g : Field} {e : Value × Value} {rest : Entries} {v : Value}

theorem Apart.not_spells (apart : f.Apart g) {key : Value} (h : f.Spells key) : ¬ g.Spells key := by
  rintro ⟨b, rfl⟩
  obtain ⟨a, same⟩ := h
  exact apart.spell_ne a b (Value.text.inj same).symm

theorem eq_of_spells {fields : List Field} (apart : fields.Pairwise Apart) (hf : f ∈ fields)
    (hg : g ∈ fields) {key : Value} (spells : f.Spells key) (also : g.Spells key) : f = g := by
  by_contra differ
  exact (Apart.of_mem apart hf hg differ).not_spells spells also

theorem lookup_cons_of_not_spells (h : ¬ f.Spells e.1) (a : Spelling) :
    Value.lookup (f.spell a) (e :: rest) = Value.lookup (f.spell a) rest := by
  obtain ⟨k, v⟩ := e
  cases k with
  | text s =>
    have other : s ≠ f.spell a := by
      rintro rfl
      exact h ⟨a, rfl⟩
    simp [Value.lookup, other]
  | _ => rfl

theorem lookup_of_none_spells (h : ∀ e ∈ rest, ¬ f.Spells e.1) (a : Spelling) :
    Value.lookup (f.spell a) rest = none := by
  refine Option.eq_none_iff_forall_ne_some.2 fun v found => ?_
  exact h _ (Value.mem_of_lookup found) ⟨a, rfl⟩

theorem mem_of_given {p : String × Value} (h : f.given rest = some p) :
    (.text p.1, p.2) ∈ rest := by
  rw [given] at h
  split at h
  · rename_i v camel
    exact Option.some.inj h ▸ Value.mem_of_lookup camel
  · obtain ⟨v, name, rfl⟩ := Option.map_eq_some_iff.1 h
    exact Value.mem_of_lookup name

theorem given_cons_of_not_spells (h : ¬ f.Spells e.1) : f.given (e :: rest) = f.given rest := by
  have camel : Value.lookup f.camel (e :: rest) = _ := lookup_cons_of_not_spells h .camel
  have name : Value.lookup f.name (e :: rest) = _ := lookup_cons_of_not_spells h .name
  rw [given, camel, name]
  rfl

theorem given_cons_of_spells (a : Spelling) (v : Value) (others : ∀ e ∈ rest, ¬ f.Spells e.1) :
    f.given ((.text (f.spell a), v) :: rest) = some (f.spell a, v) := by
  have camel : Value.lookup f.camel rest = none := lookup_of_none_spells others .camel
  cases a with
  | camel => simp [given, spell, Value.lookup]
  | name =>
    by_cases same : f.name = f.camel
    · simp [given, spell, Value.lookup, same]
    · simp [given, spell, Value.lookup, same, camel]

end Field

section
variable {fields : List Field} {data data' : Entries} {f : Field}
  {same : Field → Value → Value → Prop}

theorem Fits.given_of_mem (h : Fits fields data) (hf : f ∈ fields) {a : Spelling} {v : Value}
    (he : (.text (f.spell a), v) ∈ data) : f.given data = some (f.spell a, v) := by
  obtain ⟨-, single⟩ := h
  induction data with
  | nil => exact absurd he List.not_mem_nil
  | cons e rest ih =>
    obtain ⟨others, single⟩ := List.pairwise_cons.1 single
    rcases List.mem_cons.1 he with rfl | he
    · exact Field.given_cons_of_spells a v fun e' he' => others e' he' f hf ⟨a, rfl⟩
    · rw [Field.given_cons_of_not_spells fun spells => others _ he f hf spells ⟨a, rfl⟩]
      exact ih he single

theorem Fits.checkKeys (h : Fits fields data) : checkKeys fields data = .ok () := by
  refine checkKeys_of_given fun e he => ?_
  obtain ⟨f, hf, a, key⟩ := h.known e he
  exact ⟨f, hf, (f.spell a, e.2), h.given_of_mem hf (key ▸ he), key⟩

theorem Respelled.exists_of_mem (h : Respelled fields same data data') {e' : Value × Value}
    (he' : e' ∈ data') : ∃ e ∈ data, ∃ f ∈ fields, f.Spells e.1 ∧ f.Spells e'.1 := by
  induction h with
  | nil => exact absurd he' List.not_mem_nil
  | cons head _ ih =>
    rcases List.mem_cons.1 he' with rfl | he'
    · obtain ⟨f, hf, before, after, -⟩ := head
      exact ⟨_, List.mem_cons_self, f, hf, before, after⟩
    · obtain ⟨e, he, spelled⟩ := ih he'
      exact ⟨e, List.mem_cons_of_mem _ he, spelled⟩

theorem Respelled.fits (apart : fields.Pairwise Field.Apart) (h : Respelled fields same data data')
    (fits : Fits fields data) : Fits fields data' := by
  refine ⟨fun e' he' => ?_, ?_⟩
  · obtain ⟨-, -, f, hf, -, spells⟩ := h.exists_of_mem he'
    exact ⟨f, hf, spells⟩
  · obtain ⟨-, single⟩ := fits
    induction h with
    | nil => exact .nil
    | @cons e e' rest rest' head tail ih =>
      obtain ⟨others, single⟩ := List.pairwise_cons.1 single
      obtain ⟨f, hf, before, after, -⟩ := head
      refine .cons (fun later there g hg spells again => ?_) (ih single)
      obtain ⟨e₂, he₂, k, hk, before₂, after₂⟩ := Respelled.exists_of_mem tail there
      obtain rfl := Field.eq_of_spells apart hf hg after spells
      obtain rfl := Field.eq_of_spells apart hf hk again after₂
      exact others e₂ he₂ f hf before before₂

/-- A field is given in both, with values that count as the same, or in neither. -/
theorem Respelled.given (apart : fields.Pairwise Field.Apart)
    (h : Respelled fields same data data') (fits : Fits fields data) (hf : f ∈ fields) :
    Option.Rel (fun p q => (∃ a b, p.1 = f.spell a ∧ q.1 = f.spell b) ∧ same f p.2 q.2)
      (f.given data) (f.given data') := by
  have single' := (Respelled.fits apart h fits).single
  obtain ⟨-, single⟩ := fits
  induction h with
  | nil => exact .none
  | @cons e e' rest rest' head tail ih =>
    obtain ⟨others, single⟩ := List.pairwise_cons.1 single
    obtain ⟨others', single'⟩ := List.pairwise_cons.1 single'
    obtain ⟨g, hg, before, after, values⟩ := head
    by_cases here : g = f
    · subst here
      obtain ⟨k, v⟩ := e
      obtain ⟨k', v'⟩ := e'
      obtain ⟨a, rfl⟩ := before
      obtain ⟨b, rfl⟩ := after
      rw [Field.given_cons_of_spells a v fun e he => others e he g hg ⟨a, rfl⟩,
        Field.given_cons_of_spells b v' fun e he => others' e he g hg ⟨b, rfl⟩]
      exact .some ⟨⟨a, b, rfl, rfl⟩, values⟩
    · have other := Field.Apart.of_mem apart hg hf here
      rw [Field.given_cons_of_not_spells (other.not_spells before),
        Field.given_cons_of_not_spells (other.not_spells after)]
      exact ih single' single

theorem Respelled.check {α : Type} (apart : fields.Pairwise Field.Apart)
    (h : Respelled fields same data data') (fits : Fits fields data) (hf : f ∈ fields)
    {all : List Field} (among : f ∈ all) (default : Check α) {check : Value → Check α}
    (values : ∀ e ∈ data, f.Spells e.1 → ∀ w, same f e.2 w → (check e.2).Alike all (check w)) :
    (f.check data default check).Alike all (f.check data' default check) := by
  have given := Respelled.given apart h fits hf
  simp only [Field.check]
  generalize found : f.given data = p, f.given data' = q at given
  cases given with
  | none => exact Check.alike_refl default
  | some here =>
    obtain ⟨⟨a, b, ha, hb⟩, value⟩ := here
    have there := Field.mem_of_given found
    have alike := values _ there ⟨a, congrArg Value.text ha⟩ _ value
    refine alike.under (.inr ⟨f, among, a, b, ?_, ?_⟩)
    · rw [ha]
    · rw [hb]

theorem Respelled.check_eq {α : Type} (apart : fields.Pairwise Field.Apart)
    (h : Respelled fields (fun _ => Eq) data data') (fits : Fits fields data) {all : List Field}
    (among : fields ⊆ all) (hf : f ∈ fields) (default : Check α) (check : Value → Check α) :
    (f.check data default check).Alike all (f.check data' default check) :=
  Respelled.check apart h fits hf (among hf) default fun _ _ _ _ same => same ▸ Check.alike_refl _

theorem Strange.blames (apart : fields.Pairwise Field.Apart) (h : Strange fields data) :
    (CiWorkflow.checkKeys fields data).Blames := by
  refine Check.blames_iff.2 fun n => ?_
  rcases h with ⟨⟨k, v⟩, he, unknown⟩ |
    ⟨f, hf, differ, ⟨⟨_, w⟩, name, rfl⟩, ⟨_, v⟩, camel, rfl⟩
  · obtain ⟨issue, some, key⟩ : ∃ issue, keyIssue
        (fields.filterMap fun f => (f.given data).map (·.1)) k = some issue ∧
        (issue.cause = .extraKey ∨ issue.cause = .keyNotText) := by
      cases k with
      | text s =>
        have other : s ∉ fields.filterMap fun f => (f.given data).map (·.1) := by
          intro mem
          obtain ⟨f, hf, key⟩ := List.mem_filterMap.1 mem
          obtain ⟨p, given, rfl⟩ := Option.map_eq_some_iff.1 key
          rcases Field.eq_of_given given with camel | name
          · exact unknown f hf ⟨.camel, congrArg Value.text camel⟩
          · exact unknown f hf ⟨.name, congrArg Value.text name⟩
        exact ⟨⟨.extraKey, [.key s]⟩, by simp [keyIssue, other], .inl rfl⟩
      | _ => exact ⟨_, rfl, .inr rfl⟩
    rw [rejection_checkKeys]
    exact .key (List.mem_filterMap.2 ⟨_, he, some⟩) key
  · obtain ⟨v, found⟩ := Value.exists_lookup_of_mem camel
    obtain ⟨issues, rejection, among⟩ := Field.extraKey_of_both apart hf differ found name n
    rw [rejection]
    exact .key among (.inl rfl)

end

/-- Strange keys are refused, and where there are none, nothing depends on how keys are spelled. -/
structure Spelled {α : Type} (check : Value → Check α) (fields : List Field) (strange : Prop)
    (respelled : Entries → Prop) (data : Entries) : Prop where
  strict : strange → (check (.map data)).Blames
  free : ¬ strange → ∀ data', respelled data' →
    (check (.map data)).Alike fields (check (.map data'))

namespace BuildArg

theorem alike_ofEntries {data data' : Entries} (fits : Fits fields data)
    (h : Respelled fields (fun _ => Eq) data data') {all : List Field} (among : fields ⊆ all) :
    (ofEntries data).Alike all (ofEntries data') := by
  have each {α : Type} {f : Field} := Respelled.check_eq (f := f) (α := α) fields_apart h fits among
  have keys := (Respelled.fits fields_apart h fits).checkKeys
  rw [ofEntries, ofEntries, fits.checkKeys, keys]
  refine .also (.map ?_ _) (Check.alike_refl _)
  exact (Check.alike_refl (Check.ok mk)).also (each (by decide) _ _)
    |>.also (each (by decide) _ _)
    |>.also (each (by decide) _ _)
    |>.also (each (by decide) _ _)

end BuildArg

namespace Pages

theorem alike_ofEntries {data data' : Entries} (fits : Fits fields data)
    (h : Respelled fields (fun _ => Eq) data data') :
    (ofEntries data).Alike fields (ofEntries data') := by
  have each {α : Type} {f : Field} :=
    Respelled.check_eq (f := f) (α := α) fields_apart h fits (List.Subset.refl fields)
  have keys := (Respelled.fits fields_apart h fits).checkKeys
  rw [ofEntries, ofEntries, fits.checkKeys, keys]
  refine .also (.map ?_ _) (Check.alike_refl _)
  exact (Check.alike_refl (Check.ok mk)).also (each (by decide) _ _)
    |>.also (each (by decide) _ _)
    |>.also (each (by decide) _ _)
    |>.also (each (by decide) _ _)
    |>.also (each (by decide) _ _)
    |>.also (each (by decide) _ _)

end Pages

namespace Container
variable {data data' : Entries}

def inner (data : Entries) : List Entries :=
  (data.filter fun e => decide (buildArgsField.Spells e.1)).flatMap fun e => e.2.mappings

theorem mem_inner {e : Value × Value} {d : Entries} (he : e ∈ data)
    (spells : buildArgsField.Spells e.1) (hd : d ∈ e.2.mappings) : d ∈ inner data :=
  List.mem_flatMap.2 ⟨e, List.mem_filter.2 ⟨he, decide_eq_true spells⟩, hd⟩

def StrangeWithin (data : Entries) : Prop :=
  Strange fields data ∨ ∃ d ∈ inner data, Strange BuildArg.fields d

instance (data : Entries) : Decidable (StrangeWithin data) := by
  unfold StrangeWithin
  infer_instance

/-- One and the same argument, apart from the spelling of its keys. -/
def SameArg (v w : Value) : Prop :=
  v = w ∨ ∃ d d', v = .map d ∧ w = .map d' ∧ Respelled BuildArg.fields (fun _ => Eq) d d'

/-- One and the same value of a field, apart from the spelling of the keys of arguments. -/
inductive SameValue : Field → Value → Value → Prop where
  | refl (f : Field) (v : Value) : SameValue f v v
  | list {vs ws : List Value} (h : List.Forall₂ SameArg vs ws) :
    SameValue buildArgsField (.list vs) (.list ws)
  | tuple {vs ws : List Value} (h : List.Forall₂ SameArg vs ws) :
    SameValue buildArgsField (.tuple vs) (.tuple ws)

def allFields : List Field := fields ++ BuildArg.fields

theorem alike_args {e : Value × Value} (he : e ∈ data) (spells : buildArgsField.Spells e.1)
    (inner : ∀ d ∈ inner data, Fits BuildArg.fields d) {w : Value}
    (same : SameValue buildArgsField e.2 w) :
    (checkList BuildArg.ofValue e.2).Alike allFields (checkList BuildArg.ofValue w) := by
  obtain ⟨k, v⟩ := e
  have items {vs ws : List Value} (held : v = .list vs ∨ v = .tuple vs)
      (h : List.Forall₂ SameArg vs ws) :
      (checkItems BuildArg.ofValue vs).Alike allFields (checkItems BuildArg.ofValue ws) := by
    refine alike_checkItems h fun v hv w same => ?_
    rcases same with rfl | ⟨d, d', rfl, rfl, respelled⟩
    · exact Check.alike_refl _
    · have fits := inner d (mem_inner he spells (Value.mem_mappings held hv))
      exact BuildArg.alike_ofEntries fits respelled (List.subset_append_right _ _)
  cases same with
  | refl => exact Check.alike_refl _
  | list h => exact items (.inl rfl) h
  | tuple h => exact items (.inr rfl) h

theorem alike_ofEntries (fits : Fits fields data)
    (inner : ∀ d ∈ inner data, Fits BuildArg.fields d)
    (h : Respelled fields SameValue data data') :
    (ofEntries data).Alike allFields (ofEntries data') := by
  have among {f : Field} (hf : f ∈ fields) : f ∈ allFields := List.mem_append_left _ hf
  have each {α : Type} {f : Field} (hf : f ∈ fields) (other : f ≠ buildArgsField)
      (default : Check α) (check : Value → Check α) :
      (f.check data default check).Alike allFields (f.check data' default check) := by
    refine Respelled.check fields_apart h fits hf (among hf) default fun ⟨_, v⟩ _ _ w same => ?_
    cases same with
    | refl => exact Check.alike_refl _
    | list | tuple => exact absurd rfl other
  have args : buildArgsField ∈ fields := by decide
  have args := Respelled.check fields_apart h fits args (among args) (.ok initial.buildArgs)
    fun e he spells w same => alike_args he spells inner same
  have keys := (Respelled.fits fields_apart h fits).checkKeys
  rw [ofEntries, ofEntries, fits.checkKeys, keys]
  refine .also (.map ?_ _) (Check.alike_refl _)
  exact (Check.alike_refl (Check.ok mk)).also (each (by decide) (by decide) _ _)
    |>.also (each (by decide) (by decide) _ _)
    |>.also (each (by decide) (by decide) _ _)
    |>.also (each (by decide) (by decide) _ _)
    |>.also (each (by decide) (by decide) _ _)
    |>.also (each (by decide) (by decide) _ _)
    |>.also (each (by decide) (by decide) _ _)
    |>.also (each (by decide) (by decide) _ _)
    |>.also args

/-- An argument with strange keys is refused, in whatever collection it is given. -/
theorem blames_of_arg (fits : Fits fields data) {k v : Value} (he : (k, v) ∈ data)
    (spells : buildArgsField.Spells k) {d : Entries} (item : .map d ∈ v.items)
    (strange : Strange BuildArg.fields d) : (ofEntries data).Blames := by
  obtain ⟨a, rfl⟩ := spells
  have arg : (BuildArg.ofValue (.map d)).Blames :=
    (strange.blames BuildArg.fields_apart).also_right _
  have list : (checkList BuildArg.ofValue v).Blames := by
    cases v with
    | list items | tuple items | set items => exact arg.checkItems item
    | _ => exact absurd item List.not_mem_nil
  have args : (buildArgsField.check data (.ok initial.buildArgs)
      (checkList BuildArg.ofValue)).Blames := by
    rw [Field.check, fits.given_of_mem (by decide) he]
    exact list.under _
  exact (args.also_right _).map _ |>.also_left _

theorem blames_ofEntries (distinct : Distinct data)
    (h : StrangeWithin data) : (ofEntries data).Blames := by
  have keys (strange : Strange fields data) : (ofEntries data).Blames :=
    (strange.blames fields_apart).also_right _
  rcases h with strange | ⟨d, hd, strange⟩
  · exact keys strange
  · by_cases top : Strange fields data
    · exact keys top
    obtain ⟨⟨k, v⟩, here, among⟩ := List.mem_flatMap.1 hd
    obtain ⟨he, spells⟩ := List.mem_filter.1 here
    exact blames_of_arg (fits_of_not_strange distinct top) he (of_decide_eq_true spells)
      (Value.mem_items_of_mem_mappings among) strange

end Container

/-- In each of the three records, strange keys are refused, those of the arguments of a build
included, and other keys may be spelled either way. -/
theorem spelled_either_way :
    (∀ data, Distinct data → Spelled BuildArg.ofValue BuildArg.fields
      (Strange BuildArg.fields data) (Respelled BuildArg.fields (fun _ => Eq) data) data) ∧
    (∀ data, Distinct data → Spelled Pages.ofValue Pages.fields
      (Strange Pages.fields data) (Respelled Pages.fields (fun _ => Eq) data) data) ∧
    ∀ data, Distinct data → (∀ d ∈ Container.inner data, Distinct d) →
      Spelled Container.ofValue Container.allFields
        (Container.StrangeWithin data) (Respelled Container.fields Container.SameValue data)
        data := by
  refine ⟨fun data distinct => ⟨fun strange => ?_, fun fine data' respelled => ?_⟩,
    fun data distinct => ⟨fun strange => ?_, fun fine data' respelled => ?_⟩,
    fun data distinct inner => ⟨fun strange => ?_, fun fine data' respelled => ?_⟩⟩
  · exact (strange.blames BuildArg.fields_apart).also_right _
  · exact BuildArg.alike_ofEntries (fits_of_not_strange distinct fine) respelled
      (List.Subset.refl _)
  · exact (strange.blames Pages.fields_apart).also_right _
  · exact Pages.alike_ofEntries (fits_of_not_strange distinct fine) respelled
  · exact Container.blames_ofEntries distinct strange
  · have top := fits_of_not_strange distinct fun strange => fine (.inl strange)
    have args (d) (hd : d ∈ Container.inner data) : Fits BuildArg.fields d :=
      fits_of_not_strange (inner d hd) fun strange => fine (.inr ⟨d, hd, strange⟩)
    exact Container.alike_ofEntries top args respelled

/-- An argument that is named twice over is refused at its place. Without that, the spellings of
the other keys may all be changed. -/
theorem spelled_either_way_nested :
    let twice : Entries := [(.text "buildArgs", .list [.map [(.text "is_dynamic", .bool true),
      (.text "isDynamic", .bool true)]])]
    let data : Entries := [(.text "tags", .int 3), (.text "image_name", .null),
      (.text "buildArgs", .list [.text "A=1", .map [(.text "is_dynamic", .bool true)]])]
    let data' : Entries := [(.text "tags", .int 3), (.text "imageName", .null),
      (.text "build_args", .list [.text "A=1", .map [(.text "isDynamic", .bool true)]])]
    (Container.ofValue (.map twice)).Blames ∧
      (Container.ofValue (.map data)).Alike Container.allFields (Container.ofValue (.map data')) ∧
      (Container.ofValue (.map data) 0).result =
        .error (.issues [⟨.notText, [.key "image_name"]⟩,
          ⟨.notRecord "BuildArgument", [.key "buildArgs", .index 0]⟩]) := by
  intro twice data data'
  have records := spelled_either_way.2.2
  have strange : Container.StrangeWithin twice := by decide
  have fine : ¬ Container.StrangeWithin data := by decide
  have respelled : Respelled Container.fields Container.SameValue data data' := by
    have arg : Respelled BuildArg.fields (fun _ => Eq) [(.text "is_dynamic", .bool true)]
        [(.text "isDynamic", .bool true)] :=
      .cons ⟨BuildArg.dynamicField, by decide, by decide, by decide, rfl⟩ .nil
    have args := Container.SameValue.list (.cons (.inl (Eq.refl (.text "A=1")))
      (.cons (.inr ⟨_, _, rfl, rfl, arg⟩) .nil))
    exact .cons ⟨Container.tagsField, by decide, by decide, by decide, .refl _ _⟩
      (.cons ⟨Container.imageNameField, by decide, by decide, by decide, .refl _ _⟩
        (.cons ⟨Container.buildArgsField, by decide, by decide, by decide, args⟩ .nil))
  refine ⟨(records twice ?_ ?_).strict strange, (records data ?_ ?_).free fine data' respelled, ?_⟩
  · decide
  · decide
  · decide
  · decide
  · decide +kernel

end CiWorkflow
