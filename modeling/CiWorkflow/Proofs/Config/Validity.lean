import CiWorkflow.Config.Container
import CiWorkflow.Config.Pages
import CiWorkflow.Proofs.Config.Record

/-! Checking accepts what it gave: the entries of a checked configuration, in either spelling of
their keys, are that configuration again. No id is drawn for them and nothing is warned of. -/

set_option autoImplicit false

namespace CiWorkflow

namespace Check
variable {α β : Type}

@[simp] theorem ok_also_ok (f : α → β) (a : α) : (ok f).also (ok a) = ok (f a) := rfl

@[simp] theorem map_ok (f : α → β) (a : α) : (ok a).map f = ok (f a) := rfl

theorem under_ok (p : Place) (a : α) : (ok a).under p = ok a := rfl

theorem map_eq_ok_iff {f : α → β} {x : Check α} {n : Nat} {b : β} :
    (x.map f n).result = .ok b ↔ ∃ a, (x n).result = .ok a ∧ f a = b := by
  simp only [map]
  cases (x n).result <;> simp [Except.map]

theorem under_eq_ok_iff {p : Place} {x : Check α} {n : Nat} {a : α} :
    (x.under p n).result = .ok a ↔ (x n).result = .ok a := by
  simp only [under]
  cases (x n).result <;> simp [Except.mapError]

end Check

section Written
variable {α : Type} {check : Value → Check α} {write : α → Value}

theorem all_zipIdx_map (h : ∀ a, check (write a) = .ok a) (xs : List α) (start : Nat) :
    Check.all (((xs.map write).zipIdx start).map fun p => (check p.1).under (.index p.2)) =
      .ok xs := by
  induction xs generalizing start with
  | nil => rfl
  | cons x xs ih =>
    simp only [List.map_cons, List.zipIdx_cons, Check.all, h, Check.under_ok, ih, Check.map_ok,
      Check.ok_also_ok]

theorem checkList_map (h : ∀ a, check (write a) = .ok a) (xs : List α) :
    checkList check (.list (xs.map write)) = .ok xs := all_zipIdx_map h xs 0

end Written

theorem eraseDups_of_nodup {α : Type} [BEq α] [LawfulBEq α] {xs : List α} (h : xs.Nodup) :
    xs.eraseDups = xs := by
  induction xs with
  | nil => rfl
  | cons x xs ih =>
    have hx := List.nodup_cons.1 h
    have others : xs.filter (fun y => !y == x) = xs :=
      List.filter_eq_self.2 fun y hy => by
        have hne : y ≠ x := fun e => hx.1 (e ▸ hy)
        simpa using hne
    rw [List.eraseDups_cons, others, ih hx.2]

theorem nodup_eraseDups {α : Type} [BEq α] [LawfulBEq α] (xs : List α) : xs.eraseDups.Nodup := by
  generalize hn : xs.length = n
  induction n using Nat.strongRecOn generalizing xs with
  | ind n ih =>
    cases xs with
    | nil => simp
    | cons x xs =>
      have shorter := List.length_filter_le (fun y => !y == x) xs
      rw [List.eraseDups_cons, List.nodup_cons]
      refine ⟨by simp [List.mem_eraseDups], ih _ ?_ _ rfl⟩
      simp only [List.length_cons] at hn
      omega

theorem checkPlatforms_texts {ps : List String} (h : ps.Nodup) :
    checkPlatforms (.list (ps.map .text)) = .ok ps := by
  have texts : checkList checkText (.list (ps.map .text)) = .ok ps :=
    checkList_map (fun _ : String => rfl) ps
  rw [checkPlatforms, texts, Check.map_ok, eraseDups_of_nodup h]

/-- Whatever platforms are accepted, they are pairwise distinct. -/
theorem nodup_of_checkPlatforms {v : Value} {n : Nat} {ps : List String}
    (h : (checkPlatforms v n).result = .ok ps) : ps.Nodup := by
  obtain ⟨given, -, rfl⟩ := Check.map_eq_ok_iff.1 h
  exact nodup_eraseDups given

theorem checkOutput_text (o : Output) : checkOutput (.text o.text) = .ok o := by
  simp only [checkOutput, checkOutputText, Output.ofText?_text]

namespace BuildArg

def given (a : BuildArg) : List (Field × Value) := [
  (idField, .text a.id), (keyField, .text a.key), (valueField, .text a.value),
  (dynamicField, .bool a.isDynamic)]

theorem fields_apart : fields.Pairwise Field.Apart := by decide

theorem ofEntries_entries (spelling : Spelling) (a : BuildArg) :
    ofEntries (a.entries spelling) = .ok a := by
  have apart : (a.given.map (·.1)).Pairwise Field.Apart := fields_apart
  have keys : checkKeys fields (Field.entriesOf spelling a.given) = .ok () :=
    checkKeys_entriesOf apart
  change ofEntries (Field.entriesOf spelling a.given) = _
  rw [ofEntries, keys,
    Field.check_text apart (f := idField) (s := a.id) (by simp [given]),
    Field.check_text apart (f := keyField) (s := a.key) (by simp [given]),
    Field.check_warned apart (f := valueField) (s := a.value) (by simp [given]),
    Field.check_flag apart (f := dynamicField) (b := a.isDynamic) (by simp [given])]
  rfl

end BuildArg

namespace Container

def Valid (c : Container) : Prop := ∃ data n, (ofEntries data n).result = .ok c

def given (spelling : Spelling) (c : Container) : List (Field × Value) := [
  (imageNameField, .text c.imageName), (registryField, .text c.registry),
  (tagsField, .text c.tags), (dockerfileField, .text c.dockerfilePath),
  (platformsField, .list (c.platforms.map .text)), (outputField, .text c.output.text),
  (provenanceField, .bool c.provenance), (rewriteField, .bool c.rewriteTimestamp),
  (buildArgsField, .list (c.buildArgs.map fun a => .map (a.entries spelling)))]

theorem fields_apart : fields.Pairwise Field.Apart := by decide

theorem ofEntries_entries (spelling : Spelling) {c : Container} (h : c.platforms.Nodup) :
    ofEntries (c.entries spelling) = .ok c := by
  have apart : ((c.given spelling).map (·.1)).Pairwise Field.Apart := fields_apart
  have keys : checkKeys fields (Field.entriesOf spelling (c.given spelling)) = .ok () :=
    checkKeys_entriesOf apart
  have platforms := checkPlatforms_texts h
  have args : checkList BuildArg.ofValue
      (.list (c.buildArgs.map fun a => .map (a.entries spelling))) = .ok c.buildArgs :=
    checkList_map (BuildArg.ofEntries_entries spelling) c.buildArgs
  change ofEntries (Field.entriesOf spelling (c.given spelling)) = _
  rw [ofEntries, keys,
    Field.check_text apart (f := imageNameField) (s := c.imageName) (by simp [given]),
    Field.check_text apart (f := registryField) (s := c.registry) (by simp [given]),
    Field.check_warned apart (f := tagsField) (s := c.tags) (by simp [given]),
    Field.check_text apart (f := dockerfileField) (s := c.dockerfilePath) (by simp [given]),
    Field.check_of_mem (f := platformsField) apart (by simp [given]) platforms,
    Field.check_of_mem (f := outputField) apart (by simp [given]) (checkOutput_text c.output),
    Field.check_flag apart (f := provenanceField) (b := c.provenance) (by simp [given]),
    Field.check_flag apart (f := rewriteField) (b := c.rewriteTimestamp) (by simp [given]),
    Field.check_of_mem (f := buildArgsField) apart (by simp [given]) args]
  rfl

/-- The platforms are those of the data or, where it has none, the initial ones. -/
theorem nodup_of_ofEntries {data : Entries} {n : Nat} {c : Container}
    (h : (ofEntries data n).result = .ok c) : c.platforms.Nodup := by
  obtain ⟨_, _, checked, -, rfl⟩ := Check.also_eq_ok_iff.1 h
  obtain ⟨c, h₉, rfl⟩ := Check.map_eq_ok_iff.1 checked
  obtain ⟨_, args, h₈, -, rfl⟩ := Check.also_eq_ok_iff.1 h₉
  obtain ⟨_, rewrite, h₇, -, rfl⟩ := Check.also_eq_ok_iff.1 h₈
  obtain ⟨_, provenance, h₆, -, rfl⟩ := Check.also_eq_ok_iff.1 h₇
  obtain ⟨_, output, h₅, -, rfl⟩ := Check.also_eq_ok_iff.1 h₆
  obtain ⟨_, platforms, h₄, found, rfl⟩ := Check.also_eq_ok_iff.1 h₅
  obtain ⟨_, dockerfile, h₃, -, rfl⟩ := Check.also_eq_ok_iff.1 h₄
  obtain ⟨_, tags, h₂, -, rfl⟩ := Check.also_eq_ok_iff.1 h₃
  obtain ⟨_, registry, h₁, -, rfl⟩ := Check.also_eq_ok_iff.1 h₂
  obtain ⟨_, image, h₀, -, rfl⟩ := Check.also_eq_ok_iff.1 h₁
  obtain rfl := Except.ok.inj h₀
  change platforms.Nodup
  simp only [Field.check] at found
  cases hg : platformsField.given data with
  | some p =>
    rw [hg] at found
    exact nodup_of_checkPlatforms (Check.under_eq_ok_iff.1 found)
  | none =>
    rw [hg] at found
    obtain rfl := Except.ok.inj found
    decide

/-- Of all conditions on a configuration, only the distinctness of its platforms is not one of its
type. -/
theorem valid_iff_nodup {c : Container} : c.Valid ↔ c.platforms.Nodup := by
  constructor
  · rintro ⟨data, n, h⟩
    exact nodup_of_ofEntries h
  · intro h
    exact ⟨c.entries .name, 0, by rw [ofEntries_entries .name h]; rfl⟩

end Container

namespace Pages

def given (p : Pages) : List (Field × Value) := [
  (branchField, .text p.branch), (nodeVersionField, .text p.nodeVersion),
  (installField, .text p.installCommand), (buildField, .text p.buildCommand),
  (outputDirField, .text p.outputDir), (cacheField, .bool p.useCache)]

theorem fields_apart : fields.Pairwise Field.Apart := by decide

theorem ofEntries_entries (spelling : Spelling) (p : Pages) :
    ofEntries (p.entries spelling) = .ok p := by
  have apart : (p.given.map (·.1)).Pairwise Field.Apart := fields_apart
  have keys : checkKeys fields (Field.entriesOf spelling p.given) = .ok () :=
    checkKeys_entriesOf apart
  change ofEntries (Field.entriesOf spelling p.given) = _
  rw [ofEntries, keys,
    Field.check_text apart (f := branchField) (s := p.branch) (by simp [given]),
    Field.check_warned apart (f := nodeVersionField) (s := p.nodeVersion) (by simp [given]),
    Field.check_text apart (f := installField) (s := p.installCommand) (by simp [given]),
    Field.check_text apart (f := buildField) (s := p.buildCommand) (by simp [given]),
    Field.check_text apart (f := outputDirField) (s := p.outputDir) (by simp [given]),
    Field.check_flag apart (f := cacheField) (b := p.useCache) (by simp [given])]
  rfl

end Pages

end CiWorkflow
