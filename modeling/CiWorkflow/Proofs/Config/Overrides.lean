import CiWorkflow.Proofs.Config.Batch

set_option autoImplicit false

namespace CiWorkflow

namespace Field

def present (offers : List (Field × Option Value)) : List (Field × Value) :=
  offers.filterMap fun p => p.2.map (p.1, ·)

section
variable {offers : List (Field × Option Value)} {fields : List Field} {f : Field}

theorem mem_present_iff {v : Value} : (f, v) ∈ present offers ↔ (f, some v) ∈ offers := by
  constructor
  · intro h
    obtain ⟨⟨g, w⟩, hg, offered⟩ := List.mem_filterMap.1 h
    obtain ⟨u, rfl, same⟩ := Option.map_eq_some_iff.1 offered
    obtain ⟨rfl, rfl⟩ := Prod.mk.inj same
    exact hg
  · exact fun h => List.mem_filterMap.2 ⟨(f, some v), h, rfl⟩

theorem fields_present (offers : List (Field × Option Value)) :
    ((present offers).map (·.1)).Sublist (offers.map (·.1)) := by
  induction offers with
  | nil => exact List.Sublist.refl []
  | cons p rest ih =>
    obtain ⟨g, v⟩ := p
    cases v with
    | none => exact ih.cons g
    | some v => exact ih.cons_cons g

theorem chosen_present (known : ∀ g ∈ offers.map (·.1), g ∈ fields)
    (distinct : (offers.map (·.1)).Nodup) : Chosen fields (present offers) where
  known p hp := known p.1 ((fields_present offers).subset (List.mem_map_of_mem hp))
  distinct := (fields_present offers).nodup distinct

/-- A field gets the value that is offered for it, if there is one. -/
theorem change?_present (chosen : Chosen fields (present offers))
    (distinct : (offers.map (·.1)).Nodup) (apart : fields.Pairwise Apart) (hf : f ∈ fields)
    {v : Option Value} (hv : (f, v) ∈ offers) :
    f.change? (entriesOf .name (present offers)) = v := by
  refine Option.ext fun w => ?_
  rw [chosen.change?_eq_some_iff apart hf, mem_present_iff]
  refine ⟨fun hw => ?_, fun hw => hw ▸ hv⟩
  exact congrArg Prod.snd (List.inj_on_of_nodup_map distinct hv hw rfl)

end

/-- A value that its check accepts takes the place of the old one. -/
theorem part_offered {α β : Type} {f : Field} {changes : Entries} {check : Value → Check α}
    {write : β → Value} {read : β → α} (own : ∀ b, check (write b) = .ok (read b)) (old : α)
    {v : Option β} (h : f.change? changes = v.map write) :
    f.part changes check old = .ok ((v.map read).getD old) := by
  cases v with
  | none => exact part_of_none h
  | some b =>
    rw [part, h]
    exact (congrArg (Check.under (.key f.name)) (own b)).trans (Check.under_ok _ _)

end Field

namespace Container

structure Overrides where
  imageName : Option String := none
  registry : Option String := none
  tags : Option String := none
  dockerfilePath : Option String := none
  platforms : Option (List String) := none
  output : Option Output := none
  provenance : Option Bool := none
  rewriteTimestamp : Option Bool := none
  buildArgs : Option (List BuildArg) := none

/-- The configuration with new values where there are some. Of equal platforms the first is kept. -/
def overridden (c : Container) (o : Overrides) : Container where
  imageName := o.imageName.getD c.imageName
  registry := o.registry.getD c.registry
  tags := o.tags.getD c.tags
  dockerfilePath := o.dockerfilePath.getD c.dockerfilePath
  platforms := (o.platforms.map List.eraseDups).getD c.platforms
  output := o.output.getD c.output
  provenance := o.provenance.getD c.provenance
  rewriteTimestamp := o.rewriteTimestamp.getD c.rewriteTimestamp
  buildArgs := o.buildArgs.getD c.buildArgs

theorem nodup_overridden {c : Container} (distinct : c.platforms.Nodup) (o : Overrides) :
    (c.overridden o).platforms.Nodup := by
  rw [overridden]
  cases o.platforms with
  | none => exact distinct
  | some ps => exact nodup_eraseDups ps

namespace Overrides

/-- Each field with its new value, the fields that take a list or a name of an output last. -/
def offers (o : Overrides) : List (Field × Option Value) := [
  (imageNameField, o.imageName.map .text),
  (registryField, o.registry.map .text),
  (tagsField, o.tags.map .text),
  (dockerfileField, o.dockerfilePath.map .text),
  (provenanceField, o.provenance.map .bool),
  (rewriteField, o.rewriteTimestamp.map .bool),
  (platformsField, o.platforms.map fun ps => .list (ps.map .text)),
  (outputField, o.output.map fun out => .text out.text),
  (buildArgsField, o.buildArgs.map fun args => .list (args.map fun a => .map (a.entries .name)))]

def given (o : Overrides) : List (Field × Value) := Field.present o.offers

theorem fields_offers (o : Overrides) : o.offers.map (·.1) = [imageNameField, registryField,
    tagsField, dockerfileField, provenanceField, rewriteField, platformsField, outputField,
    buildArgsField] := rfl

theorem fields_distinct (o : Overrides) : (o.offers.map (·.1)).Nodup := by
  rw [fields_offers]
  decide

theorem chosen_given (o : Overrides) : Field.Chosen fields o.given := by
  refine Field.chosen_present ?_ o.fields_distinct
  rw [fields_offers]
  decide

theorem part_given {α β : Type} (o : Overrides) (f : Field) (v : Option β) {check : Value → Check α}
    {write : β → Value} {read : β → α} (own : ∀ b, check (write b) = .ok (read b)) (old : α)
    (hf : f ∈ fields) (hv : (f, v.map write) ∈ o.offers) :
    f.part (Field.entriesOf .name o.given) check old = .ok ((v.map read).getD old) :=
  Field.part_offered own old
    (Field.change?_present o.chosen_given o.fields_distinct fields_apart hf hv)

end Overrides

theorem checkPlatforms_eraseDups (ps : List String) :
    checkPlatforms (.list (ps.map .text)) = .ok ps.eraseDups := by
  rw [checkPlatforms, checkList_map (fun _ : String => rfl) ps, Check.map_ok]

theorem update_given {c : Container} (h : c.platforms.Nodup) (o : Overrides) :
    c.update (Field.entriesOf .name o.given) = .ok (c.overridden o) := by
  have text (s : String) : checkText (.text s) = .ok (id s) := rfl
  have tags (s : String) : checkWarnedText "tags" (.text s) = .ok (id s) := rfl
  have flag (b : Bool) : checkFlag (.bool b) = .ok (id b) := rfl
  have output (out : Output) : checkOutput (.text out.text) = .ok (id out) := checkOutput_text out
  have args (as : List BuildArg) : checkList BuildArg.ofValue
      (.list (as.map fun a => .map (a.entries .name))) = .ok (id as) :=
    checkList_map (BuildArg.ofEntries_entries .name) as
  rw [update_eq_parts h o.chosen_given.named, parts,
    o.part_given imageNameField o.imageName text _ (by decide) (by simp [Overrides.offers]),
    o.part_given registryField o.registry text _ (by decide) (by simp [Overrides.offers]),
    o.part_given tagsField o.tags tags _ (by decide) (by simp [Overrides.offers]),
    o.part_given dockerfileField o.dockerfilePath text _ (by decide) (by simp [Overrides.offers]),
    o.part_given platformsField o.platforms checkPlatforms_eraseDups _ (by decide)
      (by simp [Overrides.offers]),
    o.part_given outputField o.output output _ (by decide) (by simp [Overrides.offers]),
    o.part_given provenanceField o.provenance flag _ (by decide) (by simp [Overrides.offers]),
    o.part_given rewriteField o.rewriteTimestamp flag _ (by decide) (by simp [Overrides.offers]),
    o.part_given buildArgsField o.buildArgs args _ (by decide) (by simp [Overrides.offers])]
  simp only [Check.ok_also_ok, Option.map_id_fun, id_eq, overridden]

end Container

end CiWorkflow
