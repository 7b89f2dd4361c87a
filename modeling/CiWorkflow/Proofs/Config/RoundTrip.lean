import CiWorkflow.Config.File
import CiWorkflow.Proofs.Config.Validity
import CiWorkflow.Proofs.Yaml.Read

set_option autoImplicit false

namespace CiWorkflow

theorem fromUTF8?_toUTF8 (s : String) : String.fromUTF8? s.toUTF8 = some s :=
  dif_pos s.isValidUTF8

theorem unifyNewlines_of_not_mem {cs : List Char} (h : '\r' ∉ cs) : unifyNewlines cs = cs := by
  induction cs with
  | nil => rfl
  | cons c r ih =>
    have other : c ≠ '\r' := fun e => h (e ▸ List.mem_cons_self)
    have more := ih fun hr => h (List.mem_cons_of_mem _ hr)
    simp [unifyNewlines, other, more]

open Yaml (Content IsKey ItemsKeyed FieldsKeyed fieldValues itemValues itemDepth fieldDepth
  lineWidth)

theorem readEntries_write (path : String) {fields : List (String × Content)}
    (nonempty : fields ≠ []) (keyed : (Content.record fields).Keyed)
    (small : 2 * fieldDepth fields < lineWidth) :
    readEntries path (.bytes (Yaml.write fields).toUTF8) = .ok (fieldValues fields) := by
  have printed := Yaml.printed_writeFields fields 0 true keyed.2
  have unified : unifyNewlines (Yaml.write fields).toList = (Yaml.write fields).toList := by
    refine unifyNewlines_of_not_mem fun mem => ?_
    rw [Yaml.write, String.toList_ofList] at mem
    rcases printed _ mem with ascii | newline
    · exact absurd ascii (by decide)
    · exact absurd newline (by decide)
  simp only [readEntries, fromUTF8?_toUTF8, unified, Yaml.read_write nonempty keyed small]

section Items
variable {α : Type} {write : α → Content} {xs : List α}

theorem itemsKeyed_map (h : ∀ x, (write x).Keyed) : ItemsKeyed (xs.map write) := by
  induction xs with
  | nil => trivial
  | cons x xs ih => exact ⟨h x, ih⟩

theorem itemDepth_map_le {n : Nat} (h : ∀ x, (write x).depth ≤ n) :
    itemDepth (xs.map write) ≤ n := by
  induction xs with
  | nil => exact Nat.zero_le n
  | cons x xs ih => exact Nat.max_le.2 ⟨h x, ih⟩

theorem itemValues_map : itemValues (xs.map write) = xs.map fun x => (write x).value := by
  induction xs with
  | nil => rfl
  | cons x xs ih => exact congrArg _ ih

end Items

theorem isKey_iff {k : String} : IsKey k ↔ k.toList.all Char.isAlphanum = true ∧ k.toList ≠ [] ∧
    k.toList.length ≤ 1024 ∧ Yaml.Tag.ofPlain k.toList = .str :=
  ⟨fun h => ⟨List.all_eq_true.2 h.word, h.nonempty, h.short, h.str⟩,
    fun ⟨word, nonempty, short, str⟩ => ⟨List.all_eq_true.1 word, nonempty, short, str⟩⟩

instance (k : String) : Decidable (IsKey k) := decidable_of_iff' _ isKey_iff

def Field.membersOf (given : List (Field × Content)) : List (String × Content) :=
  given.map fun p => (p.1.camel, p.2)

theorem Field.keyed_membersOf (given : List (Field × Content))
    (apart : (given.map (·.1)).Pairwise Field.Apart) (keys : ∀ f ∈ given.map (·.1), IsKey f.camel)
    (contents : ∀ p ∈ given, p.2.Keyed) : (Content.record (Field.membersOf given)).Keyed := by
  constructor
  · have names : (Field.membersOf given).map (·.1) = (given.map (·.1)).map Field.camel := by
      simp [Field.membersOf]
    rw [names, List.Nodup, List.pairwise_map]
    exact apart.imp fun differ => differ.2.2.2
  · induction given with
    | nil => trivial
    | cons p given ih =>
      refine ⟨keys p.1 List.mem_cons_self, contents p List.mem_cons_self, ?_⟩
      exact ih (List.pairwise_cons.1 apart).2 (fun f hf => keys f (List.mem_cons_of_mem _ hf))
        fun q hq => contents q (List.mem_cons_of_mem _ hq)

namespace BuildArg

theorem isKey_camel : ∀ f ∈ fields, IsKey f.camel := by decide

theorem keyed_members (a : BuildArg) : (Content.record a.members).Keyed :=
  Field.keyed_membersOf [(idField, .text a.id), (keyField, .text a.key),
    (valueField, .text a.value), (dynamicField, .flag a.isDynamic)] fields_apart isKey_camel
    (by simp [Content.Keyed])

end BuildArg

namespace Container

theorem isKey_camel : ∀ f ∈ fields, IsKey f.camel := by decide

theorem keyed_members (c : Container) : (Content.record c.members).Keyed := by
  have platforms : ItemsKeyed (c.platforms.map .text) := itemsKeyed_map fun _ => trivial
  have args : ItemsKeyed (c.buildArgs.map fun a => .record a.members) :=
    itemsKeyed_map BuildArg.keyed_members
  refine Field.keyed_membersOf [(imageNameField, .text c.imageName),
    (registryField, .text c.registry), (tagsField, .text c.tags),
    (dockerfileField, .text c.dockerfilePath), (platformsField, .list (c.platforms.map .text)),
    (outputField, .text c.output.text), (provenanceField, .flag c.provenance),
    (rewriteField, .flag c.rewriteTimestamp),
    (buildArgsField, .list (c.buildArgs.map fun a => .record a.members))] fields_apart
    isKey_camel ?_
  simp [Content.Keyed, platforms, args]

theorem depth_members (c : Container) : 2 * fieldDepth c.members < lineWidth := by
  have platforms : itemDepth (c.platforms.map .text) ≤ 1 := itemDepth_map_le fun _ => Nat.le_refl 1
  have args : itemDepth (c.buildArgs.map fun a => .record a.members) ≤ 2 :=
    itemDepth_map_le fun _ => Nat.le_refl 2
  simp only [members, fieldDepth, Content.depth, lineWidth]
  omega

theorem values_members (c : Container) : fieldValues c.members = c.entries .camel := by
  simp only [members, fieldValues, Content.value, itemValues_map]
  rfl

end Container

namespace Pages

theorem isKey_camel : ∀ f ∈ fields, IsKey f.camel := by decide

theorem keyed_members (p : Pages) : (Content.record p.members).Keyed :=
  Field.keyed_membersOf [(branchField, .text p.branch),
    (nodeVersionField, .text p.nodeVersion), (installField, .text p.installCommand),
    (buildField, .text p.buildCommand), (outputDirField, .text p.outputDir),
    (cacheField, .flag p.useCache)] fields_apart isKey_camel (by simp [Content.Keyed])

theorem depth_members (p : Pages) : 2 * fieldDepth p.members < lineWidth := by
  simp only [members, fieldDepth, Content.depth, lineWidth]
  omega

theorem values_members (p : Pages) : fieldValues p.members = p.entries .camel := rfl

end Pages

theorem loadWith_write {α : Type} {title path : String} {check : Entries → Check α} {config : α}
    {fields : List (String × Content)} (nonempty : fields ≠ [])
    (keyed : (Content.record fields).Keyed) (small : 2 * fieldDepth fields < lineWidth)
    (checked : check (fieldValues fields) = .ok config) (drawn : Nat) :
    loadWith title check path (.bytes (Yaml.write fields).toUTF8) drawn =
      ⟨drawn, [loadedEntry title path], .ok config⟩ := by
  rw [loadWith, readEntries_write path nonempty keyed small]
  simp only [checked]
  rfl

/-- A file that was written from a configuration gives that configuration back, whatever its texts
are, and nothing is warned of. -/
theorem load_dump :
    (∀ (c : Container) (path : String) (drawn : Nat), c.Valid →
      Container.load path (.bytes c.dump.toUTF8) drawn =
        ⟨drawn, [loadedEntry Container.title path], .ok c⟩) ∧
    (∀ (p : Pages) (path : String) (drawn : Nat),
      Pages.load path (.bytes p.dump.toUTF8) drawn =
        ⟨drawn, [loadedEntry Pages.title path], .ok p⟩) := by
  constructor
  · intro c path drawn valid
    have checked : Container.ofEntries (fieldValues c.members) = .ok c := by
      rw [c.values_members]
      exact Container.ofEntries_entries .camel (Container.valid_iff_nodup.1 valid)
    exact loadWith_write (List.cons_ne_nil _ _) c.keyed_members c.depth_members checked drawn
  · intro p path drawn
    have checked : Pages.ofEntries (fieldValues p.members) = .ok p := by
      rw [p.values_members]
      exact Pages.ofEntries_entries .camel p
    exact loadWith_write (List.cons_ne_nil _ _) p.keyed_members p.depth_members checked drawn

/-- Texts that have to be quoted or escaped, or would be read as other values as they are. -/
def Container.awkward : Container where
  imageName := ""
  registry := " ghcr.io "
  tags := "latest\n\n v1: # x"
  dockerfilePath := "é\u2028\x07"
  platforms := ["null", "1_000", "-"]
  output := .registry
  provenance := true
  rewriteTimestamp := false
  buildArgs := [⟨"1", "<<", "2020-01-01", false⟩, ⟨"2", "", "yes", true⟩]

theorem load_dump_awkward : Container.awkward.Valid ∧
    Container.load "ci.yml" (.bytes Container.awkward.dump.toUTF8) 0 =
      ⟨0, [loadedEntry Container.title "ci.yml"], .ok .awkward⟩ := by
  have valid : Container.awkward.Valid := Container.valid_iff_nodup.2 (by decide)
  exact ⟨valid, load_dump.1 .awkward "ci.yml" 0 valid⟩

end CiWorkflow
