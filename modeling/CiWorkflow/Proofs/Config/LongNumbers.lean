import CiWorkflow.Proofs.Config.Chosen
import CiWorkflow.Proofs.Config.Spellings

set_option autoImplicit false

namespace CiWorkflow

def Value.isLong : Value → Bool
  | .int n => CiWorkflow.isLong n
  | _ => false

namespace Checked
variable {α : Type}

theorem isCut_eq (c : Checked α) : c.isCut = (c.rejection == .longNumber) := by
  rw [isCut, rejection]
  rcases c.result with (found | _) | a <;> rfl

end Checked

theorem Rejection.and_beq_longNumber (e e' : Rejection) :
    (e.and e' == longNumber) = (e == longNumber || e' == longNumber) := by
  cases e <;> cases e' <;> rfl

theorem Rejection.under_beq_longNumber (p : Place) (e : Rejection) :
    (e.under p == longNumber) = (e == longNumber) := by
  cases e <;> rfl

namespace Check
variable {α β : Type} {ts us : List Value}

/-- The check is cut just if one of the values is a number that is too long. -/
def CutBy (x : Check α) (ts : List Value) : Prop := ∀ n, (x n).isCut = ts.any Value.isLong

theorem cutBy_ok (a : α) : (ok a).CutBy [] := fun _ => rfl

theorem cutBy_issue (cause : Cause) : (issue cause : Check α).CutBy [] := fun _ => rfl

theorem cutBy_freshId : freshId.CutBy [] := fun _ => rfl

theorem CutBy.map {x : Check α} (h : x.CutBy ts) (f : α → β) : (x.map f).CutBy ts := by
  intro n
  rw [Checked.isCut_eq, rejection_map, ← Checked.isCut_eq, h n]

theorem CutBy.under {x : Check α} (h : x.CutBy ts) (p : Place) : (x.under p).CutBy ts := by
  intro n
  rw [Checked.isCut_eq, rejection_under, Rejection.under_beq_longNumber, ← Checked.isCut_eq, h n]

theorem CutBy.also {f : Check (α → β)} {x : Check α} (hf : f.CutBy ts) (hx : x.CutBy us) :
    (f.also x).CutBy (ts ++ us) := by
  intro n
  rw [Checked.isCut_eq, rejection_also, Rejection.and_beq_longNumber, ← Checked.isCut_eq,
    ← Checked.isCut_eq, hf n, hx, List.any_append]

end Check

section
open Check

theorem cutBy_checkText (v : Value) : (checkText v).CutBy [v] := by
  intro n
  cases v with
  | int m =>
    cases long : isLong m <;>
      simp [checkText, Value.isLong, long, Check.ok, Check.fail, Checked.isCut]
  | bytes bs =>
    simp only [checkText]
    cases String.fromUTF8? (ByteArray.mk bs.toArray) <;> rfl
  | _ => rfl

theorem cutBy_checkWarnedText (field : String) (v : Value) :
    (checkWarnedText field v).CutBy [v] := by
  rw [checkWarnedText.eq_def]
  split
  · exact fun _ => rfl
  · exact cutBy_checkText v

theorem cutBy_checkFlagNumber (n : Int) : (checkFlagNumber n).CutBy [] := by
  rw [checkFlagNumber]
  iterate 2
    split
    · exact cutBy_ok _
  split <;> exact cutBy_issue _

theorem cutBy_checkFlagWord (cs : List Char) : (checkFlagWord cs).CutBy [] := by
  simp only [checkFlagWord]
  iterate 2
    split
    · exact cutBy_ok _
  exact cutBy_issue _

theorem cutBy_checkFlag (v : Value) : (checkFlag v).CutBy [] := by
  cases v with
  | bool b => exact cutBy_ok b
  | int n => exact cutBy_checkFlagNumber n
  | text s => exact cutBy_checkFlagWord _
  | bytes bs => exact cutBy_checkFlagWord _
  | float x =>
    rw [checkFlag]
    split
    · exact cutBy_checkFlagNumber _
    · exact cutBy_issue _
  | _ => exact cutBy_issue _

theorem cutBy_checkOutput (v : Value) : (checkOutput v).CutBy [] := by
  have text (s : String) : (checkOutputText s).CutBy [] := by
    rw [checkOutputText]
    split
    · exact cutBy_ok _
    · exact cutBy_issue _
  rw [checkOutput.eq_def]
  split
  · exact text _
  · split
    · exact text _
    · exact cutBy_issue _
  · exact cutBy_issue _

theorem cutBy_checkItems {α : Type} {check : Value → Check α} {texts : Value → List Value}
    (h : ∀ v, (check v).CutBy (texts v)) (items : List Value) :
    (checkItems check items).CutBy (items.flatMap texts) := by
  rw [checkItems]
  generalize 0 = start
  induction items generalizing start with
  | nil => exact cutBy_ok []
  | cons v items ih => exact (((h v).under _).map _).also (ih (start + 1))

theorem cutBy_checkList {α : Type} {check : Value → Check α} {texts : Value → List Value}
    (h : ∀ v, (check v).CutBy (texts v)) (v : Value) :
    (checkList check v).CutBy (v.items.flatMap texts) := by
  cases v with
  | list items | tuple items | set items => exact cutBy_checkItems h items
  | _ => exact cutBy_issue _

theorem cutBy_checkPlatforms (v : Value) : (checkPlatforms v).CutBy v.items := by
  have items := cutBy_checkList cutBy_checkText v
  rw [List.flatMap_singleton'] at items
  exact items.map List.eraseDups

theorem cutBy_checkKeys (fields : List Field) (data : Entries) :
    (checkKeys fields data).CutBy [] := by
  intro n
  rw [Checked.isCut_eq, rejection_checkKeys]
  rfl

end

namespace Field

def taken (f : Field) (data : Entries) : List Value := (f.given data).toList.map (·.2)

theorem cutBy_check {α : Type} {default : Check α} {check : Value → Check α}
    {texts : Value → List Value} (hd : default.CutBy []) (hc : ∀ v, (check v).CutBy (texts v))
    (f : Field) (data : Entries) :
    (f.check data default check).CutBy ((f.taken data).flatMap texts) := by
  rw [Field.check, taken]
  cases f.given data with
  | none => exact hd
  | some p =>
    simp only [Option.toList_some, List.map_cons, List.map_nil, List.flatMap_singleton]
    exact (hc p.2).under _

variable (f : Field) (data : Entries)

theorem cutBy_text (s : String) : (f.check data (.ok s) checkText).CutBy (f.taken data) := by
  have cut := f.cutBy_check (Check.cutBy_ok s) cutBy_checkText data
  rwa [List.flatMap_singleton'] at cut

theorem cutBy_warnedText (s name : String) :
    (f.check data (.ok s) (checkWarnedText name)).CutBy (f.taken data) := by
  have cut := f.cutBy_check (Check.cutBy_ok s) (cutBy_checkWarnedText name) data
  rwa [List.flatMap_singleton'] at cut

theorem cutBy_other {α : Type} {check : Value → Check α} (a : α) (h : ∀ v, (check v).CutBy []) :
    (f.check data (.ok a) check).CutBy [] := by
  have cut := f.cutBy_check (Check.cutBy_ok a) h data
  rwa [List.flatMap_eq_nil_iff.2 fun _ _ => rfl] at cut

end Field

def BuildArg.valuesForTexts : Value → List Value
  | .map data => idField.taken data ++ keyField.taken data ++ valueField.taken data
  | _ => []

def Container.valuesForTexts (data : Entries) : List Value :=
  imageNameField.taken data ++ registryField.taken data ++ tagsField.taken data
    ++ dockerfileField.taken data ++ (platformsField.taken data).flatMap Value.items
    ++ (buildArgsField.taken data).flatMap fun v => v.items.flatMap BuildArg.valuesForTexts

def Pages.valuesForTexts (data : Entries) : List Value :=
  branchField.taken data ++ nodeVersionField.taken data ++ installField.taken data
    ++ buildField.taken data ++ outputDirField.taken data

theorem BuildArg.cutBy_ofValue (v : Value) : (ofValue v).CutBy (valuesForTexts v) := by
  cases v with
  | map data =>
    have id := idField.cutBy_check Check.cutBy_freshId cutBy_checkText data
    rw [List.flatMap_singleton'] at id
    have fields := (Check.cutBy_ok mk).also id
      |>.also (keyField.cutBy_text data "NEW_ARG")
      |>.also (valueField.cutBy_warnedText data "value" "value")
      |>.also (dynamicField.cutBy_other data false cutBy_checkFlag)
    have all := (fields.map fun a (_ : Unit) => a).also (cutBy_checkKeys BuildArg.fields data)
    simp only [List.nil_append, List.append_nil] at all
    exact all
  | _ => exact Check.cutBy_issue _

theorem Container.cutBy_ofEntries (data : Entries) :
    (ofEntries data).CutBy (valuesForTexts data) := by
  have checked := (Check.cutBy_ok mk)
    |>.also (imageNameField.cutBy_text data initial.imageName)
    |>.also (registryField.cutBy_text data initial.registry)
    |>.also (tagsField.cutBy_warnedText data initial.tags "tags")
    |>.also (dockerfileField.cutBy_text data initial.dockerfilePath)
    |>.also (platformsField.cutBy_check (Check.cutBy_ok initial.platforms)
      cutBy_checkPlatforms data)
    |>.also (outputField.cutBy_other data initial.output cutBy_checkOutput)
    |>.also (provenanceField.cutBy_other data initial.provenance cutBy_checkFlag)
    |>.also (rewriteField.cutBy_other data initial.rewriteTimestamp cutBy_checkFlag)
    |>.also (buildArgsField.cutBy_check (Check.cutBy_ok initial.buildArgs)
      (cutBy_checkList BuildArg.cutBy_ofValue) data)
  have all := (checked.map fun c (_ : Unit) => c).also (cutBy_checkKeys fields data)
  simp only [List.nil_append, List.append_nil] at all
  exact all

theorem Pages.cutBy_ofEntries (data : Entries) : (ofEntries data).CutBy (valuesForTexts data) := by
  have checked := (Check.cutBy_ok mk)
    |>.also (branchField.cutBy_text data initial.branch)
    |>.also (nodeVersionField.cutBy_warnedText data initial.nodeVersion "node_version")
    |>.also (installField.cutBy_text data initial.installCommand)
    |>.also (buildField.cutBy_text data initial.buildCommand)
    |>.also (outputDirField.cutBy_text data initial.outputDir)
    |>.also (cacheField.cutBy_other data initial.useCache cutBy_checkFlag)
  have all := (checked.map fun p (_ : Unit) => p).also (cutBy_checkKeys fields data)
  simp only [List.nil_append, List.append_nil] at all
  exact all

section Changes
open Field (Chosen Apart entriesOf)
variable {fields : List Field} {changes given : List (Field × Value)} {f : Field} {w : Value}

theorem Field.taken_of_mem (apart : (given.map (·.1)).Pairwise Apart) (hm : (f, w) ∈ given) :
    f.taken (entriesOf .name given) = [w] := by
  rw [taken, given_of_mem apart hm]
  rfl

theorem Field.taken_of_not_mem (apart : fields.Pairwise Apart) (chosen : Chosen fields changes)
    (hf : f ∈ fields) (other : f ∉ changes.map (·.1)) :
    f.taken (entriesOf .name changes) = [] := by
  have absent (name : String) (own : name = f.camel ∨ name = f.name) :
      Value.lookup name (entriesOf .name changes) = none := by
    refine lookup_eq_none fun p hp same => ?_
    have far := Apart.of_mem apart hf (chosen.known p hp)
      fun hf => other (hf ▸ List.mem_map_of_mem hp)
    rcases own with rfl | rfl
    · exact far.2.2.1 same.symm
    · exact far.1 same.symm
  rw [taken, Field.given, absent _ (.inl rfl), absent _ (.inr rfl)]
  rfl

/-- If the old value of a field is none of these, then what the field holds after changes is one of
them just if its new value is. -/
theorem Field.any_taken_changed (apart : fields.Pairwise Apart) (chosen : Chosen fields changes)
    (known : given.map (·.1) = fields) (hm : (f, w) ∈ given) {p : Value → Bool}
    (own : p w = false) :
    (f.taken (changed (entriesOf .name given) (entriesOf .name changes))).any p =
      (f.taken (entriesOf .name changes)).any p := by
  have hf : f ∈ fields := known ▸ List.mem_map_of_mem hm
  rw [taken, given_changed (known ▸ apart) hm (chosen.named.byName apart hf)]
  cases hv : f.change? (entriesOf .name changes) with
  | none =>
    have other : f ∉ changes.map (·.1) := by
      intro named
      obtain ⟨e, he, rfl⟩ := List.mem_map.1 named
      have some := (chosen.change?_eq_some_iff apart hf).2 he
      exact nomatch hv.symm.trans some
    rw [taken_of_not_mem apart chosen hf other]
    simp [own]
  | some v =>
    rw [taken_of_mem (chosen.apart apart) ((chosen.change?_eq_some_iff apart hf).1 hv)]
    rfl

end Changes

theorem Container.isCut_update {c : Container} {changes : List (Field × Value)}
    (chosen : Field.Chosen fields changes) (n : Nat) :
    (c.update (Field.entriesOf .name changes) n).isCut =
      (valuesForTexts (Field.entriesOf .name changes)).any Value.isLong := by
  have part {f : Field} {w : Value} (hm : (f, w) ∈ c.given .name) {p : Value → Bool}
      (own : p w = false) :
      (f.taken (changed (Field.entriesOf .name (c.given .name))
        (Field.entriesOf .name changes))).any p =
        (f.taken (Field.entriesOf .name changes)).any p :=
    Field.any_taken_changed fields_apart chosen rfl hm own
  have texts (s : String) : (Value.text s).isLong = false := rfl
  have items : (Value.items (.list (c.platforms.map .text))).any Value.isLong = false := by
    simp [Value.items, Value.isLong]
  have args : (Value.items (.list (c.buildArgs.map fun a => .map (a.entries .name)))).any
      (fun a => (BuildArg.valuesForTexts a).any Value.isLong) = false := by
    rw [Value.items, List.any_map, List.any_eq_false]
    intro a _
    have own := BuildArg.cutBy_ofValue (.map (a.entries .name)) 0
    rw [BuildArg.ofValue, checkRecord, BuildArg.ofEntries_entries .name a] at own
    simp [← own, Check.ok, Checked.isCut]
  rw [update]
  change (ofEntries (changed (Field.entriesOf .name (c.given .name)) _) n).isCut = _
  rw [cutBy_ofEntries]
  simp only [valuesForTexts, List.any_append, List.any_flatMap]
  rw [part (f := imageNameField) (by simp [given]) (texts c.imageName),
    part (f := registryField) (by simp [given]) (texts c.registry),
    part (f := tagsField) (by simp [given]) (texts c.tags),
    part (f := dockerfileField) (by simp [given]) (texts c.dockerfilePath),
    part (f := platformsField) (by simp [given]) items,
    part (f := buildArgsField) (by simp [given]) args]

end CiWorkflow
