import CiWorkflow.Proofs.Config.Spellings

/-! Floats in the place of texts. Each of them loses its spelling, but only three fields are watched
for them: a check warns of the floats in these, each by itself and in the order of the fields, and
of nothing else. -/

set_option autoImplicit false

namespace CiWorkflow

namespace Value

def float? : Value → Option Float
  | .float x => some x
  | _ => none

def DistinctKeys : Value → Prop
  | .map data => Distinct data
  | _ => True

instance (v : Value) : Decidable v.DistinctKeys := by
  unfold DistinctKeys
  split <;> infer_instance

end Value

namespace Field

/-- What a mapping gives for a field, in either spelling of its name. -/
def gather {β : Type} (f : Field) (data : Entries) (read : Value → List β) : List β :=
  data.flatMap fun e => if f.Spells e.1 then read e.2 else []

def due (f : Field) (v : Value) : List Warning := (v.float?.map (Warning.mk f.name)).toList

def floats (f : Field) (data : Entries) : List Warning := f.gather data f.due

end Field

def watchedFields : List Field :=
  [Container.tagsField, BuildArg.valueField, Pages.nodeVersionField]

def Warning.isWatched (w : Warning) : Bool := (watchedFields.map (·.name)).contains w.field

namespace BuildArg

def floats (data : Entries) : List Warning :=
  idField.floats data ++ keyField.floats data ++ valueField.floats data

def floatsOf : Value → List Warning
  | .map data => floats data
  | _ => []

end BuildArg

/-- The floats among the texts of a build, in its list of platforms and in its arguments. -/
def Container.floats (data : Entries) : List Warning :=
  imageNameField.floats data ++ registryField.floats data ++ tagsField.floats data
    ++ dockerfileField.floats data
    ++ platformsField.gather data (fun v => v.items.flatMap platformsField.due)
    ++ buildArgsField.gather data (fun v => v.items.flatMap BuildArg.floatsOf)

/-- No key is there twice, neither in the mapping nor in a mapping inside it. -/
def DistinctWithin (data : Entries) : Prop :=
  Distinct data ∧ ∀ e ∈ data, ∀ v ∈ e.2.items, v.DistinctKeys

instance (data : Entries) : Decidable (DistinctWithin data) := by
  unfold DistinctWithin
  infer_instance

def Pages.floats (data : Entries) : List Warning :=
  branchField.floats data ++ nodeVersionField.floats data ++ installField.floats data
    ++ buildField.floats data ++ outputDirField.floats data

namespace Check
variable {α β : Type}

/-- The check warns of these, whatever ids were drawn and whether or not it finds an issue, as long
as it comes to its end. -/
def Warns (x : Check α) (ws : List Warning) : Prop :=
  ∀ n, (x n).isCut = false → (x n).warnings = ws

theorem Silent.warns {x : Check α} (h : x.Silent) : x.Warns [] := fun n _ => h.warnings n

theorem warns_freshId : freshId.Warns [] := fun _ _ => rfl

theorem Warns.also {f : Check (α → β)} {x : Check α} {ws ws' : List Warning} (hf : f.Warns ws)
    (hx : x.Warns ws') : (f.also x).Warns (ws ++ ws') := by
  intro n whole
  cases cut : (f n).isCut with
  | true =>
    rw [also_of_isCut cut] at whole
    cases whole
  | false =>
    have later : (x (f n).drawn).isCut = false := by
      rw [also_of_not_isCut cut] at whole
      cases cut' : (x (f n).drawn).isCut with
      | false => rfl
      | true =>
        rw [Checked.isCut_iff.1 cut'] at whole
        rcases hr : (f n).result with (found | _) | g <;> rw [hr] at whole <;> cases whole
    rw [also_of_not_isCut cut, hf n cut, hx _ later]

theorem Warns.map {x : Check α} {ws : List Warning} (h : x.Warns ws) (f : α → β) :
    (x.map f).Warns ws := by
  intro n whole
  refine h n ?_
  rcases hr : (x n).result with (found | _) | a <;>
    simp_all [Check.map, Checked.isCut, Except.map]

theorem Warns.under {x : Check α} {ws : List Warning} (h : x.Warns ws) (p : Place) :
    (x.under p).Warns ws := by
  intro n whole
  refine h n ?_
  rcases hr : (x n).result with (found | _) | a <;>
    simp_all [Check.under, Checked.isCut, Except.mapError, Rejection.under]

theorem Warns.warn {x : Check α} {ws' : List Warning} (h : x.Warns ws') (ws : List Warning) :
    (x.warn ws).Warns (ws ++ ws') := by
  intro n whole
  simp only [Check.warn, h n whole]

end Check

section
open Check

theorem warns_checkWarnedText (f : Field) (v : Value) :
    (checkWarnedText f.name v).Warns (f.due v) := by
  unfold checkWarnedText
  cases v with
  | float x => exact (silent_checkText (.float x)).warns.warn [⟨f.name, x⟩]
  | _ => exact (silent_checkText _).warns

theorem warns_checkItems {α : Type} {check : Value → Check α} {read : Value → List Warning}
    (h : ∀ v, (check v).Warns (read v)) (items : List Value) :
    (checkItems check items).Warns (items.flatMap read) := by
  rw [checkItems]
  generalize 0 = start
  induction items generalizing start with
  | nil => exact (silent_ok []).warns
  | cons v items ih => exact (((h v).under _).map _).also (ih (start + 1))

theorem warns_checkList {α : Type} {check : Value → Check α} {read : Value → List Warning}
    (h : ∀ v, (check v).Warns (read v)) (v : Value) :
    (checkList check v).Warns (v.items.flatMap read) := by
  cases v with
  | list items | tuple items | set items => exact warns_checkItems h items
  | _ => exact (silent_issue _).warns

theorem warns_checkPlatforms (v : Value) : (checkPlatforms v).Warns [] := by
  have items := warns_checkList (fun v => (silent_checkText v).warns) v
  rw [List.flatMap_eq_nil_iff.2 fun _ _ => rfl] at items
  exact items.map List.eraseDups

end

section
variable {fields : List Field} {data : Entries} {f : Field} {w : Warning}

theorem fits_of_not_blames {α : Type} {check : Check α} {n : Nat} (distinct : Distinct data)
    (strict : Strange fields data → check.Blames) (h : (check n).isOk = true) :
    Fits fields data := by
  refine fits_of_not_strange distinct fun strange => ?_
  exact (strict strange).not_isOk n h

theorem fits_of_isOk {α : Type} {x : Check (Unit → α)} {n : Nat}
    (apart : fields.Pairwise Field.Apart) (distinct : Distinct data)
    (h : (x.also (checkKeys fields data) n).isOk = true) : Fits fields data :=
  fits_of_not_blames distinct (fun strange => (strange.blames apart).also_right x) h

def Field.found {β : Type} (f : Field) (data : Entries) (read : Value → List β) : List β :=
  (f.given data).elim [] fun p => read p.2

theorem Fits.found_eq_gather {β : Type} (h : Fits fields data) (hf : f ∈ fields)
    (read : Value → List β) : f.found data read = f.gather data read := by
  obtain ⟨-, single⟩ := h
  induction data with
  | nil => rfl
  | cons e rest ih =>
    obtain ⟨others, single⟩ := List.pairwise_cons.1 single
    rw [Field.gather, List.flatMap_cons]
    by_cases here : f.Spells e.1
    -- No other key of the mapping spells the field, so nothing comes from the rest.
    · have none (e') (he' : e' ∈ rest) : ¬ f.Spells e'.1 := others e' he' f hf here
      obtain ⟨k, v⟩ := e
      obtain ⟨a, rfl⟩ := here
      have nothing : rest.flatMap (fun e => if f.Spells e.1 then read e.2 else []) = [] :=
        List.flatMap_eq_nil_iff.2 fun e' he' => if_neg (none e' he')
      rw [Field.found, Field.given_cons_of_spells a v none, nothing, if_pos ⟨a, rfl⟩,
        List.append_nil]
      rfl
    · rw [Field.found, Field.given_cons_of_not_spells here, if_neg here]
      exact ih single

theorem Field.warns_check {α : Type} {default : Check α} {check : Value → Check α}
    {read : Value → List Warning} (hd : default.Warns []) (hc : ∀ v, (check v).Warns (read v))
    (f : Field) (data : Entries) :
    (f.check data default check).Warns (f.found data read) := by
  rw [Field.check, Field.found]
  cases f.given data with
  | none => exact hd
  | some p => exact (hc p.2).under _

namespace Field

/-- A field whose check warns of nothing, or of nothing for want of a value. -/
theorem warns_nothing {α : Type} {default : Check α} {check : Value → Check α}
    (hd : default.Warns []) (hc : ∀ v, (check v).Warns []) (f : Field) (data : Entries) :
    (f.check data default check).Warns [] := by
  rw [Field.check]
  split
  · exact (hc _).under _
  · exact hd

theorem warns_text (f : Field) (data : Entries) (s : String) :
    (f.check data (.ok s) checkText).Warns [] :=
  f.warns_nothing (Check.silent_ok s).warns (fun v => (silent_checkText v).warns) data

theorem warns_flag (f : Field) (data : Entries) (b : Bool) :
    (f.check data (.ok b) checkFlag).Warns [] :=
  f.warns_nothing (Check.silent_ok b).warns (fun v => (silent_checkFlag v).warns) data

theorem warns_text_watched (f : Field) (data : Entries) (s : String) :
    (f.check data (.ok s) (checkWarnedText f.name)).Warns (f.found data f.due) :=
  f.warns_check (Check.silent_ok s).warns (warns_checkWarnedText f) data

theorem filter_gather (f : Field) (data : Entries) (read : Value → List Warning)
    (p : Warning → Bool) :
    (f.gather data read).filter p = f.gather data fun v => (read v).filter p := by
  simp only [gather, List.filter_flatMap, apply_ite (List.filter p), List.filter_nil]

theorem field_of_mem_due {v : Value} (h : w ∈ f.due v) : w.field = f.name := by
  cases v with
  | float x => exact congrArg Warning.field (List.mem_singleton.1 h)
  | _ => exact absurd h List.not_mem_nil

theorem field_of_mem_gather {read : Value → List Warning}
    (h : ∀ v, ∀ w ∈ read v, w.field = f.name) (hw : w ∈ f.gather data read) :
    w.field = f.name := by
  obtain ⟨e, -, among⟩ := List.mem_flatMap.1 hw
  split at among
  · exact h e.2 w among
  · exact absurd among List.not_mem_nil

theorem filter_watched (data : Entries) {read : Value → List Warning} (watched : f ∈ watchedFields)
    (h : ∀ v, ∀ w ∈ read v, w.field = f.name) :
    (f.gather data read).filter Warning.isWatched = f.gather data read := by
  refine List.filter_eq_self.2 fun w hw => ?_
  rw [Warning.isWatched, field_of_mem_gather h hw]
  exact List.contains_iff_mem.2 (List.mem_map_of_mem watched)

theorem filter_unwatched (data : Entries) {read : Value → List Warning}
    (other : f.name ∉ watchedFields.map (·.name)) (h : ∀ v, ∀ w ∈ read v, w.field = f.name) :
    (f.gather data read).filter Warning.isWatched = [] := by
  refine List.filter_eq_nil_iff.2 fun w hw watched => other ?_
  rw [Warning.isWatched, field_of_mem_gather h hw] at watched
  exact List.contains_iff_mem.1 watched

end Field

end

namespace BuildArg

theorem filter_floats (data : Entries) :
    (floats data).filter Warning.isWatched = valueField.floats data := by
  have due (f : Field) (v : Value) (w) (hw : w ∈ f.due v) := Field.field_of_mem_due hw
  have id := Field.filter_unwatched data (f := idField) (by decide) (due _)
  have key := Field.filter_unwatched data (f := keyField) (by decide) (due _)
  have value := Field.filter_watched data (f := valueField) (by decide) (due _)
  simp only [floats, Field.floats, List.filter_append, id, key, value, List.nil_append]

def noticed : Value → List Warning
  | .map data => valueField.found data valueField.due
  | _ => []

theorem warns_ofValue (v : Value) : (ofValue v).Warns (noticed v) := by
  cases v with
  | map data =>
    have id := idField.warns_nothing Check.warns_freshId (fun v => (silent_checkText v).warns) data
    have key := keyField.warns_text data "NEW_ARG"
    have value := valueField.warns_text_watched data "value"
    have flag := dynamicField.warns_flag data false
    have fields := (Check.silent_ok mk).warns.also id |>.also key |>.also value |>.also flag
    have all := (fields.map fun a (_ : Unit) => a).also
      (silent_checkKeys BuildArg.fields data).warns
    simp only [List.nil_append, List.append_nil] at all
    exact all
  | _ => exact (Check.silent_issue _).warns

theorem noticed_eq_filter {v : Value} (h : ∀ data, v = .map data → Fits fields data) :
    noticed v = (floatsOf v).filter Warning.isWatched := by
  cases v with
  | map data => exact ((h data rfl).found_eq_gather (by decide) _).trans (filter_floats data).symm
  | _ => rfl

end BuildArg

namespace Pages

theorem filter_floats (data : Entries) :
    (floats data).filter Warning.isWatched = nodeVersionField.floats data := by
  have due (f : Field) (v : Value) (w) (hw : w ∈ f.due v) := Field.field_of_mem_due hw
  have other {f : Field} (hf : f.name ∉ watchedFields.map (·.name)) :=
    Field.filter_unwatched data hf (due f)
  have version := Field.filter_watched data (f := nodeVersionField) (by decide) (due _)
  simp only [floats, Field.floats, List.filter_append, other (f := branchField) (by decide),
    version, other (f := installField) (by decide), other (f := buildField) (by decide),
    other (f := outputDirField) (by decide), List.nil_append, List.append_nil]

theorem warns_ofEntries (data : Entries) :
    (ofEntries data).Warns (nodeVersionField.found data nodeVersionField.due) := by
  have text (f : Field) (s : String) := f.warns_text data s
  have version := nodeVersionField.warns_text_watched data initial.nodeVersion
  have checked := (Check.silent_ok mk).warns.also (text branchField initial.branch)
    |>.also version
    |>.also (text installField initial.installCommand)
    |>.also (text buildField initial.buildCommand)
    |>.also (text outputDirField initial.outputDir)
    |>.also (cacheField.warns_flag data initial.useCache)
  have all := (checked.map fun p (_ : Unit) => p).also (silent_checkKeys fields data).warns
  simp only [List.nil_append, List.append_nil] at all
  exact all

end Pages

namespace Container

theorem filter_floats (data : Entries) :
    (floats data).filter Warning.isWatched = tagsField.floats data
      ++ buildArgsField.gather data fun v =>
        (v.items.flatMap BuildArg.floatsOf).filter Warning.isWatched := by
  have due (f : Field) (v : Value) (w) (hw : w ∈ f.due v) := Field.field_of_mem_due hw
  have other {f : Field} (hf : f.name ∉ watchedFields.map (·.name)) :=
    Field.filter_unwatched data hf (due f)
  have tags := Field.filter_watched data (f := tagsField) (by decide) (due _)
  have each (v : Value) (w) (hw : w ∈ v.items.flatMap platformsField.due) :
      w.field = platformsField.name := by
    obtain ⟨item, -, among⟩ := List.mem_flatMap.1 hw
    exact due _ item w among
  have platforms := Field.filter_unwatched data (by decide) each
  simp only [floats, Field.floats, List.filter_append, other (f := imageNameField) (by decide),
    tags, other (f := registryField) (by decide), other (f := dockerfileField) (by decide),
    platforms, Field.filter_gather, List.nil_append, List.append_nil]

theorem warns_ofEntries (data : Entries) :
    (ofEntries data).Warns (tagsField.found data tagsField.due
      ++ buildArgsField.found data fun v => v.items.flatMap BuildArg.noticed) := by
  have text (f : Field) (s : String) := f.warns_text data s
  have flag (f : Field) (b : Bool) := f.warns_flag data b
  have tags := tagsField.warns_text_watched data initial.tags
  have platforms := platformsField.warns_nothing (Check.silent_ok initial.platforms).warns
    warns_checkPlatforms data
  have output := outputField.warns_nothing (Check.silent_ok initial.output).warns
    (fun v => (silent_checkOutput v).warns) data
  have args := buildArgsField.warns_check (Check.silent_ok initial.buildArgs).warns
    (warns_checkList BuildArg.warns_ofValue) data
  have checked := (Check.silent_ok mk).warns.also (text imageNameField initial.imageName)
    |>.also (text registryField initial.registry)
    |>.also tags
    |>.also (text dockerfileField initial.dockerfilePath)
    |>.also platforms
    |>.also output
    |>.also (flag provenanceField initial.provenance)
    |>.also (flag rewriteField initial.rewriteTimestamp)
    |>.also args
  have all := (checked.map fun c (_ : Unit) => c).also (silent_checkKeys fields data).warns
  simp only [List.nil_append, List.append_nil] at all
  exact all

theorem fits_of_arg {data : Entries} (distinct : DistinctWithin data) {n : Nat}
    (h : (ofEntries data n).isOk = true) {e : Value × Value} (he : e ∈ data)
    (spells : buildArgsField.Spells e.1) {d : Entries} (item : .map d ∈ e.2.items) :
    Fits BuildArg.fields d := by
  obtain ⟨top, inside⟩ := distinct
  have fits : Fits fields data := fits_of_isOk fields_apart top h
  exact fits_of_not_blames (inside e he _ item) (blames_of_arg fits he spells item) h

theorem warnings_eq_filter {data : Entries} (distinct : DistinctWithin data) {n : Nat}
    (h : (ofEntries data n).isOk = true) :
    (ofEntries data n).warnings = (floats data).filter Warning.isWatched := by
  have fits : Fits fields data := fits_of_isOk fields_apart distinct.1 h
  have args : buildArgsField.gather data (fun v => v.items.flatMap BuildArg.noticed) =
      buildArgsField.gather data fun v =>
        (v.items.flatMap BuildArg.floatsOf).filter Warning.isWatched := by
    refine List.flatMap_congr fun e he => ?_
    split
    · next spells =>
      dsimp only
      rw [List.filter_flatMap]
      refine List.flatMap_congr fun item among => BuildArg.noticed_eq_filter fun d is => ?_
      exact fits_of_arg distinct h he spells (is ▸ among)
    · rfl
  rw [warns_ofEntries data n (Checked.isCut_of_isOk h), filter_floats,
    fits.found_eq_gather (by decide), fits.found_eq_gather (by decide), args]
  rfl

end Container

/-- The check warns of the watched ones among the floats, and so of all if all are watched. -/
structure Checked.WarnsOfWatched {α : Type} (c : Checked α) (floats : List Warning) : Prop where
  watched : c.warnings = floats.filter Warning.isWatched
  all_iff : c.warnings = floats ↔ ∀ w ∈ floats, w.isWatched = true

theorem Checked.warnsOfWatched {α : Type} {c : Checked α} {floats : List Warning}
    (h : c.warnings = floats.filter Warning.isWatched) : c.WarnsOfWatched floats where
  watched := h
  all_iff := by rw [h, List.filter_eq_self]

/-- A mapping that is accepted as one of the three records gives one warning for each float in the
place of a text, in the order of the fields, if the field is watched, and no other warning. -/
theorem warns_of_watched_floats (data : Entries) (n : Nat) :
    (Distinct data → (BuildArg.ofValue (.map data) n).isOk = true →
      (BuildArg.ofValue (.map data) n).WarnsOfWatched (BuildArg.floats data)) ∧
    (Distinct data → (Pages.ofValue (.map data) n).isOk = true →
      (Pages.ofValue (.map data) n).WarnsOfWatched (Pages.floats data)) ∧
    (DistinctWithin data → (Container.ofValue (.map data) n).isOk = true →
      (Container.ofValue (.map data) n).WarnsOfWatched (Container.floats data)) := by
  refine ⟨fun distinct ok => ?_, fun distinct ok => ?_, fun distinct ok => ?_⟩
  · have fits : Fits BuildArg.fields data := fits_of_isOk BuildArg.fields_apart distinct ok
    have warned := BuildArg.warns_ofValue (.map data) n (Checked.isCut_of_isOk ok)
    refine Checked.warnsOfWatched (warned.trans ?_)
    exact BuildArg.noticed_eq_filter fun _ same => Value.map.inj same ▸ fits
  · have fits : Fits Pages.fields data := fits_of_isOk Pages.fields_apart distinct ok
    have warned := Pages.warns_ofEntries data n (Checked.isCut_of_isOk ok)
    refine Checked.warnsOfWatched (warned.trans ?_)
    exact (fits.found_eq_gather (by decide) _).trans (Pages.filter_floats data).symm
  · exact Checked.warnsOfWatched (Container.warnings_eq_filter distinct ok)

/-- Floats in watched and in other fields, some of them in a list and in an argument. -/
theorem warns_of_watched_floats_mixed :
    let arg : Entries := [(.text "value", .float 1.5), (.text "key", .float 2.5)]
    let site : Entries := [(.text "branch", .float 0.5), (.text "nodeVersion", .float 20)]
    let data : Entries := [(.text "tags", .float 3.5), (.text "platforms", .tuple [.float 4.5]),
      (.text "buildArgs", .list [.map arg, .map []]), (.text "imageName", .int 7)]
    (Distinct arg ∧ (BuildArg.ofValue (.map arg) 0).isOk = true ∧
      (BuildArg.ofValue (.map arg) 0).WarnsOfWatched [⟨"key", 2.5⟩, ⟨"value", 1.5⟩]) ∧
    (Distinct site ∧ (Pages.ofValue (.map site) 0).isOk = true ∧
      (Pages.ofValue (.map site) 0).WarnsOfWatched [⟨"branch", 0.5⟩, ⟨"node_version", 20⟩]) ∧
    DistinctWithin data ∧ (Container.ofValue (.map data) 0).isOk = true ∧
      (Container.ofValue (.map data) 0).WarnsOfWatched
        [⟨"tags", 3.5⟩, ⟨"platforms", 4.5⟩, ⟨"key", 2.5⟩, ⟨"value", 1.5⟩] := by
  intro arg site data
  have apart : Distinct arg := by decide
  have apart' : Distinct site := by decide
  have within : DistinctWithin data := by decide
  have ok : (BuildArg.ofValue (.map arg) 0).isOk = true := by decide +kernel
  have ok' : (Pages.ofValue (.map site) 0).isOk = true := by decide +kernel
  have ok'' : (Container.ofValue (.map data) 0).isOk = true := by decide +kernel
  exact ⟨⟨apart, ok, (warns_of_watched_floats arg 0).1 apart ok⟩,
    ⟨apart', ok', (warns_of_watched_floats site 0).2.1 apart' ok'⟩,
    within, ok'', (warns_of_watched_floats data 0).2.2 within ok''⟩

/-- A registry that is given as a float is accepted without a warning. -/
theorem not_warned_of_registry :
    let data : Entries := [(.text "registry", .float 1.1)]
    DistinctWithin data ∧ (Container.ofValue (.map data) 0).isOk = true ∧
      Container.floats data = [⟨"registry", 1.1⟩] ∧
      (Container.ofValue (.map data) 0).warnings = [] :=
  ⟨by decide, by decide +kernel, rfl, rfl⟩

end CiWorkflow
