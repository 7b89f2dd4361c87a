import CiWorkflow.Workflow.Environment

/-! What the build is handed in a run. Exports and references are written apart from each other, and
yet every reference finds its variable, and each key has the value of its last argument. -/

set_option autoImplicit false

namespace CiWorkflow

open Workflow

section Last
variable {α : Type} {p q : α → Bool} {xs : List α} {a : α}

/-- What comes last among all that satisfy `p` comes last also among those that satisfy `q`, if it
is one of them. -/
theorem getLast?_filter_of_pos (last : xs.getLast? = some a) (ha : q a = true) :
    (xs.filter q).getLast? = some a := by
  obtain ⟨front, rfl⟩ := List.getLast?_eq_some_iff.1 last
  simp [List.filter_append, ha]

theorem getLast?_filter_filter (last : (xs.filter p).getLast? = some a) (ha : q a = true) :
    ((xs.filter q).filter p).getLast? = some a := by
  have swap : (xs.filter q).filter p = (xs.filter p).filter q := by
    simp only [List.filter_filter, Bool.and_comm]
  rw [swap]
  exact getLast?_filter_of_pos last ha

end Last

namespace Container

def argsOf (c : Container) (key : String) : List BuildArg := c.buildArgs.filter (·.key == key)

def dynamicArgsOf (c : Container) (key : String) : List BuildArg :=
  c.dynamicArgs.filter (·.key == key)

theorem dynamicArgsOf_eq_nil_iff {c : Container} {key : String} :
    c.dynamicArgsOf key = [] ↔ c.dynamicArgs.any (·.key == key) = false := by
  simp [dynamicArgsOf, List.filter_eq_nil_iff]

/-- The commit's time stands in where no dynamic argument has the key. -/
theorem needsEpoch_eq (c : Container) :
    c.needsEpoch = (c.rewriteTimestamp && (c.dynamicArgsOf epochKey).isEmpty) := by
  rw [needsEpoch]
  cases h : c.dynamicArgs.any (·.key == epochKey) with
  | false => rw [dynamicArgsOf_eq_nil_iff.2 h]; rfl
  | true =>
    have some : c.dynamicArgsOf epochKey ≠ [] := fun none => by
      simp [dynamicArgsOf_eq_nil_iff.1 none] at h
    simp [some]

theorem exportsOf_eq (c : Container) (key : String) :
    c.exports.filter (·.key == key) = (c.dynamicArgsOf key).map argExport ++
      if c.rewriteTimestamp ∧ key = epochKey ∧ c.dynamicArgsOf key = [] then [epochExport]
      else [] := by
  have dynamic : (c.dynamicArgs.map argExport).filter (·.key == key) =
      (c.dynamicArgsOf key).map argExport := List.filter_map
  rw [exports, List.filter_append, dynamic, needsEpoch_eq]
  by_cases hk : key = epochKey
  · subst hk
    cases c.rewriteTimestamp <;> cases c.dynamicArgsOf epochKey <;> simp [epochExport]
  · have other : epochExport.key ≠ key := Ne.symm hk
    split <;> simp [hk, other]

/-- A variable holds what the last dynamic argument of its name makes of it. -/
theorem environment_apply (c : Container) (start : Bindings) (key : String) :
    c.environment start key =
      match (c.dynamicArgsOf key).getLast? with
      | some a => some (.evaluated a.value)
      | none =>
        if c.rewriteTimestamp ∧ key = epochKey then some (.evaluated epochCommand)
        else start key := by
  rw [environment, Bindings.assignAll_apply, exportsOf_eq]
  cases last : (c.dynamicArgsOf key).getLast? with
  | none =>
    have nil : c.dynamicArgsOf key = [] := List.getLast?_eq_none_iff.1 last
    by_cases h : c.rewriteTimestamp ∧ key = epochKey
    · rw [if_pos ⟨h.1, h.2, nil⟩, nil]
      simp [h, epochExport]
    · rw [if_neg fun own => h ⟨own.1, own.2.1⟩, nil]
      simp [h]
  | some a =>
    have given : c.dynamicArgsOf key ≠ [] := fun nil => by simp [nil] at last
    rw [if_neg fun own => given own.2.2, List.append_nil, List.getLast?_map, last]
    rfl

/-- Of entries that are made from arguments, those of the timestamp's key are left out. -/
theorem entriesOf_eq (c : Container) (key : String) :
    c.argEntries.filter (·.key == key) =
      if c.rewriteTimestamp ∧ key = epochKey then [⟨epochKey, .variable⟩]
      else (c.argsOf key).map argEntry := by
  rw [argEntries_eq, List.filter_append]
  have made (p : BuildArg → Bool) : ((c.buildArgs.filter p).map argEntry).filter (·.key == key) =
      ((c.argsOf key).filter p).map argEntry := by
    rw [List.filter_map, argsOf, List.filter_filter, List.filter_filter]
    simp only [Bool.and_comm]
    rfl
  rw [made]
  by_cases h : c.rewriteTimestamp ∧ key = epochKey
  · obtain ⟨on, rfl⟩ := h
    have shadowed : (c.argsOf epochKey).filter
        (fun a => !(c.rewriteTimestamp && a.key == epochKey)) = [] := by
      simp [argsOf, on]
    rw [shadowed]
    simp [on]
  · have kept : (c.argsOf key).filter
        (fun a => !(c.rewriteTimestamp && a.key == epochKey)) = c.argsOf key := by
      refine List.filter_eq_self.2 fun a ha => ?_
      have hk : a.key = key := by simpa using (List.mem_filter.1 ha).2
      simpa [hk, Decidable.imp_iff_not_or] using h
    have lead : (if c.rewriteTimestamp then [(⟨epochKey, .variable⟩ : ArgEntry)] else []).filter
        (·.key == key) = [] := by
      split
      · rename_i on
        have other : epochKey ≠ key := fun e => h ⟨on, e.symm⟩
        simp [other]
      · rfl
    rw [kept, lead, if_neg h, List.nil_append]

theorem environment_of_last {c : Container} {start : Bindings} {a : BuildArg}
    (last : (c.argsOf a.key).getLast? = some a) (dynamic : a.isDynamic = true) :
    c.environment start a.key = some (.evaluated a.value) := by
  have found : (c.dynamicArgsOf a.key).getLast? = some a := getLast?_filter_filter last dynamic
  rw [environment_apply, found]

/-- What a key has to stand for: the time of the commit, or of the last dynamic argument for it,
where timestamps are rewritten, and the last argument of the key in all other cases. -/
def meantArgs (c : Container) (key : String) : Option Held :=
  if c.rewriteTimestamp ∧ key = epochKey then
    some (.evaluated (((c.dynamicArgsOf epochKey).getLast?.map (·.value)).getD epochCommand))
  else (c.argsOf key).getLast?.map (·.held)

theorem handedArgs_apply (c : Container) (start : Bindings) (key : String) :
    c.handedArgs start key = c.meantArgs key := by
  rw [handedArgs, Bindings.assignAll_apply, entriesOf_eq, meantArgs]
  split
  · rename_i h
    obtain ⟨on, rfl⟩ := h
    simp only [List.getLast?_singleton, Option.map_some, Option.getD_some, ArgEntry.held,
      environment_apply]
    cases (c.dynamicArgsOf epochKey).getLast? <;> simp [on]
  · rw [List.getLast?_map]
    cases last : (c.argsOf key).getLast? with
    | none => rfl
    | some a =>
      have hk : a.key = key := by
        simpa using (List.mem_filter.1 (List.mem_of_getLast? last)).2
      subst hk
      cases dynamic : a.isDynamic with
      | false => simp [argEntry, ArgEntry.held, BuildArg.held, dynamic]
      | true =>
        simp [argEntry, ArgEntry.held, BuildArg.held, dynamic, environment_of_last last dynamic]

def exportedKeys (c : Container) : List String := c.exports.map (·.key)

def referencedKeys (c : Container) : List String :=
  (c.argEntries.filter (·.source = .variable)).map (·.key)

theorem mem_exportedKeys {c : Container} {key : String} :
    key ∈ c.exportedKeys ↔
      (c.rewriteTimestamp = true ∧ key = epochKey) ∨ c.dynamicArgsOf key ≠ [] := by
  have found : key ∈ c.exportedKeys ↔ c.exports.filter (·.key == key) ≠ [] := by
    simp [exportedKeys, List.filter_eq_nil_iff]
  rw [found, exportsOf_eq]
  by_cases h : c.dynamicArgsOf key = [] <;> simp [h]

theorem mem_referencedKeys {c : Container} {key : String} :
    key ∈ c.referencedKeys ↔
      (c.rewriteTimestamp = true ∧ key = epochKey) ∨ c.dynamicArgsOf key ≠ [] := by
  have found : key ∈ c.referencedKeys ↔
      ∃ e ∈ c.argEntries.filter (·.key == key), e.source = .variable := by
    simp only [referencedKeys, List.mem_map, List.mem_filter, beq_iff_eq, decide_eq_true_eq]
    exact ⟨fun ⟨e, ⟨he, hs⟩, hk⟩ => ⟨e, ⟨he, hk⟩, hs⟩, fun ⟨e, ⟨he, hk⟩, hs⟩ => ⟨e, ⟨he, hs⟩, hk⟩⟩
  rw [found, entriesOf_eq]
  split
  · rename_i h
    simp [h]
  · rename_i h
    have dynamic : c.dynamicArgsOf key ≠ [] ↔ ∃ a ∈ c.argsOf key, a.isDynamic = true := by
      simp only [dynamicArgsOf, dynamicArgs, argsOf, ne_eq, List.filter_eq_nil_iff,
        List.mem_filter]
      grind
    simp only [h, false_or, dynamic, List.mem_map]
    constructor
    · rintro ⟨e, ⟨a, ha, rfl⟩, source⟩
      refine ⟨a, ha, ?_⟩
      cases hd : a.isDynamic <;> simp [argEntry, hd] at source ⊢
    · rintro ⟨a, ha, hd⟩
      exact ⟨argEntry a, ⟨a, ha, rfl⟩, by simp [argEntry, hd]⟩

theorem mem_referencedKeys_of_variable {c : Container} {e : ArgEntry} (he : e ∈ c.argEntries)
    (source : e.source = .variable) : e.key ∈ c.referencedKeys :=
  List.mem_map_of_mem (List.mem_filter.2 ⟨he, by simp [source]⟩)

theorem environment_isSome {c : Container} {key : String} (start : Bindings)
    (h : key ∈ c.exportedKeys) : (c.environment start key).isSome = true := by
  rw [environment_apply]
  cases last : (c.dynamicArgsOf key).getLast? with
  | some a => rfl
  | none =>
    have nil : c.dynamicArgsOf key = [] := List.getLast?_eq_none_iff.1 last
    have epoch : c.rewriteTimestamp = true ∧ key = epochKey := by
      simpa [nil] using mem_exportedKeys.1 h
    simp [epoch]

/-- Whatever variables there were before, each entry of the build step has a value, and the build
gets the arguments that the configuration means. -/
theorem handedArgs_eq_meantArgs (c : Container) (start : Bindings) :
    (∀ e ∈ c.argEntries, (e.held (c.environment start)).isSome = true) ∧
      ∀ key, c.handedArgs start key = c.meantArgs key := by
  refine ⟨fun e he => ?_, c.handedArgs_apply start⟩
  match source : e.source with
  | .literal value => simp [ArgEntry.held, source]
  | .variable =>
    have referenced := mem_referencedKeys_of_variable he source
    have exported : e.key ∈ c.exportedKeys := mem_exportedKeys.2 (mem_referencedKeys.1 referenced)
    simpa [ArgEntry.held, source] using environment_isSome start exported

/-- Of one key, a dynamic argument in front of a fixed one and a dynamic one last. -/
example : { initial with buildArgs := [⟨"1", "A", "date", true⟩, ⟨"2", "A", "fixed", false⟩,
      ⟨"3", "A", "id -u", true⟩] }.handedArgs .empty "A" = some (.evaluated "id -u") := by
  decide

/-- The steps that do not come from build arguments use actions and run no command. -/
theorem export_step_ne {c : Container} {s : Step}
    (hs : s ∈ toolSteps ++ loginSteps c.output ++ c.buildStep c.output :: uploadSteps c.output)
    (e : Export) : s ≠ e.step := by
  have uses : ∃ name, s.action = .uses name := by
    simp only [List.mem_append, List.mem_cons, toolSteps, loginSteps, uploadSteps] at hs
    rcases hs with (((rfl | rfl | hs) | hs) | rfl | hs)
    · exact ⟨_, rfl⟩
    · exact ⟨_, rfl⟩
    · simp at hs
    · split at hs
      · exact List.mem_singleton.1 hs ▸ ⟨_, rfl⟩
      · simp at hs
    · exact ⟨_, rfl⟩
    · split at hs
      · exact List.mem_singleton.1 hs ▸ ⟨_, rfl⟩
      · simp at hs
  rintro rfl
  obtain ⟨name, used⟩ := uses
  cases used

/-- What steps export is what entries refer to. There is one export for each dynamic argument, and
one for the time of the commit where it is needed, and in the workflow all of them stand in front
of the build. -/
theorem exports_match_references (c : Container) :
    (∀ key, key ∈ c.exportedKeys ↔ key ∈ c.referencedKeys) ∧
    c.exports = (c.buildArgs.filter (·.isDynamic)).map argExport ++
      (if c.rewriteTimestamp = true ∧
          ∀ a ∈ c.buildArgs, a.isDynamic = true → a.key ≠ epochKey then [epochExport]
        else []) ∧
    ∃ between after : List Step,
      c.workflow = unlines (c.header ++ Step.blocks (c.exports.map (·.step)) ++
        Step.blocks between ++ (c.buildStep c.output).block ++ Step.blocks after) ∧
      ∀ s ∈ between ++ c.buildStep c.output :: after, ∀ e : Export, s ≠ e.step := by
  refine ⟨fun key => mem_exportedKeys.trans mem_referencedKeys.symm, ?_,
    toolSteps ++ loginSteps c.output, uploadSteps c.output, ?_, fun s hs e => export_step_ne hs e⟩
  · have needed : c.needsEpoch = true ↔ c.rewriteTimestamp = true ∧
        ∀ a ∈ c.buildArgs, a.isDynamic = true → a.key ≠ epochKey := by
      simp [needsEpoch, dynamicArgs]
    simp only [exports, dynamicArgs, needed]
  · have build : Step.blocks [c.buildStep c.output] = (c.buildStep c.output).block :=
      List.flatMap_singleton _ _
    simp only [workflow, steps, exportSteps, Step.blocks_append, build, List.append_assoc]

end Container

end CiWorkflow
