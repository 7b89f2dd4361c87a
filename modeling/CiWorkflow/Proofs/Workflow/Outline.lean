import CiWorkflow.Proofs.Workflow.Faithful
import CiWorkflow.Text.Lines
import Mathlib.Data.List.Basic

/-! The steps of a container workflow can be read off its text: just the lines that look like the
name of a step or like the action that it uses belong to one, whatever one-line texts are shown. -/

set_option autoImplicit false

namespace CiWorkflow

open Workflow

namespace Workflow

section Lines

theorem splitAt_unlines {ls : List String} (h : ∀ l ∈ ls, OneLine l) :
    Text.splitAt (· == '\n') (unlines ls).toList = ls.map String.toList ++ [[]] := by
  induction ls with
  | nil => rfl
  | cons l ls ih =>
    have first : ∀ c ∈ l.toList, (c == '\n') = false := fun c hc => by
      have other : c ≠ '\n' := fun e => h l List.mem_cons_self (e ▸ hc)
      simpa using other
    have others := ih fun l hl => h l (List.mem_cons_of_mem _ hl)
    rw [toList_unlines_cons, Text.splitAt_ended first (by decide), others]
    rfl

def Begins (mark line : String) : Prop := mark.toList <+: line.toList

instance (mark line : String) : Decidable (Begins mark line) :=
  inferInstanceAs (Decidable (mark.toList <+: line.toList))

theorem begins_append (mark text : String) : Begins mark (mark ++ text) := by
  rw [Begins, String.toList_append]
  exact List.prefix_append _ _

theorem not_begins_append {mark start : String} (h : ¬ start.toList <+: mark.toList)
    (h' : ¬ mark.toList <+: start.toList) (text : String) : ¬ Begins mark (start ++ text) := by
  rw [Begins, String.toList_append]
  intro begins
  rcases List.prefix_or_prefix_of_prefix begins (List.prefix_append start.toList text.toList) with
    first | second
  · exact h' first
  · exact h second

def markedLines (mark text : String) : List String :=
  ((Text.splitAt (· == '\n') text.toList).map String.ofList).filter (Begins mark ·)

theorem markedLines_unlines {mark : String} (hm : mark ≠ "") {ls : List String}
    (h : ∀ l ∈ ls, OneLine l) : markedLines mark (unlines ls) = ls.filter (Begins mark ·) := by
  have empty : ¬ Begins mark "" := by simpa [Begins] using hm
  rw [markedLines, splitAt_unlines h]
  simp [Function.comp_def, empty]

end Lines

def nameMark : String := "      - name: "

def usesMark : String := "        uses: "

namespace Step

/-- How the lines of a step begin that show neither its name nor its action. -/
def detailMarks : List String := ["        id: ", "        if: ", "        with:", "          "]

def IsApart (mark : String) : Prop :=
  ∀ start ∈ detailMarks, ¬ start.toList <+: mark.toList ∧ ¬ mark.toList <+: start.toList

theorem IsApart.not_begins {mark start : String} (h : IsApart mark) (hs : start ∈ detailMarks)
    (text : String) : ¬ Begins mark (start ++ text) :=
  not_begins_append (h start hs).1 (h start hs).2 text

theorem isApart_nameMark : IsApart nameMark := by simp only [IsApart, nameMark, detailMarks]; decide

theorem isApart_usesMark : IsApart usesMark := by simp only [IsApart, usesMark, detailMarks]; decide

theorem exists_inputLine {i : Input} {l : String} (h : l ∈ inputLines i) :
    ∃ text, l = "          " ++ text := by
  have pair (p : String × String) : pairLine p = "          " ++ (p.1 ++ ": " ++ p.2) := by
    simp [pairLine, String.append_assoc]
  cases i with
  | pair key value => exact ⟨_, (List.mem_singleton.1 h).trans (pair _)⟩
  | block key ls =>
    rw [inputLines] at h
    split at h
    · cases h
    · rcases List.mem_cons.1 h with rfl | h
      · exact ⟨_, pair _⟩
      · obtain ⟨t, -, rfl⟩ := List.mem_map.1 h
        exact ⟨"  " ++ t, by rw [← String.append_assoc]; rfl⟩

/-- Of the lines of a step only those of its name and its action can begin with such a mark,
whatever its texts are. -/
theorem IsApart.filter_lines {mark : String} (h : IsApart mark) (s : Step) :
    s.lines.filter (Begins mark ·) =
      [nameMark ++ s.name, actionLine s.action].filter (Begins mark ·) := by
  have none {ls : List String} (other : ∀ l ∈ ls, ¬ Begins mark l) :
      ls.filter (Begins mark ·) = [] := List.filter_eq_nil_iff.2 (by simpa using other)
  -- All other lines begin with another mark, whatever comes behind it.
  have id : ∀ l ∈ (s.id.map ("        id: " ++ ·)).toList, ¬ Begins mark l := by
    simpa using fun t _ => h.not_begins (by simp [detailMarks]) t
  have condition : ∀ l ∈ (s.condition.map ("        if: " ++ ·)).toList, ¬ Begins mark l := by
    simpa using fun t _ => h.not_begins (by simp [detailMarks]) t
  have inputs : ∀ l ∈ (if s.inputs.isEmpty then []
      else "        with:" :: s.inputs.flatMap inputLines), ¬ Begins mark l := by
    intro l hl
    split at hl
    · cases hl
    · rcases List.mem_cons.1 hl with rfl | hl
      · have hm : "        with:" ∈ detailMarks := by simp [detailMarks]
        exact h.not_begins hm ""
      · obtain ⟨i, -, hl⟩ := List.mem_flatMap.1 hl
        obtain ⟨text, rfl⟩ := exists_inputLine hl
        exact h.not_begins (by simp [detailMarks]) text
  rw [lines]
  simp only [List.filter_append, none id, none condition, none inputs, List.append_nil]
  rw [← List.filter_append]
  rfl

/-- The action that a step uses; one that runs a command uses none. -/
def used? (s : Step) : Option String :=
  match s.action with
  | .uses name => some name
  | .run _ => none

theorem filter_lines_name (s : Step) :
    s.lines.filter (Begins nameMark ·) = [nameMark ++ s.name] := by
  have action : ¬ Begins nameMark (actionLine s.action) := by
    cases s.action with
    | uses name =>
      change ¬ Begins nameMark ("        uses: " ++ name)
      exact not_begins_append (by decide) (by decide) name
    | run command =>
      change ¬ Begins nameMark ("        run: " ++ command)
      exact not_begins_append (by decide) (by decide) command
  rw [isApart_nameMark.filter_lines]
  simp [begins_append, action]

theorem filter_lines_uses (s : Step) :
    s.lines.filter (Begins usesMark ·) = (s.used?.map (usesMark ++ ·)).toList := by
  have name : ¬ Begins usesMark (nameMark ++ s.name) := not_begins_append (by decide) (by decide) _
  rw [isApart_usesMark.filter_lines, List.filter_cons_of_neg (by simpa using name), used?]
  cases s.action with
  | uses action =>
    have action : Begins usesMark (actionLine (.uses action)) := begins_append _ _
    simp [action]
    rfl
  | run command =>
    have action : ¬ Begins usesMark ("        run: " ++ command) :=
      not_begins_append (by decide) (by decide) command
    simpa [actionLine] using action

end Step

end Workflow

namespace Container

/-- The steps as they are meant: the name of each, and the action that it uses. -/
def outline (c : Container) : List (String × Option String) :=
  [("Checkout repository", some "actions/checkout@v4")] ++
  c.dynamicArgs.map (fun a => ("Set dynamic build arg " ++ a.key, none)) ++
  (if c.rewriteTimestamp ∧ ∀ a ∈ c.dynamicArgs, a.key ≠ "SOURCE_DATE_EPOCH" then
    [("Set source date epoch", none)] else []) ++
  [("Set up QEMU", some "docker/setup-qemu-action@v3"),
    ("Set up Docker Buildx", some "docker/setup-buildx-action@v3")] ++
  (match c.output with
    | .registry => [
      ("Log into registry $\x7b\x7b env.REGISTRY \x7d\x7d", some "docker/login-action@v3"),
      ("Build and Push", some "docker/build-push-action@v5")]
    | .ociLocal => [
      ("Build and Export", some "docker/build-push-action@v5"),
      ("Upload OCI Artifact", some "actions/upload-artifact@v4")])

theorem needsEpoch_iff (c : Container) : c.needsEpoch = true ↔
    c.rewriteTimestamp ∧ ∀ a ∈ c.dynamicArgs, a.key ≠ "SOURCE_DATE_EPOCH" := by
  simp [needsEpoch, epochKey]

theorem outline_eq (c : Container) :
    (checkoutStep :: c.steps).map (fun s => (s.name, s.used?)) = c.outline := by
  have exports : c.exportSteps.map (fun s => (s.name, s.used?)) =
      c.dynamicArgs.map (fun a => ("Set dynamic build arg " ++ a.key, none)) ++
        if c.rewriteTimestamp ∧ ∀ a ∈ c.dynamicArgs, a.key ≠ "SOURCE_DATE_EPOCH" then
          [("Set source date epoch", none)] else [] := by
    simp only [← needsEpoch_iff, exportSteps, Container.exports, List.map_append, List.map_map]
    cases c.needsEpoch <;> rfl
  rw [steps, outline]
  simp only [List.map_cons, List.map_append, exports, List.append_assoc]
  cases c.output <;> rfl

/-- In front of the steps no line begins with one of the two marks. -/
theorem filter_header {mark : String} (hm : mark = nameMark ∨ mark = usesMark) (c : Container) :
    c.header.filter (Begins mark ·) = checkoutStep.lines.filter (Begins mark ·) := by
  have registry : ¬ Begins mark ("  REGISTRY: " ++ c.registry) := by
    rcases hm with rfl | rfl <;> exact not_begins_append (by decide) (by decide) _
  have image : ¬ Begins mark ("  IMAGE_NAME: " ++ c.imageName) := by
    rcases hm with rfl | rfl <;> exact not_begins_append (by decide) (by decide) _
  have fixed : ∀ l ∈ ["name: Docker Build", "on:", "  push:", "    branches: [ \"main\" ]",
      "  pull_request:", "    branches: [ \"main\" ]", "", "env:", "", "jobs:", "  build:",
      "    runs-on: " ++ runner, "    permissions:", "      contents: read",
      "      packages: write", "", "    steps:"], ¬ Begins mark l := by
    rcases hm with rfl | rfl <;> decide
  simp only [List.forall_mem_cons] at fixed
  simp [header, registry, image, fixed]

theorem filter_blocks {mark : String} (hm : mark ≠ "") (ss : List Step) :
    (Step.blocks ss).filter (Begins mark ·) =
      ss.flatMap fun s => s.lines.filter (Begins mark ·) := by
  have empty : ¬ Begins mark "" := by simpa [Begins] using hm
  simp [Step.blocks, Step.block, List.filter_flatMap, empty]

theorem markedLines_workflow {mark : String} (hm : mark = nameMark ∨ mark = usesMark)
    {c : Container} (h : c.OneLined) : markedLines mark c.workflow =
      (checkoutStep :: c.steps).flatMap fun s => s.lines.filter (Begins mark ·) := by
  have nonempty : mark ≠ "" := by
    rcases hm with rfl | rfl <;> decide
  rw [workflow, markedLines_unlines nonempty h.lines, List.filter_append, filter_header hm,
    filter_blocks nonempty]
  rfl

/-- The text shows just the steps that it is meant to have, in their order, and just the actions
that these use. -/
theorem markedLines_workflow_eq_outline (c : Container) (h : c.OneLined) :
    markedLines "      - name: " c.workflow = c.outline.map (fun s => "      - name: " ++ s.1) ∧
    markedLines "        uses: " c.workflow =
      (c.outline.filterMap (·.2)).map ("        uses: " ++ ·) := by
  have names := markedLines_workflow (.inl rfl) h
  have actions := markedLines_workflow (.inr rfl) h
  simp only [Step.filter_lines_name, ← List.map_eq_flatMap] at names
  simp only [Step.filter_lines_uses, ← List.filterMap_eq_flatMap_toList] at actions
  rw [← outline_eq, List.map_map, List.filterMap_map, List.map_filterMap]
  exact ⟨names, actions⟩

def disguised : Container := { initial with
  registry := "docker.io #       - name: Push"
  tags := "        uses: actions/cache@v4"
  platforms := ["      - name: Test"]
  output := .ociLocal
  buildArgs := [
    ⟨"1", "      - name: A", "        uses: actions/cache@v4", true⟩,
    ⟨"2", "SOURCE_DATE_EPOCH", "        uses: actions/cache@v4", false⟩] }

theorem markedLines_workflow_disguised : disguised.OneLined ∧
    markedLines "      - name: " disguised.workflow = [
      "      - name: Checkout repository",
      "      - name: Set dynamic build arg       - name: A",
      "      - name: Set source date epoch",
      "      - name: Set up QEMU",
      "      - name: Set up Docker Buildx",
      "      - name: Build and Export",
      "      - name: Upload OCI Artifact"] ∧
    markedLines "        uses: " disguised.workflow = [
      "        uses: actions/checkout@v4",
      "        uses: docker/setup-qemu-action@v3",
      "        uses: docker/setup-buildx-action@v3",
      "        uses: docker/build-push-action@v5",
      "        uses: actions/upload-artifact@v4"] := by
  have args : ∀ a ∈ disguised.buildArgs, OneLine a.key ∧ OneLine a.value := by
    simp only [disguised, List.forall_mem_cons]
    exact ⟨⟨.lit rfl, .lit rfl⟩, ⟨.lit rfl, .lit rfl⟩, nofun⟩
  have oneLined : disguised.OneLined :=
    ⟨.lit rfl, .lit rfl, .lit rfl, .lit rfl, by simpa [disguised] using .lit rfl, args⟩
  obtain ⟨names, actions⟩ := markedLines_workflow_eq_outline disguised oneLined
  exact ⟨oneLined, names.trans (by decide), actions.trans (by decide)⟩

end Container

end CiWorkflow
