import CiWorkflow.Proofs.Workflow.Lines
import CiWorkflow.Workflow.Deploy

/-! The workflow that deploys to Pages shows the whole configuration: as long as no text has a line
break, two configurations have one workflow just if they are equal. -/

set_option autoImplicit false

namespace CiWorkflow

open Workflow

namespace Pages

structure OneLined (p : Pages) : Prop where
  branch : OneLine p.branch
  nodeVersion : OneLine p.nodeVersion
  installCommand : OneLine p.installCommand
  buildCommand : OneLine p.buildCommand
  outputDir : OneLine p.outputDir

theorem oneLine_checkoutStep : checkoutStep.OneLined :=
  oneLine_uses (.lit rfl) (.lit rfl) (by simp)

theorem oneLine_deployJob : ∀ l ∈ deployJob, OneLine l := by
  have step : deployStep.OneLined := by
    refine ⟨.lit rfl, fun t ht => ?_, nofun, ?_, nofun⟩
    · obtain rfl : "deployment" = t := Option.some.inj ht
      exact .lit rfl
    · change OneLine "actions/deploy-pages@v4"
      exact .lit rfl
  have url := OneLine.append (s := "      url: ") (.lit rfl)
    (oneLine_expr (e := "steps.deployment.outputs.page_url") (.lit rfl))
  have runs := OneLine.append (s := "    runs-on: ") (t := runner) (.lit rfl) (.lit rfl)
  simp only [deployJob, List.forall_mem_append, List.forall_mem_cons]
  exact ⟨⟨.lit rfl, .lit rfl, .lit rfl, .lit rfl, url, runs, .lit rfl, .lit rfl, by simp⟩,
    step.lines⟩

namespace OneLined
variable {p : Pages} (h : p.OneLined)
include h

theorem header : ∀ l ∈ p.header, OneLine l := by
  have branch := (OneLine.append (s := "    branches: [\"") (.lit rfl) h.branch).append
    (t := "\"]") (.lit rfl)
  simp only [Pages.header, List.forall_mem_cons]
  exact ⟨.lit rfl, .lit rfl, .lit rfl, .lit rfl, branch, .lit rfl, .lit rfl, .lit rfl, .lit rfl,
    .lit rfl, .lit rfl, .lit rfl, .lit rfl, .lit rfl, .lit rfl, by simp⟩

theorem nodeStep : p.nodeStep.OneLined := by
  have version : OneLine ("\"" ++ p.nodeVersion ++ "\"") :=
    (OneLine.append (.lit rfl) h.nodeVersion).append (.lit rfl)
  refine oneLine_uses (.lit rfl) (.lit rfl) (List.forall_mem_cons.2 ⟨⟨.lit rfl, version⟩, ?_⟩)
  intro i hi
  split at hi
  · rw [List.mem_singleton.1 hi]
    exact ⟨.lit rfl, .lit rfl⟩
  · simp at hi

theorem buildSteps : ∀ s ∈ p.buildSteps, s.OneLined := by
  simp only [Pages.buildSteps, List.forall_mem_cons]
  refine ⟨h.nodeStep, oneLine_run (.lit rfl) h.installCommand,
    oneLine_run (.lit rfl) h.buildCommand, oneLine_uses (.lit rfl) (.lit rfl) ?_, by simp⟩
  have path : OneLine "path" := .lit rfl
  simpa [Input.OneLined] using And.intro path h.outputDir

theorem lines : ∀ l ∈ p.header ++ p.buildJob ++ deployJob, OneLine l := by
  have runs := OneLine.append (s := "    runs-on: ") (t := runner) (.lit rfl) (.lit rfl)
  have blocks : ∀ l ∈ Step.blocks p.buildSteps, OneLine l := by
    intro l hl
    obtain ⟨s, hs, hl⟩ := List.mem_flatMap.1 hl
    rcases List.mem_cons.1 hl with rfl | hl
    · exact .lit rfl
    · exact (h.buildSteps s hs).lines l hl
  simp only [buildJob, List.forall_mem_append, List.forall_mem_cons]
  exact ⟨⟨h.header, ⟨⟨.lit rfl, .lit rfl, .lit rfl, runs, .lit rfl, by simp⟩,
    oneLine_checkoutStep.lines⟩, blocks⟩, oneLine_deployJob⟩

end OneLined

theorem nodeStep_lines (p : Pages) : p.nodeStep.lines = [
    "      - name: Setup Node",
    "        uses: actions/setup-node@v4",
    "        with:",
    "          node-version: " ++ ("\"" ++ p.nodeVersion ++ "\"")] ++
      if p.useCache then ["          cache: 'npm'"] else [] := by
  cases h : p.useCache <;> simp only [nodeStep, h] <;> rfl

/-- The cache takes a line of its own, so that it shows in their number. -/
theorem nodeStep_inj {p q : Pages} (h : p.nodeStep.lines = q.nodeStep.lines) :
    p.nodeVersion = q.nodeVersion ∧ p.useCache = q.useCache := by
  rw [nodeStep_lines, nodeStep_lines] at h
  obtain ⟨fixed, cache⟩ := List.append_inj h rfl
  constructor
  · simpa using fixed
  · cases hp : p.useCache <;> cases hq : q.useCache <;> simp [hp, hq] at cache <;> rfl

theorem eq_of_workflow_eq {p q : Pages} (hp : p.OneLined) (hq : q.OneLined)
    (h : p.workflow = q.workflow) : p = q := by
  have lines := List.append_cancel_right (unlines_inj hp.lines hq.lines h)
  obtain ⟨header, job⟩ := List.append_inj lines rfl
  have steps := Step.blocks_inj (List.append_cancel_left job)
  simp only [buildSteps, List.map_cons, List.map_nil, List.cons.injEq, and_true] at steps
  obtain ⟨node, install, build, upload⟩ := steps
  obtain ⟨version, cache⟩ := nodeStep_inj node
  have command {name a b : String} (same : (Step.run name a).lines = (Step.run name b).lines) :
      a = b := by
    simpa [Step.run, Step.lines, Step.actionLine] using same
  have branch : p.branch = q.branch := by simpa [Pages.header] using header
  have path : p.outputDir = q.outputDir := by
    simpa [Step.uses, Step.lines, Step.inputLines, Step.pairLine] using upload
  obtain ⟨_, _, _, _, _, _⟩ := p
  obtain ⟨_, _, _, _, _, _⟩ := q
  simp only [mk.injEq]
  exact ⟨branch, version, command install, command build, path, cache⟩

theorem workflow_eq_iff_eq {p q : Pages} (hp : p.OneLined) (hq : q.OneLined) :
    p.workflow = q.workflow ↔ p = q :=
  ⟨eq_of_workflow_eq hp hq, congrArg workflow⟩

/-- Two commands the other way round, one of which looks like a place to put the other one in, among
texts with quotes and brackets. -/
theorem workflow_ne_of_swapped :
    let p : Pages := ⟨"a\"]", "20\"", "\x7bbuild_command\x7d", "cache: 'npm'", "[dist]", true⟩
    let q : Pages := ⟨"a\"]", "20\"", "cache: 'npm'", "\x7bbuild_command\x7d", "[dist]", true⟩
    p.OneLined ∧ q.OneLined ∧ p.workflow ≠ q.workflow := by
  intro p q
  have hp : p.OneLined := ⟨.lit rfl, .lit rfl, .lit rfl, .lit rfl, .lit rfl⟩
  have hq : q.OneLined := ⟨.lit rfl, .lit rfl, .lit rfl, .lit rfl, .lit rfl⟩
  exact ⟨hp, hq, fun same => absurd ((workflow_eq_iff_eq hp hq).1 same) (by decide)⟩

-- With line breaks it does not show where a command ends.
example :
    let between := "\n\n      - name: Build\n        run: "
    unlines (Step.blocks [.run "Install" ("a" ++ between ++ "b"), .run "Build" "c"]) =
      unlines (Step.blocks [.run "Install" "a", .run "Build" ("b" ++ between ++ "c")]) := by
  decide +kernel

end Pages

end CiWorkflow
