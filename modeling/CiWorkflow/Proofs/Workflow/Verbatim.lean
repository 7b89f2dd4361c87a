import CiWorkflow.Proofs.Workflow.PagesLayout

/-! The configuration read back from its own workflow. The texts are put into the document as they
are, so that what a runner is told depends on how they read there. -/

set_option autoImplicit false

namespace CiWorkflow

open Workflow Yaml

namespace Value

def field? : Value → Value → Option Value
  | map entries, k => (entries.find? fun e => sameKey k e.1).map (·.2)
  | _, _ => none

def item? : Value → Nat → Option Value
  | list items, i => items[i]?
  | _, _ => none

def text? : Value → Option String
  | text s => some s
  | _ => none

end Value

namespace Pages

/-- What a workflow tells a runner: the branch that starts it, the version of its first action, the
commands of its two steps, and the path that is uploaded. The key `on` is read as a flag. -/
def told? (workflow : Value) : Option Pages := do
  let push ← (← workflow.field? (.bool true)).field? (.text "push")
  let branch ← (← push.field? (.text "branches")).item? 0
  let build ← (← workflow.field? (.text "jobs")).field? (.text "build")
  let steps ← build.field? (.text "steps")
  let node ← (← steps.item? 1).field? (.text "with")
  let install ← (← steps.item? 2).field? (.text "run")
  let command ← (← steps.item? 3).field? (.text "run")
  let upload ← (← steps.item? 4).field? (.text "with")
  pure {
    branch := ← branch.text?
    nodeVersion := ← (← node.field? (.text "node-version")).text?
    installCommand := ← install.text?
    buildCommand := ← command.text?
    outputDir := ← (← upload.field? (.text "path")).text?
    useCache := (node.field? (.text "cache")).isSome }

def texts (p : Pages) : List String :=
  [p.branch, p.nodeVersion, p.installCommand, p.buildCommand, p.outputDir]

def Tidy (p : Pages) : Prop := ∀ s ∈ p.texts, Text.IsTidy s.toList

instance (p : Pages) : Decidable p.Tidy :=
  inferInstanceAs (Decidable (∀ s ∈ p.texts, Text.IsTidy s.toList))

def quotedTexts (p : Pages) : List String := [p.branch, p.nodeVersion]

def splicedTexts (p : Pages) : List String := [p.installCommand, p.buildCommand, p.outputDir]

def uncommented (p : Pages) : Pages := { p with
  installCommand := String.ofList (uncomment p.installCommand.toList)
  buildCommand := String.ofList (uncomment p.buildCommand.toList)
  outputDir := String.ofList (uncomment p.outputDir.toList) }

theorem told_layout (p : Pages) : told? (Layout.record p.layout).value = some p.uncommented := by
  have ⟨branch, node, install, build, output, cache⟩ := p
  cases cache <;> rfl

theorem all_unlines {f : Char → Bool} (nl : f '\n' = true) (ls : List String) :
    (unlines ls).toList.all f = ls.all fun l => l.toList.all f := by
  induction ls with
  | nil => rfl
  | cons l ls ih => rw [toList_unlines_cons, List.all_append, List.all_cons, nl, ih]; rfl

/-- The characters of the document are its own and those of the configuration. -/
theorem all_workflow {p : Pages} (h : ∀ s ∈ p.texts, s.toList.all isAllowed = true) :
    p.workflow.toList.all isAllowed = true := by
  simp only [texts, List.forall_mem_cons] at h
  obtain ⟨branch, nodeVersion, install, build, output, -⟩ := h
  -- Only this step differs in its lines, so that the rest is looked at once.
  have node : p.nodeStep.block.all (fun l => l.toList.all isAllowed) = true := by
    cases cache : p.useCache <;>
    · simp only [nodeStep, cache, Step.block, Step.uses, Step.lines, Step.actionLine,
        Step.inputLines, Step.pairLine, List.flatMap_cons, List.flatMap_nil, List.all_append,
        List.all_cons, List.all_nil, String.toList_append, nodeVersion, if_true, if_false,
        List.isEmpty_cons, Bool.false_eq_true, Bool.and_true]
      decide +kernel
  rw [workflow, all_unlines rfl]
  simp only [header, buildJob, deployJob, checkoutStep, buildSteps, deployStep, Step.blocks,
    Step.block, Step.uses, Step.run, Step.lines, Step.actionLine, Step.inputLines, Step.pairLine,
    List.flatMap_cons, List.flatMap_nil, List.all_append, List.all_cons, List.all_nil,
    String.toList_append, branch, install, build, output, if_false, List.isEmpty_cons,
    Bool.false_eq_true, Bool.and_true] at node ⊢
  simp only [node]
  decide +kernel

theorem uncommented_eq_iff {p : Pages} (tidy : p.Tidy) :
    p.uncommented = p ↔ ∀ s ∈ p.splicedTexts, hasComment none s.toList = false := by
  have kept {s : String} (h : Text.IsTidy s.toList) :
      String.ofList (uncomment s.toList) = s ↔ hasComment none s.toList = false := by
    rw [← uncomment_eq_iff h, ← String.toList_inj, String.toList_ofList]
  obtain ⟨branch, nodeVersion, install, build, output, useCache⟩ := p
  simp only [Tidy, texts, List.forall_mem_cons] at tidy
  obtain ⟨-, -, installTidy, buildTidy, outputTidy, -⟩ := tidy
  simp [splicedTexts, uncommented, kept installTidy, kept buildTidy, kept outputTidy]

def HeldInQuotes (p : Pages) : Prop := ∀ s ∈ p.quotedTexts, '"' ∉ s.toList ∧ '\\' ∉ s.toList

instance (p : Pages) : Decidable p.HeldInQuotes :=
  inferInstanceAs (Decidable (∀ s ∈ p.quotedTexts, '"' ∉ s.toList ∧ '\\' ∉ s.toList))

def ReadPlain (p : Pages) : Prop := ∀ s ∈ p.splicedTexts, ReadsPlain s.toList

instance (p : Pages) : Decidable p.ReadPlain :=
  inferInstanceAs (Decidable (∀ s ∈ p.splicedTexts, ReadsPlain s.toList))

section Told
variable {p : Pages} (tidy : p.Tidy) (held : p.HeldInQuotes) (plain : p.ReadPlain)
include tidy held plain

theorem read_workflow : Yaml.read p.workflow.toList = .ok (Layout.record p.layout).value := by
  have allowed (s : String) (hs : s ∈ p.texts) : s.toList.all isAllowed = true :=
    List.all_eq_true.2 fun c hc => Text.isAllowed_of_isPrintable ((tidy s hs).printable c hc)
  have quotes {s : String} (hs : s ∈ p.texts) (h : '"' ∉ s.toList ∧ '\\' ∉ s.toList) :
      Quote.double.Holds s := by
    intro c hc
    refine ⟨(tidy s hs).inline c hc, ?_, ?_⟩
    · rintro rfl
      exact h.1 hc
    · rintro rfl
      exact h.2 hc
  have all := all_workflow allowed
  simp only [Tidy, HeldInQuotes, ReadPlain, texts, quotedTexts, splicedTexts,
    List.forall_mem_cons] at tidy held plain
  obtain ⟨-, -, install, build, output, -⟩ := tidy
  have text := toList_workflow ⟨install, build, output⟩
  have standing : p.Standing := {
    branch := quotes (by simp [texts]) held.1
    nodeVersion := quotes (by simp [texts]) held.2.1
    install := fits_spliced install plain.1
    build := fits_spliced build plain.2.1
    output := fits_spliced output plain.2.2.1 }
  rw [text] at all ⊢
  exact read_document (fits_layout standing) all

/-- A runner is told the configuration without its comments, and so the configuration as it is only
if it has none. -/
theorem told_workflow : ∃ v, Yaml.read p.workflow.toList = .ok v ∧ told? v = some p.uncommented ∧
    (told? v = some p ↔ ∀ s ∈ p.splicedTexts, hasComment none s.toList = false) := by
  refine ⟨_, read_workflow tidy held plain, told_layout p, ?_⟩
  rw [told_layout, Option.some.injEq]
  exact uncommented_eq_iff tidy

end Told

/-- A configuration with marks that start neither a comment nor a value where they stand. -/
def marked : Pages where
  branch := "release: #1"
  nodeVersion := "20"
  installCommand := "npm ci --prefer-offline"
  buildCommand := "npm run build:site -- --base='/a#b' & wait"
  outputDir := "./dist"
  useCache := true

theorem told_workflow_marked : marked.Tidy ∧ marked.HeldInQuotes ∧ marked.ReadPlain ∧
    ∃ v, Yaml.read marked.workflow.toList = .ok v ∧ told? v = some marked := by
  have tidy : marked.Tidy := by decide +kernel
  have held : marked.HeldInQuotes := by decide +kernel
  have plain : marked.ReadPlain := by decide +kernel
  obtain ⟨v, read, -, same⟩ := told_workflow tidy held plain
  exact ⟨tidy, held, plain, v, read, same.2 (by decide +kernel)⟩

def remarked : Pages where
  branch := "main"
  nodeVersion := "20"
  installCommand := "npm ci # fast"
  buildCommand := "npm run build"
  outputDir := "./dist"
  useCache := false

theorem not_told_remarked : remarked.Tidy ∧
    ∃ v, Yaml.read remarked.workflow.toList = .ok v ∧
      told? v = some { remarked with installCommand := "npm ci" } ∧ told? v ≠ some remarked := by
  have tidy : remarked.Tidy := by decide +kernel
  have cut : remarked.uncommented = { remarked with installCommand := "npm ci" } := by
    decide +kernel
  refine ⟨tidy, _, read_workflow tidy (by decide +kernel) (by decide +kernel), ?_⟩
  rw [told_layout, cut]
  exact ⟨rfl, by decide +kernel⟩

end Pages

end CiWorkflow
