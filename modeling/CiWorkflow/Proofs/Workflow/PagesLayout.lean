import CiWorkflow.Proofs.Workflow.Lines
import CiWorkflow.Proofs.Yaml.Document
import CiWorkflow.Proofs.Yaml.Spliced
import CiWorkflow.Workflow.Deploy

set_option autoImplicit false

namespace CiWorkflow.Pages

open Workflow Yaml

def plain (s : String) : Layout := .word (.ofText s) []

def field (k : String) (x : Layout) : Nat × Word × Layout := (0, .ofText k, x)

def spaced (k : String) (x : Layout) : Nat × Word × Layout := (1, .ofText k, x)

def stepLayout (name : String) (fields : List (Nat × Word × Layout)) : Layout :=
  .record (field "name" (plain name) :: fields)

/-- The key `on` is read as a flag. -/
def triggerLayout (p : Pages) : Nat × Word × Layout :=
  (1, ⟨"on", .bool true⟩, .record [
    field "push" (.record [field "branches" (.bracketed p.branch)]),
    field "workflow_dispatch" .absent])

def settingsLayout : List (Nat × Word × Layout) := [
  spaced "permissions" (.record [
    field "contents" (plain "read"),
    field "pages" (plain "write"),
    field "id-token" (plain "write")]),
  spaced "concurrency" (.record [
    field "group" (.quoted .double "pages"),
    field "cancel-in-progress" (.word ⟨"true", .bool true⟩ [])])]

def usesLayout (name action : String) (inputs : List (Nat × Word × Layout)) : Layout :=
  stepLayout name [field "uses" (plain action), field "with" (.record inputs)]

def checkoutLayout : Layout := stepLayout "Checkout" [field "uses" (plain "actions/checkout@v4")]

def nodeLayout (p : Pages) : Layout :=
  usesLayout "Setup Node" "actions/setup-node@v4"
    (field "node-version" (.quoted .double p.nodeVersion)
      :: (if p.useCache then [field "cache" (.quoted .single "npm")] else []))

def runLayout (name command : String) : Layout :=
  stepLayout name [field "run" (.spliced command)]

def uploadLayout (path : String) : Layout :=
  usesLayout "Upload artifact" "actions/upload-pages-artifact@v3" [field "path" (.spliced path)]

def stepLayouts (p : Pages) : List (Nat × Layout) := [
  (1, p.nodeLayout),
  (1, runLayout "Install dependencies" p.installCommand),
  (1, runLayout "Build" p.buildCommand),
  (1, uploadLayout p.outputDir)]

def buildLayout (p : Pages) : Layout := .record [
  field "runs-on" (plain "ubuntu-latest"),
  field "steps" (.list ((0, checkoutLayout) :: p.stepLayouts))]

def deployLayout : Layout := .record [
  field "environment" (.record [
    field "name" (plain "github-pages"),
    field "url" (plain "$\x7b\x7b steps.deployment.outputs.page_url \x7d\x7d")]),
  field "runs-on" (plain "ubuntu-latest"),
  field "needs" (plain "build"),
  field "steps" (.list [(0, stepLayout "Deploy to GitHub Pages" [
    field "id" (plain "deployment"),
    field "uses" (plain "actions/deploy-pages@v4")])])]

def layout (p : Pages) : List (Nat × Word × Layout) :=
  field "name" (plain "Deploy to GitHub Pages") :: p.triggerLayout :: (settingsLayout ++ [
    spaced "jobs" (.record [field "build" p.buildLayout, spaced "deploy" deployLayout])])

section Text

/-- A step on its own lines, with an empty one above them: its name, and its fields in lines. -/
theorem write_step {name : String} {fields : List (Nat × Word × Layout)} {ls : List String}
    (h : Layout.writeFields false 8 fields = below ls) :
    Layout.writeItems false 6 [(1, stepLayout name fields)] =
      below ("" :: ("      - name: " ++ name) :: ls) := by
  have start : "      - name: ".toList = spaces 6 ++ '-' :: ' ' :: "name".toList ++ [':', ' '] := by
    decide
  simp [stepLayout, field, plain, Word.ofText, Layout.writeItems, Layout.write, Layout.writeFields,
    Layout.lead, nextLine, h, below_cons, start]

theorem write_field {k value : String} {x : Layout} {indent : Nat}
    (h : x.write false indent = ' ' :: value.toList) : Layout.writeFields false indent [field k x] =
      below [String.ofList (spaces indent) ++ k ++ ": " ++ value] := by
  simp [field, Word.ofText, Layout.writeFields, Layout.lead, nextLine, h, below]

theorem write_trigger (p : Pages) : Layout.writeFields false 0 [p.triggerLayout] =
    below ["", "on:", "  push:", "    branches: [\"" ++ p.branch ++ "\"]",
      "  workflow_dispatch:"] := by
  simp only [below, triggerLayout, field, Word.ofText, Layout.write, Layout.writeFields,
    List.flatMap_cons, List.flatMap_nil, String.toList_append, List.append_assoc, List.cons_append]
  rfl

theorem write_settings : Layout.writeFields false 0 settingsLayout =
    below ["", "permissions:", "  contents: read", "  pages: write", "  id-token: write",
      "", "concurrency:", "  group: \"pages\"", "  cancel-in-progress: true"] := by
  decide +kernel

theorem write_checkout :
    Layout.writeItems false 6 [(0, checkoutLayout)] = below checkoutStep.lines := by
  decide +kernel

theorem write_uses {name action : String} {fields : List (Nat × Word × Layout)}
    {inputs : List Input} (some : inputs ≠ [])
    (h : Layout.writeFields false 10 fields = below (inputs.flatMap Step.inputLines)) :
    Layout.writeItems false 6 [(1, usesLayout name action fields)] =
      below (Step.block (.uses name action inputs)) := by
  have uses : Layout.writeFields false 8 [field "uses" (plain action)] =
      below ["        uses: " ++ action] :=
    write_field (by simp [plain, Word.ofText, Layout.write])
  have inputsBelow : Layout.writeFields false 8 [field "with" (.record fields)] =
      below ("        with:" :: inputs.flatMap Step.inputLines) := by
    have key : nextLine 0 8 ++ "with".toList ++ [':'] = below ["        with:"] := by decide
    rw [field, Layout.writeFields_record, h]
    change (nextLine 0 8 ++ "with".toList ++ [':']) ++ _ = _
    rw [key, ← below_append, List.singleton_append]
  have lines : Layout.writeFields false 8
      ([field "uses" (plain action)] ++ [field "with" (.record fields)]) =
        below (("        uses: " ++ action) ::
          "        with:" :: inputs.flatMap Step.inputLines) := by
    rw [Layout.writeFields_append, uses, inputsBelow, ← below_append, List.singleton_append]
  refine (write_step lines).trans ?_
  simp [Step.block, Step.uses, Step.lines, Step.actionLine, some]

theorem write_node (p : Pages) :
    Layout.writeItems false 6 [(1, p.nodeLayout)] = below p.nodeStep.block := by
  have version : Layout.writeFields false 10
      [field "node-version" (.quoted .double p.nodeVersion)] =
        below ["          node-version: " ++ ("\"" ++ p.nodeVersion ++ "\"")] :=
    write_field (by simp [Layout.write, Quote.mark])
  refine write_uses (List.cons_ne_nil _ _) ?_
  cases p.useCache with
  | false => exact version
  | true =>
    have cached : Layout.writeFields false 10 [field "cache" (.quoted .single "npm")] =
        below ["          cache: 'npm'"] := by
      decide
    refine (Layout.writeFields_append [_] [_] 10).trans ?_
    rw [version, cached, ← below_append]
    rfl

section Spliced
variable {s : String} (tidy : Text.IsTidy s.toList)
include tidy

theorem write_run (name : String) : Layout.writeItems false 6 [(1, runLayout name s)] =
    below (Step.block (.run name s)) :=
  write_step (write_field (write_spliced tidy false 8))

theorem write_upload : Layout.writeItems false 6 [(1, uploadLayout s)] =
    below (Step.block (.uses "Upload artifact" "actions/upload-pages-artifact@v3"
      [.pair "path" s])) :=
  write_uses (List.cons_ne_nil _ _) (write_field (write_spliced tidy false 10))

end Spliced

theorem write_deploy :
    Layout.writeFields false 2 [spaced "deploy" deployLayout] = below deployJob := by
  decide +kernel

structure SplicedTidy (p : Pages) : Prop where
  install : Text.IsTidy p.installCommand.toList
  build : Text.IsTidy p.buildCommand.toList
  output : Text.IsTidy p.outputDir.toList

theorem write_steps {p : Pages} (tidy : p.SplicedTidy) :
    Layout.writeItems false 6 ((0, checkoutLayout) :: p.stepLayouts) =
      below (checkoutStep.lines ++ Step.blocks p.buildSteps) := by
  have blocks : Step.blocks p.buildSteps = p.nodeStep.block ++
      (Step.block (.run "Install dependencies" p.installCommand) ++
        (Step.block (.run "Build" p.buildCommand) ++ Step.block (.uses "Upload artifact"
          "actions/upload-pages-artifact@v3" [.pair "path" p.outputDir]))) := by
    simp [Step.blocks, buildSteps]
  rw [blocks, stepLayouts]
  simp only [below_append, ← write_checkout, ← write_node, ← write_run tidy.install,
    ← write_run tidy.build, ← write_upload tidy.output]
  simp only [Layout.writeItems, List.append_nil, List.append_assoc]

theorem write_jobs {p : Pages} (tidy : p.SplicedTidy) :
    Layout.writeFields false 0 [spaced "jobs" (.record [
      field "build" p.buildLayout, spaced "deploy" deployLayout])] =
        below (p.buildJob ++ deployJob) := by
  have build : Layout.writeFields false 2 [field "build" p.buildLayout] =
      below ["  build:", "    runs-on: ubuntu-latest", "    steps:"] ++
        below (checkoutStep.lines ++ Step.blocks p.buildSteps) := by
    rw [← write_steps tidy]
    simp only [buildLayout, field, plain, Word.ofText, Layout.write, Layout.writeFields,
      List.append_assoc, List.cons_append, List.append_nil]
    rfl
  have jobs : p.buildJob = ["", "jobs:"] ++
      (["  build:", "    runs-on: ubuntu-latest", "    steps:"] ++
        (checkoutStep.lines ++ Step.blocks p.buildSteps)) := rfl
  have head : nextLine 1 0 ++ "jobs".toList ++ [':'] = below ["", "jobs:"] := by decide
  rw [jobs, below_append, below_append, below_append ["  build:", _, _], ← build, ← write_deploy,
    List.append_assoc, ← Layout.writeFields_append, ← head]
  exact Layout.writeFields_record 1 _ _ 0

theorem toList_workflow {p : Pages} (tidy : p.SplicedTidy) :
    p.workflow.toList = Layout.document p.layout := by
  have lines : p.header ++ p.buildJob ++ deployJob = "name: Deploy to GitHub Pages" ::
      (["", "on:", "  push:", "    branches: [\"" ++ p.branch ++ "\"]", "  workflow_dispatch:"] ++
        (["", "permissions:", "  contents: read", "  pages: write", "  id-token: write",
          "", "concurrency:", "  group: \"pages\"", "  cancel-in-progress: true"] ++
            (p.buildJob ++ deployJob))) := by
    simp [header]
  rw [workflow, lines, toList_unlines, below_append, below_append, ← write_trigger,
    ← write_settings, ← write_jobs tidy, ← Layout.writeFields_append, ← Layout.writeFields_append]
  rfl

end Text

section Fits

theorem fits_plain {s : String} : (plain s).Fits ↔ IsWord s :=
  ⟨fun h => Word.reads_ofText_iff.1 h.1, fun h => ⟨Word.reads_ofText_iff.2 h, .nothing⟩⟩

theorem reads_true : (⟨"true", .bool true⟩ : Word).Reads where
  stands := by decide
  value := by
    have tag : Tag.ofPlain "true".toList = .bool := by decide
    change scalarValue (Tag.ofPlain "true".toList) (flagWord true) = _
    rw [tag, scalarValue, readBool_flagWord]
    rfl

theorem names_on : (⟨"on", .bool true⟩ : Word).Names where
  stands := by decide
  value := by
    have tag : Tag.ofPlain "on".toList = .bool := by decide
    have lower : "on".toLower = "on" := by
      apply String.toList_inj.1
      unfold String.toLower
      rw [String.toList_map]
      decide
    change scalarValue (Tag.ofPlain "on".toList) "on" = _
    rw [tag, scalarValue, readBool, lower, if_pos (by decide)]
    rfl
  short := by decide
  marker := by decide

theorem apart_texts (ks : List String) (h : ks.Nodup) :
    (ks.map Value.text).Pairwise fun a b => Value.sameKey b a = false := by
  refine List.pairwise_map.2 (h.imp fun differ => ?_)
  simpa [Value.sameKey, Value.key?] using Ne.symm differ

theorem fits_cons {k : String} {x : Layout} {n : Nat} {fields : List (Nat × Word × Layout)}
    (name : IsName k) (h : x.Fits) (rest : Layout.FieldsFit fields) :
    Layout.FieldsFit ((n, .ofText k, x) :: fields) :=
  ⟨Word.names_ofText_iff.2 name, h, rest⟩

theorem fits_settings : Layout.FieldsFit settingsLayout := by
  simp only [settingsLayout, field, spaced, Layout.FieldsFit, Layout.Fits, fits_plain,
    Word.names_ofText_iff, reads_true, IsRemark.nothing, List.map_cons, List.map_nil]
  decide +kernel

theorem fits_checkout : checkoutLayout.Fits := by
  simp only [checkoutLayout, stepLayout, field, Layout.FieldsFit, Layout.Fits, fits_plain,
    Word.names_ofText_iff, List.map_cons, List.map_nil]
  decide +kernel

theorem fits_deploy : deployLayout.Fits := by
  simp only [deployLayout, stepLayout, field, Layout.FieldsFit, Layout.ItemsFit, Layout.Fits,
    fits_plain, Word.names_ofText_iff, List.map_cons, List.map_nil]
  decide +kernel

theorem fits_run {name s : String} (word : IsWord name) (h : (Layout.spliced s).Fits) :
    (runLayout name s).Fits :=
  ⟨List.cons_ne_nil _ _, apart_texts ["name", "run"] (by decide),
    fits_cons (by decide) (fits_plain.2 word) (fits_cons (by decide) h trivial)⟩

theorem fits_uses {name action : String} {inputs : List (Nat × Word × Layout)}
    (word : IsWord name) (uses : IsWord action) (h : (Layout.record inputs).Fits) :
    (usesLayout name action inputs).Fits :=
  ⟨List.cons_ne_nil _ _, apart_texts ["name", "uses", "with"] (by decide),
    fits_cons (by decide) (fits_plain.2 word)
      (fits_cons (by decide) (fits_plain.2 uses) (fits_cons (by decide) h trivial))⟩

/-- Quotes hold the branch and the version, and each other value stands on its own. -/
structure Standing (p : Pages) : Prop where
  branch : Quote.double.Holds p.branch
  nodeVersion : Quote.double.Holds p.nodeVersion
  install : (Layout.spliced p.installCommand).Fits
  build : (Layout.spliced p.buildCommand).Fits
  output : (Layout.spliced p.outputDir).Fits

section Standing
variable {p : Pages} (h : p.Standing)
include h

theorem fits_trigger : Layout.FieldsFit [p.triggerLayout] := by
  have branches : (Layout.record [field "branches" (.bracketed p.branch)]).Fits :=
    ⟨List.cons_ne_nil _ _, List.pairwise_singleton _ _, fits_cons (by decide) h.branch trivial⟩
  have events : (Layout.record [field "push" (.record [field "branches" (.bracketed p.branch)]),
      field "workflow_dispatch" .absent]).Fits :=
    ⟨List.cons_ne_nil _ _, apart_texts ["push", "workflow_dispatch"] (by decide),
      fits_cons (by decide) branches (fits_cons (by decide) trivial trivial)⟩
  exact ⟨names_on, events, trivial⟩

theorem fits_node : p.nodeLayout.Fits := by
  refine fits_uses (by decide) (by decide) ?_
  cases p.useCache with
  | false =>
    exact ⟨List.cons_ne_nil _ _, List.pairwise_singleton _ _,
      fits_cons (by decide) h.nodeVersion trivial⟩
  | true =>
    have cached : (Layout.quoted .single "npm").Fits := by
      change Quote.single.Holds "npm"
      decide
    exact ⟨List.cons_ne_nil _ _, apart_texts ["node-version", "cache"] (by decide),
      fits_cons (by decide) h.nodeVersion (fits_cons (by decide) cached trivial)⟩

theorem fits_upload : (uploadLayout p.outputDir).Fits :=
  fits_uses (by decide) (by decide +kernel) ⟨List.cons_ne_nil _ _, List.pairwise_singleton _ _,
    fits_cons (by decide) h.output trivial⟩

theorem fits_build : p.buildLayout.Fits := by
  have steps : Layout.ItemsFit ((0, checkoutLayout) :: p.stepLayouts) :=
    ⟨fits_checkout, fits_node h, fits_run (by decide) h.install, fits_run (by decide) h.build,
      fits_upload h, trivial⟩
  exact ⟨List.cons_ne_nil _ _, apart_texts ["runs-on", "steps"] (by decide),
    fits_cons (by decide) (fits_plain.2 (by decide))
      (fits_cons (by decide) ⟨List.cons_ne_nil _ _, steps⟩ trivial)⟩

theorem fits_layout : (Layout.record p.layout).Fits := by
  have jobs : (Layout.record [field "build" p.buildLayout, spaced "deploy" deployLayout]).Fits :=
    ⟨List.cons_ne_nil _ _, apart_texts ["build", "deploy"] (by decide),
      fits_cons (by decide) (fits_build h) (fits_cons (by decide) fits_deploy trivial)⟩
  have apart : [Value.text "name", .bool true, .text "permissions", .text "concurrency",
      .text "jobs"].Pairwise fun a b => Value.sameKey b a = false := by
    decide
  have fields : Layout.FieldsFit p.layout :=
    fits_cons (by decide) (fits_plain.2 (by decide))
      (Layout.fieldsFit_append (fits_trigger h)
        (Layout.fieldsFit_append fits_settings (fits_cons (by decide) jobs trivial)))
  exact ⟨List.cons_ne_nil _ _, apart, fields⟩

end Standing

end Fits

end CiWorkflow.Pages
