import CiWorkflow.Config.Container
import CiWorkflow.Workflow.Step

set_option autoImplicit false

namespace CiWorkflow

open Workflow

namespace Output

def verb : Output → String
  | registry => "Push"
  | ociLocal => "Export"

def logsIn : Output → Bool
  | registry => true
  | ociLocal => false

def uploads : Output → Bool
  | registry => false
  | ociLocal => true

def archive : String := "/tmp/oci-image.tar"

def notPullRequest : String := "github.event_name != 'pull_request'"

def clause : Output → String × String
  | registry => ("push", expr notPullRequest)
  | ociLocal => ("outputs", "type=oci,dest=" ++ archive)

def clauseText (o : Output) : String := o.clause.1 ++ ": " ++ o.clause.2

end Output

namespace Container

structure Export where
  name : String
  key : String
  value : String
  deriving DecidableEq, Repr

def Export.step (e : Export) : Step :=
  .run e.name ("echo \"" ++ e.key ++ "=" ++ e.value ++ "\" >> $GITHUB_ENV")

def epochCommand : String := "$(git log -1 --pretty=%ct)"

/-- The export of the commit's time is left to a dynamic argument of its key. -/
def needsEpoch (c : Container) : Bool :=
  c.rewriteTimestamp && !(c.dynamicArgs.any (·.key == epochKey))

def argExport (a : BuildArg) : Export := ⟨"Set dynamic build arg " ++ a.key, a.key, a.value⟩

def epochExport : Export := ⟨"Set source date epoch", epochKey, epochCommand⟩

def exports (c : Container) : List Export :=
  c.dynamicArgs.map argExport ++ (if c.needsEpoch then [epochExport] else [])

inductive Source where
  | literal (value : String)
  /-- The variable of the entry's own key. -/
  | variable
  deriving DecidableEq, Repr

structure ArgEntry where
  key : String
  source : Source
  deriving DecidableEq, Repr

def ArgEntry.text (e : ArgEntry) : String :=
  e.key ++ "=" ++ (match e.source with
    | .literal value => value
    | .variable => envRef e.key)

def argEntry (a : BuildArg) : ArgEntry :=
  ⟨a.key, if a.isDynamic then .variable else .literal a.value⟩

/-- With timestamp rewriting on, the commit's time leads and stands for every argument of its
key. -/
def argEntries (c : Container) : List ArgEntry :=
  (if c.rewriteTimestamp then [⟨epochKey, .variable⟩] else [])
    ++ (c.buildArgs.filter fun a => !c.shadowedArgs.contains a).map argEntry

theorem contains_shadowedArgs {c : Container} {a : BuildArg} (h : a ∈ c.buildArgs) :
    c.shadowedArgs.contains a = (c.rewriteTimestamp && a.key == epochKey) := by
  cases hr : c.rewriteTimestamp with
  | false => simp [shadowedArgs, hr]
  | true =>
    rw [Bool.eq_iff_iff]
    simp [shadowedArgs, hr, h]

theorem argEntries_eq (c : Container) :
    c.argEntries = (if c.rewriteTimestamp then [⟨epochKey, .variable⟩] else []) ++
      (c.buildArgs.filter fun a => !(c.rewriteTimestamp && a.key == epochKey)).map argEntry := by
  have kept : (c.buildArgs.filter fun a => !c.shadowedArgs.contains a) =
      c.buildArgs.filter fun a => !(c.rewriteTimestamp && a.key == epochKey) :=
    List.filter_congr fun a ha => by rw [contains_shadowedArgs ha]
  rw [argEntries, kept]

def argTexts (c : Container) : List String := c.argEntries.map (·.text)

def tagRef (c : Container) : Output → String
  | .registry => envRef "REGISTRY" ++ "/" ++ envRef "IMAGE_NAME" ++ ":" ++ c.tags
  | .ociLocal => c.imageName ++ ":" ++ c.tags

def checkoutStep : Step :=
  .uses "Checkout repository" checkoutAction [.pair "fetch-depth" "0"]

def header (c : Container) : List String := [
  "name: Docker Build",
  "on:",
  "  push:",
  "    branches: [ \"main\" ]",
  "  pull_request:",
  "    branches: [ \"main\" ]",
  "",
  "env:",
  "  REGISTRY: " ++ c.registry,
  "  IMAGE_NAME: " ++ c.imageName,
  "",
  "jobs:",
  "  build:",
  "    runs-on: " ++ runner,
  "    permissions:",
  "      contents: read",
  "      packages: write",
  "",
  "    steps:"] ++ checkoutStep.lines

def exportSteps (c : Container) : List Step := c.exports.map (·.step)

def toolSteps : List Step := [
  .uses "Set up QEMU" "docker/setup-qemu-action@v3" [],
  .uses "Set up Docker Buildx" "docker/setup-buildx-action@v3" []]

def loginStep : Step := {
  name := "Log into registry " ++ envRef "REGISTRY"
  id := none
  condition := some Output.notPullRequest
  action := .uses "docker/login-action@v3"
  inputs := [
    .pair "registry" (envRef "REGISTRY"),
    .pair "username" (expr "github.actor"),
    .pair "password" (expr "secrets.GITHUB_TOKEN")] }

def loginSteps (o : Output) : List Step := if o.logsIn then [loginStep] else []

def buildStep (c : Container) (o : Output) : Step :=
  .uses ("Build and " ++ o.verb) "docker/build-push-action@v5" [
    .pair "context" ".",
    .pair "file" c.dockerfilePath,
    .pair "platforms" (",".intercalate c.platforms),
    .pair "tags" (c.tagRef o),
    .pair o.clause.1 o.clause.2,
    .pair "provenance" (if c.provenance then "true" else "false"),
    .block "build-args" c.argTexts,
    .pair "cache-from" "type=gha",
    .pair "cache-to" "type=gha,mode=max"]

def uploadStep : Step :=
  .uses "Upload OCI Artifact" "actions/upload-artifact@v4" [
    .pair "name" "oci-image",
    .pair "path" Output.archive,
    .pair "retention-days" "1"]

def uploadSteps (o : Output) : List Step := if o.uploads then [uploadStep] else []

def steps (c : Container) : List Step :=
  c.exportSteps ++ toolSteps ++ loginSteps c.output ++ [c.buildStep c.output]
    ++ uploadSteps c.output

def workflow (c : Container) : String := unlines (c.header ++ Step.blocks c.steps)

end Container

end CiWorkflow
