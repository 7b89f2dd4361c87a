import CiWorkflow.Config.Field

set_option autoImplicit false

namespace CiWorkflow

inductive Output where
  | registry
  | ociLocal
  deriving DecidableEq, Repr

def Output.text : Output → String
  | registry => "REGISTRY"
  | ociLocal => "OCI_LOCAL"

def Output.all : List Output := [registry, ociLocal]

def Output.ofText? (s : String) : Option Output := all.find? fun o => o.text == s

theorem Output.ofText?_text (o : Output) : ofText? o.text = some o := by
  cases o <;> decide

def Output.ofValue? : Value → Option Output
  | .text s => ofText? s
  | _ => none

/-- A parameter of the build. The value of a dynamic one is evaluated by the shell when the
workflow runs. -/
structure BuildArg where
  id : String
  key : String
  value : String
  isDynamic : Bool
  deriving DecidableEq, Repr

namespace BuildArg

def title : String := "BuildArgument"

def idField : Field := ⟨"id", "id"⟩
def keyField : Field := ⟨"key", "key"⟩
def valueField : Field := ⟨"value", "value"⟩
def dynamicField : Field := ⟨"is_dynamic", "isDynamic"⟩

def fields : List Field := [idField, keyField, valueField, dynamicField]

/-- An argument without an id gets a fresh one. -/
def ofEntries (data : Entries) : Check BuildArg :=
  ((Check.ok mk).also (idField.check data .freshId checkText)
    |>.also (keyField.check data (.ok "NEW_ARG") checkText)
    |>.also (valueField.check data (.ok "value") (checkWarnedText "value"))
    |>.also (dynamicField.check data (.ok false) checkFlag)
    |>.map fun a _ => a)
    |>.also (checkKeys fields data)

def ofValue : Value → Check BuildArg := checkRecord title ofEntries

def entries (spelling : Spelling) (a : BuildArg) : Entries := [
  idField.entry spelling (.text a.id),
  keyField.entry spelling (.text a.key),
  valueField.entry spelling (.text a.value),
  dynamicField.entry spelling (.bool a.isDynamic)]

def update (a : BuildArg) (changes : Entries) : Check BuildArg :=
  ofEntries (changed (a.entries .name) changes)

end BuildArg

structure Container where
  imageName : String
  registry : String
  tags : String
  dockerfilePath : String
  platforms : List String
  output : Output
  provenance : Bool
  rewriteTimestamp : Bool
  buildArgs : List BuildArg
  deriving DecidableEq, Repr

def checkOutputText (s : String) : Check Output :=
  match Output.ofText? s with
  | some o => .ok o
  | none => .issue .notOutput

def checkOutput : Value → Check Output
  | .text s => checkOutputText s
  | .bytes bs => match String.fromUTF8? (ByteArray.mk bs.toArray) with
    | some s => checkOutputText s
    | none => .issue .notOutput
  | _ => .issue .notOutput

/-- Texts without repetitions, the first of equal ones kept. -/
def checkPlatforms (v : Value) : Check (List String) :=
  (checkList checkText v).map List.eraseDups

namespace Container

def title : String := "ContainerBuildConfig"

def imageNameField : Field := ⟨"image_name", "imageName"⟩
def registryField : Field := ⟨"registry", "registry"⟩
def tagsField : Field := ⟨"tags", "tags"⟩
def dockerfileField : Field := ⟨"dockerfile_path", "dockerfilePath"⟩
def platformsField : Field := ⟨"platforms", "platforms"⟩
def outputField : Field := ⟨"output_type", "outputType"⟩
def provenanceField : Field := ⟨"provenance", "provenance"⟩
def rewriteField : Field := ⟨"rewrite_timestamp", "rewriteTimestamp"⟩
def buildArgsField : Field := ⟨"build_args", "buildArgs"⟩

def fields : List Field := [
  imageNameField, registryField, tagsField, dockerfileField, platformsField, outputField,
  provenanceField, rewriteField, buildArgsField]

/-- What holds where a field is not given. -/
def initial : Container := {
  imageName := "my-org/my-app"
  registry := "docker.io"
  tags := "latest"
  dockerfilePath := "./Dockerfile"
  platforms := ["linux/amd64", "linux/arm64"]
  output := .registry
  provenance := false
  rewriteTimestamp := true
  buildArgs := [] }

def ofEntries (data : Entries) : Check Container :=
  ((Check.ok mk).also (imageNameField.check data (.ok initial.imageName) checkText)
    |>.also (registryField.check data (.ok initial.registry) checkText)
    |>.also (tagsField.check data (.ok initial.tags) (checkWarnedText "tags"))
    |>.also (dockerfileField.check data (.ok initial.dockerfilePath) checkText)
    |>.also (platformsField.check data (.ok initial.platforms) checkPlatforms)
    |>.also (outputField.check data (.ok initial.output) checkOutput)
    |>.also (provenanceField.check data (.ok initial.provenance) checkFlag)
    |>.also (rewriteField.check data (.ok initial.rewriteTimestamp) checkFlag)
    |>.also (buildArgsField.check data (.ok initial.buildArgs) (checkList BuildArg.ofValue))
    |>.map fun c _ => c)
    |>.also (checkKeys fields data)

def ofValue : Value → Check Container := checkRecord title ofEntries

def entries (spelling : Spelling) (c : Container) : Entries := [
  imageNameField.entry spelling (.text c.imageName),
  registryField.entry spelling (.text c.registry),
  tagsField.entry spelling (.text c.tags),
  dockerfileField.entry spelling (.text c.dockerfilePath),
  platformsField.entry spelling (.list (c.platforms.map .text)),
  outputField.entry spelling (.text c.output.text),
  provenanceField.entry spelling (.bool c.provenance),
  rewriteField.entry spelling (.bool c.rewriteTimestamp),
  buildArgsField.entry spelling (.list (c.buildArgs.map fun a => .map (a.entries spelling)))]

def update (c : Container) (changes : Entries) : Check Container :=
  ofEntries (changed (c.entries .name) changes)

def sample : Container := { initial with
  buildArgs := [
    ⟨"1", "GOPRIVATE", "gopkg.openfuyao.cn", false⟩,
    ⟨"2", "VERSION", "0.0.0-latest", false⟩,
    ⟨"3", "COMMIT", "$(git rev-parse HEAD)", true⟩,
    ⟨"4", "SOURCE_DATE_EPOCH", "$(git log -1 --pretty=%ct)", true⟩] }

def dynamicArgs (c : Container) : List BuildArg := c.buildArgs.filter (·.isDynamic)

def epochKey : String := "SOURCE_DATE_EPOCH"

/-- With timestamp rewriting on, arguments that the rewriting's own argument replaces. -/
def shadowedArgs (c : Container) : List BuildArg :=
  if c.rewriteTimestamp then c.buildArgs.filter (·.key == epochKey) else []

end Container

end CiWorkflow
