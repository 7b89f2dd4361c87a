import CiWorkflow.Cli.Command
import CiWorkflow.Config.Container
import CiWorkflow.Config.Pages

set_option autoImplicit false

namespace CiWorkflow.Cli

def kindNames : List String := ["docker", "pages"]

def documentOption : Opt :=
  ⟨"--output", some 'o', none, .file, "Write the workflow to a file instead of stdout"⟩

def configOption (help : String) : Opt := ⟨"--config", none, none, .file, help⟩

namespace Docker

def config : Opt :=
  configOption "YAML or JSON build configuration (defaults are used when omitted)"

def imageName : Opt := .text "--image-name" "Image name, e.g. my-org/my-app"

def registry : Opt := .text "--registry" "Registry host, e.g. ghcr.io"

def tags : Opt := .text "--tags" "Image tag"

def dockerfile : Opt := .text "--dockerfile" "Path to the Dockerfile"

def platform : Opt :=
  .text "--platform" "Target platform (repeatable, replaces configured platforms)"

def outputNames : List String := Output.all.map fun o => o.text.map Char.toLower

def outputType : Opt :=
  ⟨"--output-type", none, none, .choice outputNames,
    "Push to a registry or export a local OCI archive"⟩

def provenance : Opt :=
  .switch "--provenance" "--no-provenance" "Emit build provenance attestations"

def rewriteTimestamp : Opt :=
  .switch "--rewrite-timestamp" "--no-rewrite-timestamp"
    "Pass SOURCE_DATE_EPOCH for reproducible builds"

def buildArg : Opt :=
  ⟨"--build-arg", none, none, .pair "KEY=VALUE", "Static build argument (repeatable)"⟩

def dynamicArg : Opt :=
  ⟨"--dynamic-arg", none, none, .pair "KEY=EXPR",
    "Build argument evaluated by the shell at run time (repeatable)"⟩

def clearBuildArgs : Opt :=
  .flag "--clear-build-args" "Drop configured build arguments before adding new ones"

def interactive : Opt :=
  ⟨"--interactive", some 'i', none, .flag, "Choose platforms and output type interactively"⟩

def command : Command := {
  name := "docker"
  summary := "Generate a multi-platform Docker build workflow"
  details := none
  options := [
    config, imageName, registry, tags, dockerfile, platform, outputType, provenance,
    rewriteTimestamp, buildArg, dynamicArg, clearBuildArgs, interactive, documentOption,
    helpOption]
  operand := .none }

def entry? (f : Field) (v : Option Value) : Entries := (v.map (f.entry .name)).toList

def changes (a : Arguments) : Entries :=
  let text (o : Opt) : Option Value := (a.value? o).map .text
  let flag (o : Opt) : Option Value := (a.switch? o).map .bool
  let platforms := a.values platform
  entry? Container.imageNameField (text imageName)
    ++ entry? Container.registryField (text registry)
    ++ entry? Container.tagsField (text tags)
    ++ entry? Container.dockerfileField (text dockerfile)
    ++ entry? Container.provenanceField (flag provenance)
    ++ entry? Container.rewriteField (flag rewriteTimestamp)
    ++ entry? Container.platformsField
      (if platforms.isEmpty then none else some (.list (platforms.map .text)))
    ++ entry? Container.outputField
      (((a.value? outputType).bind (chosen? outputNames)).map fun name =>
        .text (name.map Char.toUpper))
    ++ entry? Container.buildArgsField
      (if a.has clearBuildArgs then some (.list []) else none)

def pairs (a : Arguments) (o : Opt) : List (String × String) :=
  (KeyValue.readItems (a.values o)).toOption.getD []

end Docker

namespace Site

def config : Opt :=
  configOption "YAML or JSON deploy configuration (defaults are used when omitted)"

def branch : Opt := .text "--branch" "Branch whose pushes trigger a deploy"

def nodeVersion : Opt := .text "--node-version" "Node.js version for the build job"

def installCommand : Opt := .text "--install-command" "Dependency install command"

def buildCommand : Opt := .text "--build-command" "Site build command"

def outputDir : Opt := .text "--output-dir" "Directory holding the built site"

def cache : Opt :=
  .switch "--cache" "--no-cache"
    "Cache npm dependencies (switches the install command to match)"

def command : Command := {
  name := "pages"
  summary := "Generate a GitHub Pages deploy workflow"
  details := none
  options := [
    config, branch, nodeVersion, installCommand, buildCommand, outputDir, cache, documentOption,
    helpOption]
  operand := .none }

def changes (a : Arguments) : Entries :=
  let text (f : Field) (o : Opt) : Entries := Docker.entry? f ((a.value? o).map .text)
  text Pages.branchField branch
    ++ text Pages.nodeVersionField nodeVersion
    ++ text Pages.installField installCommand
    ++ text Pages.buildField buildCommand
    ++ text Pages.outputDirField outputDir
    ++ Docker.entry? Pages.cacheField ((a.switch? cache).map .bool)

end Site

namespace Defaults

def command : Command := {
  name := "defaults"
  summary := "Print the default configuration as YAML"
  details := some "Redirect the output to a file and pass it back with --config."
  options := [helpOption]
  operand := .choice kindNames }

end Defaults

namespace Show

def config : Opt :=
  configOption "YAML or JSON configuration (defaults are shown when omitted)"

def command : Command := {
  name := "show"
  summary := "Display a summary of a workflow configuration"
  details := none
  options := [config, helpOption]
  operand := .choice kindNames }

end Show

namespace Draft

def apiKey : Opt := .text "--api-key" "Gemini API key"

def model : Opt := .text "--model" "Model used for generation"

def output : Opt :=
  ⟨"--output", some 'o', none, .file, "Write the Dockerfile to a file instead of stdout"⟩

def command : Command := {
  name := "dockerfile"
  summary := "Draft a Dockerfile from a plain-language DESCRIPTION"
  details := some "The generated text is not validated; review it before use."
  options := [apiKey, model, output, helpOption]
  operand := .words "DESCRIPTION" }

end Draft

def verboseOption : Opt := ⟨"--verbose", some 'v', none, .flag, "Enable debug logging"⟩

inductive Task where
  | defaults
  | docker
  | draft
  | pages
  | summary
  deriving DecidableEq, Repr

namespace Task

def all : List Task := [defaults, docker, draft, pages, summary]

def command : Task → Command
  | defaults => Defaults.command
  | docker => Docker.command
  | draft => Draft.command
  | pages => Site.command
  | summary => Show.command

def ofName? (name : String) : Option Task := all.find? fun t => t.command.name == name

def names : List String := all.map fun t => t.command.name

end Task

def wholeProgram : Program := {
  summary :=
    "ActionForge - Generate GitHub Actions workflows for container builds and Pages deploys"
  options := [verboseOption, helpOption]
  commands := Task.all.map Task.command }

end CiWorkflow.Cli
