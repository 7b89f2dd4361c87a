import CiWorkflow.Config.Container
import CiWorkflow.Config.Pages
import CiWorkflow.Log
import CiWorkflow.Yaml.Meaning
import CiWorkflow.Yaml.Written

set_option autoImplicit false

namespace CiWorkflow

inductive FileContent where
  | absent
  | directory
  | bytes (content : ByteArray)

inductive LoadError where
  | notFound (path : String)
  | unreadable (path : String)
  | malformed (path : String)
  | notMapping (path : String)
  | invalid (path : String) (record : String) (issues : List Issue)

def LoadError.message : LoadError → String
  | .notFound path => "Configuration file not found: " ++ path
  | .unreadable path => s!"Cannot read configuration file {path}: ..."
  | .malformed path => s!"Invalid configuration file {path}: ..."
  | .notMapping path => s!"Configuration file {path} must contain a mapping"
  | .invalid path _ _ => s!"Invalid configuration in {path}: ..."

inductive LoadFailure where
  | refused (error : LoadError)
  /-- A scalar looks like a value of some type and is none. -/
  | scalar (fault : Yaml.Fault)
  /-- A whole number stands where a text is to be, and is too long for one. -/
  | longNumber

def unifyNewlines : List Char → List Char
  | '\r' :: '\n' :: r => '\n' :: unifyNewlines r
  | '\r' :: r => '\n' :: unifyNewlines r
  | c :: r => c :: unifyNewlines r
  | [] => []

def readEntries [Half] (path : String) : FileContent → Except LoadFailure Entries
  | .absent => .error (.refused (.notFound path))
  | .directory => .error (.refused (.unreadable path))
  | .bytes content =>
    match String.fromUTF8? content with
    | none => .error (.refused (.unreadable path))
    | some text =>
      match Yaml.read (unifyNewlines text.toList) with
      | .error .malformed => .error (.refused (.malformed path))
      | .error fault => .error (.scalar fault)
      | .ok .null => .ok []
      | .ok (.map entries) => .ok entries
      | .ok _ => .error (.refused (.notMapping path))

structure Loaded (α : Type) where
  drawn : Nat
  log : List LogEntry
  result : Except LoadFailure α

def loadedEntry (title path : String) : LogEntry :=
  ⟨.debug, .files, "Loaded " ++ title ++ " from " ++ path⟩

def loadWith [Half] {α : Type} (title : String) (check : Entries → Check α) (path : String)
    (content : FileContent) (drawn : Nat) : Loaded α :=
  match readEntries path content with
  | .error failure => ⟨drawn, [], .error failure⟩
  | .ok entries =>
    let c := check entries drawn
    let log := c.warnings.map Warning.entry
    match c.result with
    | .ok config => ⟨c.drawn, log ++ [loadedEntry title path], .ok config⟩
    | .error (.issues found) => ⟨c.drawn, log, .error (.refused (.invalid path title found))⟩
    | .error .longNumber => ⟨c.drawn, log, .error .longNumber⟩

def BuildArg.load [Half] : (path : String) → FileContent → (drawn : Nat) → Loaded BuildArg :=
  loadWith BuildArg.title BuildArg.ofEntries

def Container.load [Half] : (path : String) → FileContent → (drawn : Nat) → Loaded Container :=
  loadWith Container.title Container.ofEntries

def Pages.load [Half] : (path : String) → FileContent → (drawn : Nat) → Loaded Pages :=
  loadWith Pages.title Pages.ofEntries

open Yaml (Content)

def BuildArg.members (a : BuildArg) : List (String × Content) := [
  (idField.camel, .text a.id),
  (keyField.camel, .text a.key),
  (valueField.camel, .text a.value),
  (dynamicField.camel, .flag a.isDynamic)]

def BuildArg.dump (a : BuildArg) : String := Yaml.write a.members

def Container.members (c : Container) : List (String × Content) := [
  (imageNameField.camel, .text c.imageName),
  (registryField.camel, .text c.registry),
  (tagsField.camel, .text c.tags),
  (dockerfileField.camel, .text c.dockerfilePath),
  (platformsField.camel, .list (c.platforms.map .text)),
  (outputField.camel, .text c.output.text),
  (provenanceField.camel, .flag c.provenance),
  (rewriteField.camel, .flag c.rewriteTimestamp),
  (buildArgsField.camel, .list (c.buildArgs.map fun a => .record a.members))]

def Container.dump (c : Container) : String := Yaml.write c.members

def Pages.members (p : Pages) : List (String × Content) := [
  (branchField.camel, .text p.branch),
  (nodeVersionField.camel, .text p.nodeVersion),
  (installField.camel, .text p.installCommand),
  (buildField.camel, .text p.buildCommand),
  (outputDirField.camel, .text p.outputDir),
  (cacheField.camel, .flag p.useCache)]

def Pages.dump (p : Pages) : String := Yaml.write p.members

end CiWorkflow
