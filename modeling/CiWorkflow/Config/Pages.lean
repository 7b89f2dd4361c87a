import CiWorkflow.Config.Field

set_option autoImplicit false

namespace CiWorkflow

structure Pages where
  branch : String
  nodeVersion : String
  installCommand : String
  buildCommand : String
  outputDir : String
  useCache : Bool
  deriving DecidableEq, Repr

def installCommandFor (useCache : Bool) : String :=
  if useCache then "npm ci" else "npm install"

namespace Pages

def title : String := "PagesDeployConfig"

def branchField : Field := ⟨"branch", "branch"⟩
def nodeVersionField : Field := ⟨"node_version", "nodeVersion"⟩
def installField : Field := ⟨"install_command", "installCommand"⟩
def buildField : Field := ⟨"build_command", "buildCommand"⟩
def outputDirField : Field := ⟨"output_dir", "outputDir"⟩
def cacheField : Field := ⟨"use_cache", "useCache"⟩

def fields : List Field := [
  branchField, nodeVersionField, installField, buildField, outputDirField, cacheField]

def initial : Pages := {
  branch := "main"
  nodeVersion := "20"
  installCommand := installCommandFor false
  buildCommand := "npm run build"
  outputDir := "./dist"
  useCache := false }

def ofEntries (data : Entries) : Check Pages :=
  ((Check.ok mk).also (branchField.check data (.ok initial.branch) checkText)
    |>.also (nodeVersionField.check data (.ok initial.nodeVersion) (checkWarnedText "node_version"))
    |>.also (installField.check data (.ok initial.installCommand) checkText)
    |>.also (buildField.check data (.ok initial.buildCommand) checkText)
    |>.also (outputDirField.check data (.ok initial.outputDir) checkText)
    |>.also (cacheField.check data (.ok initial.useCache) checkFlag)
    |>.map fun p _ => p)
    |>.also (checkKeys fields data)

def ofValue : Value → Check Pages := checkRecord title ofEntries

def entries (spelling : Spelling) (p : Pages) : Entries := [
  branchField.entry spelling (.text p.branch),
  nodeVersionField.entry spelling (.text p.nodeVersion),
  installField.entry spelling (.text p.installCommand),
  buildField.entry spelling (.text p.buildCommand),
  outputDirField.entry spelling (.text p.outputDir),
  cacheField.entry spelling (.bool p.useCache)]

/-- A change of the cache takes the install command along, unless that is changed too. -/
def update (p : Pages) (changes : Entries) : Check Pages :=
  (ofEntries (changed (p.entries .name) changes)).map fun q =>
    if (Value.lookup cacheField.name changes).isSome
        && (Value.lookup installField.name changes).isNone
        && q.useCache != p.useCache
    then { q with installCommand := installCommandFor q.useCache }
    else q

end Pages

end CiWorkflow
