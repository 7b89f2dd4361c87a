import CiWorkflow.Config.Container
import CiWorkflow.Config.Pages
import CiWorkflow.Table.Layout

set_option autoImplicit false

namespace CiWorkflow

namespace Summary

def flagText (b : Bool) : String := if b then "yes" else "no"

def listText (texts : List String) : String :=
  let joined := ", ".intercalate texts
  if joined.isEmpty then "-" else joined

def settingHeaders : List String := ["Setting", "Value"]

def argHeaders : List String := ["Build Arg", "Value", "Kind"]

def table (headers : List String) (rows : List (List String)) : Except Table.Fault String :=
  Table.render .simple headers (rows.map fun row => row.map .text)

end Summary

open Summary

namespace Container

def settingRows (c : Container) : List (List String) := [
  [imageNameField.name, c.imageName],
  [registryField.name, c.registry],
  [tagsField.name, c.tags],
  [dockerfileField.name, c.dockerfilePath],
  [platformsField.name, listText c.platforms],
  [outputField.name, c.output.text],
  [provenanceField.name, flagText c.provenance],
  [rewriteField.name, flagText c.rewriteTimestamp]]

def argRow (a : BuildArg) : List String :=
  [a.key, a.value, if a.isDynamic then "dynamic" else "static"]

def settingTable (c : Container) : Except Table.Fault String :=
  table settingHeaders c.settingRows

def argTable (c : Container) : Except Table.Fault String :=
  table argHeaders (c.buildArgs.map argRow)

/-- Told if some arguments are replaced. All of them have the same key. -/
def shadowNote? (c : Container) : Option String :=
  match c.shadowedArgs with
  | [] => none
  | a :: _ => some ("Warning: timestamp rewriting overrides build argument(s): " ++ a.key)

end Container

namespace Pages

def settingRows (p : Pages) : List (List String) := [
  [branchField.name, p.branch],
  [nodeVersionField.name, p.nodeVersion],
  [installField.name, p.installCommand],
  [buildField.name, p.buildCommand],
  [outputDirField.name, p.outputDir],
  [cacheField.name, flagText p.useCache]]

def settingTable (p : Pages) : Except Table.Fault String := table settingHeaders p.settingRows

end Pages

end CiWorkflow
