import CiWorkflow.Cli.Run

/-! The program at a terminal. What it needs to know of the world is looked up first, and what it
wrote is carried over to the disk at the end. There is no network. -/

set_option autoImplicit false

namespace CiWorkflow.Cli

def pathTexts (argument : String) : List String := [
  argument,
  String.ofList ((argument.toList.dropWhile (· != '=')).drop 1),
  String.ofList (argument.toList.drop 2)]

def lookUp (path : String) : IO FileContent := do
  try
    return .bytes (← IO.FS.readBinFile path)
  catch e =>
    match e with
    | .noFileOrDirectory .. => return .absent
    | .inappropriateType .. => return .directory
    | _ => return .absent

def pathsTo (p : Path) : List Path :=
  (List.range p.names.length).map fun n => { p with names := p.names.take (n + 1) }

def lookUpAll (arguments : List String) : IO Files := do
  let paths := (arguments.flatMap pathTexts).map Path.ofText
  let mut files : Files := ⟨[]⟩
  for p in paths.flatMap pathsTo do
    let content ← lookUp p.text
    match content with
    | .absent => pure ()
    | _ =>
      let start : Location := if p.root == "" then [] else ["/"]
      files := files.put (p.names.foldl Files.enter start) content
  return files

def environmentNow : IO Generation.Environment := do
  let mut found := []
  for name in Generation.keyVariables ++ [Generation.modelVariable] do
    if let some value ← IO.getEnv name then
      found := found ++ [(name, value)]
  return found

/-- The columns of the terminal, as far as the environment tells them. -/
def columnsNow : IO { n : Nat // 0 < n } := do
  let told := ((← IO.getEnv "COLUMNS").bind String.toNat?).getD 80
  return if h : 0 < told then ⟨told, h⟩ else ⟨80, by decide⟩

/-- Asks for words in a line; an empty line leaves things as they are. -/
def askLine (question : String) : IO (List String) := do
  IO.eprint (question ++ " ")
  let line ← (← IO.getStdin).getLine
  return (line.trimAscii.toString.splitOn " ").filter (· != "")

def askUser (d : Dialog) : IO Replies := do
  for c in d.platforms do
    IO.eprintln ((if c.checked then "* " else "  ") ++ c.platform)
  let platforms ← askLine "Target platforms:"
  for o in Output.all do
    IO.eprintln ((if d.output == some o then "* " else "  ") ++ o.text)
  let output ← askLine "Output type:"
  return ⟨if platforms.isEmpty then .null else .list (platforms.map .text),
    (output.head?.map Value.text).getD .null⟩

def showMessage : Message → IO Unit
  | .text s => IO.eprint s
  | .entry e => IO.eprintln (e.writer.name ++ " - " ++ e.level.name ++ " - " ++ e.text)
  | .usage usage fullName e => IO.eprintln (usageText usage fullName e ++ e.suggestion)
  | .unfinished s => IO.eprintln s

def keep (old new : Files) : IO Unit := do
  for (place, content) in new.entries do
    let path := "/".intercalate (place.map fun name => if name == "/" then "" else name)
    match content, old.contentAt place with
    | .bytes written, .bytes before =>
      if written != before then IO.FS.writeBinFile path written
    | .bytes written, _ =>
      IO.FS.createDirAll (Path.ofText path).parent.text
      IO.FS.writeBinFile path written
    | .directory, .absent => IO.FS.createDirAll path
    | _, _ => pure ()

/-- Runs with replies that change nothing, and again if the user is to be asked. -/
def runAsking (w : World) (arguments : List String) : IO Run := do
  if !(← (← IO.getStdin).isTty) then
    return run w arguments
  let first := run { w with terminal := some ⟨.null, .null⟩ } arguments
  match first.progress.dialog with
  | none => return first
  | some d => return run { w with terminal := some (← askUser d) } arguments

end CiWorkflow.Cli

open CiWorkflow.Cli

def main (arguments : List String) : IO UInt32 := do
  let files ← lookUpAll arguments
  let ⟨columns, wide⟩ ← columnsNow
  let w : World :=
    ⟨files, ← environmentNow, none, .failure "ConnectionError" "" none, columns, wide⟩
  let r ← runAsking w arguments
  IO.print r.progress.printed
  r.progress.messages.forM showMessage
  keep files r.progress.files
  if let some e := r.crash then
    IO.eprintln e.message
  return r.code.toUInt32
