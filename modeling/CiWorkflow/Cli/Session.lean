import CiWorkflow.Files
import CiWorkflow.Generation.Service
import CiWorkflow.Cli.Commands
import CiWorkflow.Prompt
import CiWorkflow.Summary
import CiWorkflow.Text.Escape
import CiWorkflow.Text.Markup
import CiWorkflow.Text.Wrap

set_option autoImplicit false

namespace CiWorkflow.Cli

structure World where
  files : Files
  environment : Generation.Environment
  /-- The replies that the user gives at the terminal, if there is one. -/
  terminal : Option Replies
  /-- What the language model replies. -/
  reply : Generation.Reply
  /-- The columns of the lines that messages are laid out in. -/
  columns : Nat
  wide : 0 < columns

inductive Message where
  | text (s : String)
  /-- A message that breaks off. -/
  | unfinished (s : String)
  | entry (e : LogEntry)
  | usage (usage fullName : String) (e : UsageError)

structure Progress where
  files : Files
  columns : Nat
  verbose : Bool
  printed : String
  messages : List Message
  posts : List Generation.Post
  dialog : Option Dialog

def started (w : World) (verbose : Bool) : Progress :=
  ⟨w.files, w.columns, verbose, "", [], [], none⟩

/-- What ends a run without being foreseen. -/
inductive Crash where
  | markup (e : Text.Markup.Fault)
  | scalar (e : Yaml.Fault)
  | longNumber
  | torn (tear : Text.Tear)
  | file (e : FileError)
  | generation (e : Generation.Fault)
  | refusal (e : Refusal)
  | table (e : Table.Fault)
  | nulInPath

def Crash.message : Crash → String
  | .markup e => e.message
  | .scalar e => e.message
  | .longNumber => Rejection.longNumber.message ""
  | .torn tear => tear.message
  | .file e => e.message
  | .generation e => e.message
  | .refusal e => e.message
  | .table e => e.message
  | .nulInPath => nulInPathText

inductive Stop where
  | exit (code : Nat)
  | crash (e : Crash)

/-- A document as it is, and with other characters for the halves of surrogate pairs in it. -/
structure Document where
  text : String
  other : String

namespace Document

def tear? (d : Document) : Option Text.Tear := Text.tear? d.text.toList d.other.toList

def plainly (d : Document) : Document := ⟨Text.plainly d.text, Text.plainly d.other⟩

def content (d : Document) : String := if d.tear?.isSome then "" else d.text

end Document

abbrev Session (α : Type) : Type := ExceptT Stop (StateM Progress) α

namespace Session

def outcome {α : Type} (x : Session α) (p : Progress) : Except Stop α × Progress := x.run.run p

def ofExcept {ε α : Type} (crash : ε → Crash) : Except ε α → Session α
  | .ok a => pure a
  | .error e => throw (.crash (crash e))

def message (m : Message) : Session Unit :=
  modify fun p => { p with messages := p.messages ++ [m] }

def shown (s : String) : Session String := do
  let cs ← ofExcept .markup (Text.Markup.shown s.toList)
  pure (String.ofList (Text.laidOut (← get).columns cs))

def say (s : String) : Session Unit := do message (.text ((← shown s) ++ "\n"))

def tagged (style text : String) : String := "[" ++ style ++ "]" ++ text ++ "[/" ++ style ++ "]"

/-- A text in a style, without tags of its own. -/
def styled (style s : String) : String :=
  tagged style (String.ofList (Text.Markup.escape s.toList))

def sayPlain (style s : String) : Session Unit := say (styled style s)

def sayUnfinished (style s : String) : Session Unit := do
  message (.unfinished (← shown (styled style s)))

/-- Details are told only on request. -/
def log (entries : List LogEntry) : Session Unit := do
  let p ← get
  for e in entries do
    if p.verbose || e.level != .debug then message (.entry e)

def print (s : String) : Session Unit :=
  modify fun p => { p with printed := p.printed ++ Text.plainly s }

def exit {α : Type} (code : Nat) : Session α := throw (.exit code)

/-- The text that is made with other characters for the halves of surrogate pairs. -/
def otherText (make : Half → Session String) (p : Progress) (text : String) : String :=
  match ((make .other).outcome p).1 with
  | .ok other => other
  | .error _ => text

def documentOf (make : Half → Session String) : Session Document := do
  let p ← get
  let text ← make .standIn
  pure ⟨text, otherText make p text⟩

def refuseTorn (d : Document) : Session Unit :=
  match d.tear? with
  | none => pure ()
  | some tear => throw (.crash (.torn tear))

def wrote (path : Path) : String := "Wrote " ++ path.text

/-- Prints a document, or writes it to a file. A file for a torn document is emptied all the
same. -/
def emit (d : Document) (output : Option String) : Session Unit :=
  match output with
  | none => do
    refuseTorn d.plainly
    print d.text
  | some text => do
    let path := Path.ofText text
    let (written, files) := (← get).files.write path d.content
    modify fun p => { p with files := files }
    ofExcept .file written
    refuseTorn d
    say (tagged "green" (wrote path))

end Session

end CiWorkflow.Cli
