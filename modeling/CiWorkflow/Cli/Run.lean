import CiWorkflow.Cli.Session

set_option autoImplicit false

namespace CiWorkflow.Cli

open Session

abbrev Configured (α : Type) : Type := α × Nat

def tellRefused (e : LoadError) : Session Unit :=
  match e with
  | .notFound _ | .notMapping _ => sayPlain "red" ("Error: " ++ e.message)
  | _ => sayUnfinished "red" ("Error: " ++ e.message)

/-- The configuration in a file, or the default one if no file is named. -/
def configured {α : Type} (load : (path : String) → FileContent → (drawn : Nat) → Loaded α)
    (default : α) (file : Option String) : Session (Configured α) :=
  match file with
  | none => pure (default, 0)
  | some text => do
    let path := Path.ofText text
    let content ← ofExcept .file ((← get).files.find path)
    let loaded := load path.text content 0
    log loaded.log
    match loaded.result with
    | .ok config => pure (config, loaded.drawn)
    | .error (.scalar e) => throw (.crash (.scalar e))
    | .error .longNumber => throw (.crash .longNumber)
    | .error (.refused e) => do
      tellRefused e
      exit 1

def perform (s : Store) (op : Operation) : Session Store := do
  let outcome := s.step op
  log outcome.log
  match outcome.answer with
  | .ok _ => pure outcome.store
  | .error e => throw (.crash (.refusal e))

def performChanges (s : Store) (op : Entries → Operation) (changes : Entries) : Session Store :=
  if changes.isEmpty then pure s else perform s (op changes)

def addPair (isDynamic : Bool) (s : Store) (pair : String × String) : Session Store :=
  perform s (.addArg (.text pair.1) (.text pair.2) (.bool isDynamic))

def ask (s : Store) (replies : Replies) : Session Store := do
  let dialog := s.prompt replies
  modify fun p => { p with dialog := some dialog }
  log dialog.log
  match dialog.failure with
  | none => pure dialog.store
  | some e => throw (.crash (.refusal e))

def warnShadowed (c : Container) : Session Unit :=
  match c.shadowNote? with
  | none => pure ()
  | some note => say (tagged "yellow" note)

def asked (w : World) (a : Arguments) (s : Store) : Session Store :=
  if a.has Docker.interactive then
    match w.terminal with
    | some replies => ask s replies
    | none => do
      say "[yellow]Not a terminal, skipping interactive prompts[/yellow]"
      pure s
  else pure s

def buildDocument [Half] (w : World) (a : Arguments) : Session String := do
  let (config, drawn) ← configured Container.load Container.sample (a.value? Docker.config)
  let s := Store.start .docker config Pages.initial drawn
  let s ← performChanges s .updateContainer (Docker.changes a)
  let s ← (Docker.pairs a Docker.buildArg).foldlM (addPair false) s
  let s ← (Docker.pairs a Docker.dynamicArg).foldlM (addPair true) s
  let s ← asked w a s
  warnShadowed s.container
  pure s.render

def pagesDocument [Half] (a : Arguments) : Session String := do
  let (config, drawn) ← configured Pages.load Pages.initial (a.value? Site.config)
  let s := Store.start .pages Container.sample config drawn
  let s ← performChanges s .updatePages (Site.changes a)
  pure s.render

def isPagesKind (a : Arguments) : Bool := a.others.head? == some "pages"

def runDefaults (a : Arguments) : Session Unit :=
  print (if isPagesKind a then Pages.initial.dump else Container.sample.dump)

def printTable (table : Except Table.Fault String) : Session Unit := do
  let text ← ofExcept .table table
  print (text ++ "\n")

def runShow (a : Arguments) : Session Unit := do
  let file := a.value? Show.config
  if isPagesKind a then
    let (config, _) ← configured Pages.load Pages.initial file
    printTable config.settingTable
  else
    let (config, _) ← configured Container.load Container.sample file
    printTable config.settingTable
    print "\n"
    if config.buildArgs.isEmpty then print "No build arguments\n"
    else printTable config.argTable
    warnShadowed config

def endFailed {α : Type} (e : Generation.Fault) : Session α := do
  match e with
  | .noKey => sayPlain "red" ("Configuration error: " ++ e.message)
  | .busy | .failed => sayPlain "red" ("Error: " ++ e.message)
  | _ => throw (.crash (.generation e))
  exit 1

def drafted : Except Generation.Fault String → Session String
  | .ok content => do
    if content.isEmpty then
      say "[yellow]Warning: the model returned an empty Dockerfile[/yellow]"
    pure (if content.isEmpty then "" else content ++ "\n")
  | .error e => endFailed e

def draftService (w : World) (a : Arguments) : Generation.Service :=
  .create w.environment (a.value? Draft.apiKey) (a.value? Draft.model)
    Generation.Service.defaultTimeout

def requestDraft [Half] (w : World) (a : Arguments) (description : String) : Session String := do
  let call := (draftService w a).generate description w.reply none
  modify fun p => { p with posts := p.posts ++ call.posts }
  log call.log
  drafted call.answer

def drafting (w : World) (a : Arguments) : String :=
  "Generating Dockerfile with " ++ (draftService w a).model ++ "..."

def draftDocument [Half] (w : World) (a : Arguments) : Session String :=
  let description := String.ofList (Text.trim (" ".intercalate a.others).toList)
  if description.isEmpty then do
    sayPlain "red" "Error: Description cannot be empty."
    exit 1
  else do
    say (tagged "cyan" (drafting w a))
    requestDraft w a description

def handOut (a : Arguments) (make : Half → Session String) : Session Unit := do
  emit (← documentOf make) (a.value? documentOption)

def work (w : World) (a : Arguments) : Task → Session Unit
  | .defaults => runDefaults a
  | .docker => handOut a fun _ : Half => buildDocument w a
  | .draft => handOut a fun _ : Half => draftDocument w a
  | .pages => handOut a fun _ : Half => pagesDocument a
  | .summary => runShow a

def refuse {α : Type} (usage fullName : String) (e : UsageError) : Session α := do
  message (.usage usage fullName e)
  exit 2

def runTask (w : World) (t : Task) (arguments : List String) : Session Unit :=
  let c := t.command
  match c.request w.files.isDirectory arguments with
  | .error (.usage e) => refuse c.usage c.fullName e
  | .error .nulInPath => throw (.crash .nulInPath)
  | .ok .help => print c.help
  | .ok (.work a) => work w a t

def runArguments (w : World) (a : Arguments) : Session Unit := do
  let refuse {α : Type} : UsageError → Session α := refuse Program.usage program
  if a.has helpOption then print wholeProgram.help
  else
    modify fun p => { p with verbose := a.has verboseOption }
    match a.others with
    | [] => refuse .noCommand
    | name :: rest =>
      match Task.ofName? name with
      | some t => runTask w t rest
      | none =>
        match Arguments.read false wholeProgram.options a.others with
        | .error e => refuse e
        | .ok b =>
          if b.has helpOption then print wholeProgram.help
          else refuse (.unknownCommand name (Text.similarTexts name Task.names))

def session (w : World) (arguments : List String) : Session Unit :=
  if arguments.isEmpty then do
    message (.text wholeProgram.help)
    exit 2
  else match Arguments.read false wholeProgram.options arguments with
    | .error e => refuse Program.usage program e
    | .ok a => runArguments w a

/-- A run with its end: the exit code, and the crash that led to it if it was none that is
foreseen. -/
structure Run where
  code : Nat
  crash : Option Crash
  progress : Progress

def run (w : World) (arguments : List String) : Run :=
  let (result, progress) := (session w arguments).outcome (started w false)
  match result with
  | .ok () => ⟨0, none, progress⟩
  | .error (.exit code) => ⟨code, none, progress⟩
  | .error (.crash e) => ⟨1, some e, progress⟩

end CiWorkflow.Cli
