import CiWorkflow.Store

set_option autoImplicit false

namespace CiWorkflow

structure Choice where
  platform : String
  checked : Bool
  deriving DecidableEq, Repr

def knownPlatforms : List String := [
  "linux/amd64",
  "linux/arm64",
  "linux/arm/v7",
  "linux/riscv64"]

/-- The known platforms, and those of the configuration that are not among them. -/
def platformChoices (current : List String) : List Choice :=
  knownPlatforms.map (fun p => ⟨p, current.contains p⟩)
    ++ (current.filter fun p => !knownPlatforms.contains p).map (⟨·, true⟩)

/-- How the questions were answered; null stands for a question that was cancelled. -/
structure Replies where
  platforms : Value
  output : Value

structure Dialog where
  platforms : List Choice
  /-- The output that is selected at first, or none if it was not asked for. -/
  output : Option Output
  store : Store
  deliveries : List (Listener × String)
  log : List LogEntry
  failure : Option Refusal

def Dialog.start (s : Store) : Dialog :=
  ⟨platformChoices s.container.platforms, none, s, [], [], none⟩

def Dialog.refuse (d : Dialog) (error : Refusal) : Dialog := { d with failure := some error }

def Dialog.change (d : Dialog) (changes : Entries) : Dialog :=
  let o := d.store.step (.updateContainer changes)
  { d with
    store := o.store
    deliveries := d.deliveries ++ o.deliveries
    log := d.log ++ o.log
    failure := match o.answer with
      | .ok _ => none
      | .error e => some e }

def Dialog.askPlatforms (d : Dialog) (reply : Value) : Dialog :=
  match reply with
  | .null => d
  | v => d.change [Container.platformsField.entry .name v]

/-- What is selected at first is the output from before the dialog. -/
def Dialog.askOutput (d : Dialog) (current : Output) (reply : Value) : Dialog :=
  let d := { d with output := some current }
  match reply with
  | .null => d
  | v => match Output.ofValue? v with
    | some o => d.change [Container.outputField.entry .name (.text o.text)]
    | none => d.refuse (.unknownOutput v)

/-- Asks both questions; the second one only if the first reply was not refused. -/
def Store.prompt (s : Store) (replies : Replies) : Dialog :=
  let d := (Dialog.start s).askPlatforms replies.platforms
  match d.failure with
  | some _ => d
  | none => d.askOutput s.container.output replies.output

end CiWorkflow
