import CiWorkflow.KeyValue
import CiWorkflow.Text.Lower
import CiWorkflow.Text.Printable
import CiWorkflow.Text.Quoted
import CiWorkflow.Text.Similar

set_option autoImplicit false

namespace CiWorkflow.Cli

inductive Kind where
  | flag
  | text
  | file
  | choice (names : List String)
  /-- A key and a value, in the form that is shown. -/
  | pair (form : String)
  deriving DecidableEq, Repr

structure Opt where
  name : String
  short : Option Char
  /-- A second name that switches a flag off. -/
  off : Option String
  kind : Kind
  help : String
  deriving DecidableEq, Repr

def choiceForm (names : List String) : String := "[" ++ "|".intercalate names ++ "]"

def Kind.form? : Kind → Option String
  | flag => none
  | text => some "TEXT"
  | file => some "FILE"
  | choice names => some (choiceForm names)
  | pair form => some form

namespace Opt

def flag (name : String) (help : String) : Opt := ⟨name, none, none, .flag, help⟩

def switch (name off : String) (help : String) : Opt := ⟨name, none, some off, .flag, help⟩

def text (name : String) (help : String) : Opt := ⟨name, none, none, .text, help⟩

def takesValue (o : Opt) : Bool := o.kind != .flag

def shortText (c : Char) : String := String.ofList ['-', c]

def names (o : Opt) : List String := o.name :: o.off.toList

def place (o : Opt) : String :=
  " / ".intercalate ((o.name :: (o.short.map shortText).toList).map fun n => "'" ++ n ++ "'")

end Opt

def helpOption : Opt := .flag "--help" "Show this message and exit."

inductive BadValue where
  | notAmong (value : String) (names : List String)
  | directory (value : String)
  | notPair (item : String)
  deriving DecidableEq, Repr

def BadValue.message : BadValue → String
  | .notAmong value names =>
    Text.quoted value ++ " is not one of " ++ ", ".intercalate (names.map Text.quoted) ++ "."
  | .directory value => "File " ++ Text.quoted value ++ " is a directory."
  | .notPair item => KeyValue.badItemText item

inductive UsageError where
  | unknownOption (name : String) (similar : List String)
  | unknownCommand (name : String) (similar : List String)
  | noCommand
  | extra (arguments : List String)
  | missing (argument : String)
  | badValue (place : String) (cause : BadValue)
  | needsValue (option : String)
  | takesNoValue (option : String)
  deriving DecidableEq, Repr

namespace UsageError

def message : UsageError → String
  | unknownOption name _ => "No such option " ++ Text.quoted name ++ "."
  | unknownCommand name _ => "No such command " ++ Text.quoted name ++ "."
  | noCommand => "Missing command."
  | extra [argument] => "Got unexpected extra argument (" ++ argument ++ ")"
  | extra arguments =>
    "Got unexpected extra arguments (" ++ " ".intercalate arguments ++ ")"
  | missing argument => "Missing argument '" ++ argument ++ "'."
  | badValue place cause => "Invalid value for " ++ place ++ ": " ++ cause.message
  | needsValue option => "Option " ++ Text.quoted option ++ " requires an argument."
  | takesNoValue option => "Option " ++ Text.quoted option ++ " does not take a value."

def similar : UsageError → List String
  | unknownOption _ names | unknownCommand _ names => names
  | _ => []

def suggestion (e : UsageError) : String :=
  match e.similar with
  | [] => ""
  | [name] => " Did you mean " ++ Text.quoted name ++ "?"
  | names =>
    " (Did you mean one of: " ++ ", ".intercalate (names.map Text.quoted) ++ "?)"

/-- The usage of the command is shown too, except where an option and its value do not go
together. -/
def showsUsage : UsageError → Bool
  | needsValue _ | takesNoValue _ => false
  | _ => true

end UsageError

inductive Setting where
  | on
  | off
  | value (text : String)
  deriving DecidableEq, Repr

structure Given where
  option : Opt
  setting : Setting
  deriving DecidableEq, Repr

/-- Arguments taken apart: options in the order given, and the other arguments. -/
structure Arguments where
  given : List Given
  others : List String
  deriving DecidableEq, Repr

/-- What one argument gives. The last option may wait for its value in the next argument; then
there is the name under which it was given. -/
structure Reading where
  given : List Given
  waiting : Option (Opt × String)

def findLong? (options : List Opt) (name : String) : Option (Opt × Setting) :=
  options.findSome? fun o =>
    if o.name == name then some (o, .on)
    else if o.off == some name then some (o, .off)
    else none

def readLong (options : List Opt) (argument : String) : Except UsageError Reading :=
  let cs := argument.toList
  let name := String.ofList (cs.takeWhile (· != '='))
  let value := (cs.dropWhile (· != '=')).tail?.map String.ofList
  match findLong? options name with
  | none => .error (.unknownOption name (Text.similarTexts name (options.flatMap Opt.names)))
  | some (o, setting) =>
    match o.takesValue, value with
    | true, some v => .ok ⟨[⟨o, .value v⟩], none⟩
    | true, none => .ok ⟨[], some (o, name)⟩
    | false, some _ => .error (.takesNoValue name)
    | false, none => .ok ⟨[⟨o, setting⟩], none⟩

/-- Options of one letter in a row. The first that takes a value takes what is left of the row. -/
def readShort (options : List Opt) : List Char → Except UsageError Reading
  | [] => .ok ⟨[], none⟩
  | c :: rest =>
    match options.find? fun o => o.short == some c with
    | none => .error (.unknownOption (Opt.shortText c) [])
    | some o =>
      if o.takesValue then
        if rest.isEmpty then .ok ⟨[], some (o, Opt.shortText c)⟩
        else .ok ⟨[⟨o, .value (String.ofList rest)⟩], none⟩
      else do
        let r ← readShort options rest
        pure { r with given := ⟨o, .on⟩ :: r.given }

def readOption (options : List Opt) (argument : String) : Except UsageError Reading :=
  match argument.toList with
  | '-' :: '-' :: _ => readLong options argument
  | _ :: rest => readShort options rest
  | [] => .ok ⟨[], none⟩

def looksLikeOption (argument : String) : Bool :=
  match argument.toList with
  | '-' :: _ :: _ => true
  | _ => false

namespace Arguments

def give (given : List Given) (a : Arguments) : Arguments := { a with given := given ++ a.given }

/-- Takes arguments apart up to `--`, or, unless options are read `throughout`, up to the first
one that is no option. -/
def read (throughout : Bool) (options : List Opt) : List String → Except UsageError Arguments
  | [] => .ok ⟨[], []⟩
  | argument :: rest =>
    if argument == "--" then .ok ⟨[], rest⟩
    else if looksLikeOption argument then
      match readOption options argument with
      | .error e => .error e
      | .ok ⟨given, none⟩ => (read throughout options rest).map (give given)
      | .ok ⟨given, some (o, name)⟩ =>
        match rest with
        | [] => .error (.needsValue name)
        | value :: rest =>
          (read throughout options rest).map (give (given ++ [⟨o, .value value⟩]))
    else if throughout then
      (read throughout options rest).map fun a => { a with others := argument :: a.others }
    else .ok ⟨[], argument :: rest⟩

def values (a : Arguments) (o : Opt) : List String :=
  a.given.filterMap fun g => match g.setting with
    | .value v => if g.option.name == o.name then some v else none
    | _ => none

def value? (a : Arguments) (o : Opt) : Option String := (a.values o).getLast?

def switch? (a : Arguments) (o : Opt) : Option Bool :=
  (a.given.filterMap fun g =>
    if g.option.name == o.name then some (g.setting != .off) else none).getLast?

def has (a : Arguments) (o : Opt) : Bool := a.given.any fun g => g.option.name == o.name

end Arguments

def chosen? (names : List String) (value : String) : Option String :=
  names.find? fun n => n.toList == Text.fold value.toList

inductive Obstacle where
  | usage (e : UsageError)
  /-- A path that can be handed to no file system. -/
  | nulInPath
  deriving DecidableEq, Repr

def nulInPathText : String := "embedded null byte"

def Arguments.obstacle? (isDirectory : String → Bool) (a : Arguments) (o : Opt) :
    Option Obstacle :=
  let bad (cause : BadValue) : Option Obstacle := some (.usage (.badValue o.place cause))
  match o.kind with
  | .flag | .text => none
  | .file => (a.value? o).bind fun v =>
    if v.toList.contains '\x00' then some .nulInPath
    else if isDirectory v then bad (.directory v)
    else none
  | .choice names => (a.value? o).bind fun v =>
    if (chosen? names v).isSome then none else bad (.notAmong v names)
  | .pair _ => match KeyValue.readItems (a.values o) with
    | .ok _ => none
    | .error item => bad (.notPair item)

end CiWorkflow.Cli
