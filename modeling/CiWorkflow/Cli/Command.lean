import CiWorkflow.Cli.Option
import CiWorkflow.Text.Terminal

set_option autoImplicit false

namespace CiWorkflow.Cli

inductive Operand where
  | none
  /-- One of some names, the first of them if there is no argument. -/
  | choice (names : List String)
  /-- One argument or more. -/
  | words (form : String)
  deriving DecidableEq, Repr

structure Command where
  name : String
  summary : String
  details : Option String
  options : List Opt
  operand : Operand
  deriving DecidableEq, Repr

def program : String := "actionforge"

def Operand.form? : Operand → Option String
  | none => Option.none
  | choice names => some (choiceForm names)
  | words form => some (form ++ "...")

namespace Command

def fullName (c : Command) : String := program ++ " " ++ c.name

def usage (c : Command) : String :=
  "Usage: " ++ " ".intercalate (c.fullName :: "[OPTIONS]" :: c.operand.form?.toList)

inductive Request where
  | help
  | work (arguments : Arguments)
  deriving DecidableEq, Repr

def checkOperand (c : Command) (others : List String) : Except UsageError Unit :=
  match c.operand, others with
  | .none, [] | .words _, _ :: _ | .choice _, [] => .ok ()
  | .none, extra => .error (.extra extra)
  | .words form, [] => .error (.missing (form ++ "..."))
  | .choice names, name :: extra =>
    if !names.contains name then
      .error (.badValue ("'" ++ choiceForm names ++ "'") (.notAmong name names))
    else if extra.isEmpty then .ok ()
    else .error (.extra extra)

/-- Options are looked at in the order given, then the other arguments. -/
def check (c : Command) (isDirectory : String → Bool) (a : Arguments) : Except Obstacle Unit :=
  match a.given.findSome? fun g => a.obstacle? isDirectory g.option with
  | some o => .error o
  | none => (c.checkOperand a.others).mapError .usage

/-- Reads the arguments of a command. Help is shown also if values are bad. -/
def request (c : Command) (isDirectory : String → Bool) (arguments : List String) :
    Except Obstacle Request := do
  let a ← (Arguments.read true c.options arguments).mapError .usage
  if a.has helpOption then pure .help
  else
    c.check isDirectory a
    pure (.work a)

theorem request_of_read {c : Command} {isDirectory : String → Bool} {arguments : List String}
    {a : Arguments} (h : Arguments.read true c.options arguments = .ok a) :
    c.request isDirectory arguments =
      if a.has helpOption then .ok .help
      else (c.check isDirectory a).map fun _ => .work a := by
  rw [request, h]
  rfl

end Command

/-! ### Help -/

def fillWords (width : Nat) : (line : String) → List String → List String
  | line, [] => [line]
  | line, word :: rest =>
    let longer := line ++ " " ++ word
    if longer.length ≤ width then fillWords width longer rest
    else line :: fillWords width word rest

def wrap (width : Nat) (text : String) : List String :=
  match text.splitOn " " with
  | [] => []
  | word :: rest => fillWords width word rest

def indent (n : Nat) : String := String.ofList (List.replicate n ' ')

def helpWidth : Nat := 80

/-- An entry of a list: what is explained, and the explanation in a column of its own. -/
def entryLines (column : Nat) (e : String × String) : List String :=
  let gap := indent (column + 2)
  match wrap (helpWidth - column - 2) e.2 with
  | [] => [indent 2 ++ e.1]
  | first :: rest =>
    let rest := rest.map (gap ++ ·)
    if e.1.length + 2 ≤ column then
      (indent 2 ++ e.1 ++ indent (column - e.1.length) ++ first) :: rest
    else (indent 2 ++ e.1) :: (gap ++ first) :: rest

def entryList (heading : String) (entries : List (String × String)) : List String :=
  let column := min ((entries.map (·.1.length)).foldl max 0) 30 + 2
  "" :: (heading ++ ":") :: entries.flatMap (entryLines column)

def Opt.entry (o : Opt) : String × String :=
  let names := ", ".intercalate ((o.short.map Opt.shortText).toList ++ [o.name])
  (" ".intercalate (" / ".intercalate (names :: o.off.toList) :: o.kind.form?.toList), o.help)

def paragraph (text : String) : List String :=
  "" :: (wrap (helpWidth - 2) text).map (indent 2 ++ ·)

def textOfLines (lines : List String) : String := String.join (lines.map (· ++ "\n"))

def Command.help (c : Command) : String :=
  textOfLines (c.usage :: paragraph c.summary ++ (c.details.map paragraph).getD []
    ++ entryList "Options" (c.options.map Opt.entry))

structure Program where
  summary : String
  options : List Opt
  commands : List Command

namespace Program

def usage : String := "Usage: " ++ program ++ " [OPTIONS] COMMAND [ARGS]..."

def help (p : Program) : String :=
  textOfLines (usage :: paragraph p.summary ++ entryList "Options" (p.options.map Opt.entry)
    ++ entryList "Commands" (p.commands.map fun c => (c.name, c.summary)))

end Program

def usageText (usage fullName : String) (e : UsageError) : String :=
  Text.plainly <|
    (if e.showsUsage then usage ++ "\nTry '" ++ fullName ++ " --help' for help.\n\n" else "")
      ++ "Error: " ++ e.message

end CiWorkflow.Cli
