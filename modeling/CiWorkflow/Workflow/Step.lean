set_option autoImplicit false

namespace CiWorkflow.Workflow

def expr (e : String) : String := "$\x7b\x7b " ++ e ++ " \x7d\x7d"

def envRef (name : String) : String := expr ("env." ++ name)

def unlines (lines : List String) : String := String.join (lines.map (· ++ "\n"))

theorem unlines_append (a b : List String) : unlines (a ++ b) = unlines a ++ unlines b := by
  simp [unlines, String.join_append]

inductive Action where
  | uses (name : String)
  | run (command : String)
  deriving DecidableEq, Repr

inductive Input where
  | pair (key value : String)
  | block (key : String) (lines : List String)
  deriving DecidableEq, Repr

structure Step where
  name : String
  id : Option String
  condition : Option String
  action : Action
  inputs : List Input
  deriving DecidableEq, Repr

namespace Step

def uses (name action : String) (inputs : List Input) : Step :=
  ⟨name, none, none, .uses action, inputs⟩

def run (name command : String) : Step := ⟨name, none, none, .run command, []⟩

def pairLine (p : String × String) : String := "          " ++ p.1 ++ ": " ++ p.2

def inputLines : Input → List String
  | .pair key value => [pairLine (key, value)]
  | .block key lines =>
    if lines.isEmpty then [] else pairLine (key, "|") :: lines.map ("            " ++ ·)

def actionLine : Action → String
  | .uses name => "        uses: " ++ name
  | .run command => "        run: " ++ command

def lines (s : Step) : List String :=
  ["      - name: " ++ s.name]
    ++ (s.id.map ("        id: " ++ ·)).toList
    ++ (s.condition.map ("        if: " ++ ·)).toList
    ++ [actionLine s.action]
    ++ (if s.inputs.isEmpty then [] else "        with:" :: s.inputs.flatMap inputLines)

def block (s : Step) : List String := "" :: s.lines

def blocks (steps : List Step) : List String := steps.flatMap block

theorem blocks_append (a b : List Step) : blocks (a ++ b) = blocks a ++ blocks b := by
  simp [blocks]

end Step

def runner : String := "ubuntu-latest"

def checkoutAction : String := "actions/checkout@v4"

end CiWorkflow.Workflow
