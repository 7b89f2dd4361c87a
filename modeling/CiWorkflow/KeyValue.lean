import CiWorkflow.Text.Class

set_option autoImplicit false

namespace CiWorkflow.KeyValue

open Text

/-- The key up to the first `=`, without the blanks around it, and all that follows the sign. A
blank key is refused. -/
def readItem? (item : String) : Option (String × String) :=
  let cs := item.toList
  let key := trim (cs.takeWhile (· != '='))
  match cs.dropWhile (· != '=') with
  | _ :: value => if key.isEmpty then none else some (String.ofList key, String.ofList value)
  | [] => none

def readItems : List String → Except String (List (String × String))
  | [] => .ok []
  | item :: rest =>
    match readItem? item with
    | none => .error item
    | some pair => (readItems rest).map (pair :: ·)

def badItemText (item : String) : String := "expected KEY=VALUE, got '" ++ item ++ "'"

end CiWorkflow.KeyValue
