import CiWorkflow.Yaml.Fault

set_option autoImplicit false

namespace CiWorkflow.Yaml

inductive Token where
  | version (major : Nat)
  | tagHandle (handle expansion : String)
  | reserved
  | documentStart
  | documentEnd
  | streamEnd
  | blockSequence
  | blockMapping
  | blockEnd
  | openSequence
  | closeSequence
  | openMapping
  | closeMapping
  | comma
  | entry
  | key
  | value
  | reference (name : String)
  | anchor (name : String)
  | tag (handle : Option String) (suffix : String)
  | scalar (plain : Bool) (text : String)
  /-- From here on the text could not be read. -/
  | fault (f : Fault)
  deriving DecidableEq, Repr

end CiWorkflow.Yaml
