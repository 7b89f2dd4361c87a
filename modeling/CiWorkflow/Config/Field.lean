import CiWorkflow.Config.Check

set_option autoImplicit false

namespace CiWorkflow

/-- The two spellings of a field's name: words with underscores, and in camel case. -/
structure Field where
  name : String
  camel : String
  deriving DecidableEq, Repr

inductive Spelling where
  | name
  | camel
  deriving DecidableEq, Repr

abbrev Entries := List (Value × Value)

namespace Field

def spell (spelling : Spelling) (f : Field) : String :=
  match spelling with
  | .name => f.name
  | .camel => f.camel

def entry (spelling : Spelling) (f : Field) (v : Value) : Value × Value :=
  (.text (f.spell spelling), v)

/-- The key that gives the field and its value. The spelling in camel case goes first. -/
def given (f : Field) (data : Entries) : Option (String × Value) :=
  match Value.lookup f.camel data with
  | some v => some (f.camel, v)
  | none => (Value.lookup f.name data).map fun v => (f.name, v)

/-- Checks the field where it is given, and takes the default where it is not. -/
def check {α : Type} (f : Field) (data : Entries) (default : Check α) (check : Value → Check α) :
    Check α :=
  match f.given data with
  | some (key, v) => (check v).under (.key key)
  | none => default

end Field

def placeOfKey : Value → Place
  | .text s => .key s
  | .bool b => .index (if b then 1 else 0)
  | .int n =>
    if -0x8000000000000000 ≤ n ∧ n < 0x8000000000000000 then .index n
    else .key (if isLong n then "<unprintable int object>" else toString n)
  | v => .key v.quoted

def keyIssue (known : List String) (k : Value) : Option Issue :=
  match k with
  | .text s => if known.contains s then none else some ⟨.extraKey, [.key s]⟩
  | _ => some ⟨.keyNotText, [placeOfKey k]⟩

def checkKeys (fields : List Field) (data : Entries) : Check Unit :=
  let known := fields.filterMap fun f => (f.given data).map (·.1)
  match data.filterMap fun p => keyIssue known p.1 with
  | [] => .ok ()
  | issues => .fail (.issues issues)

def checkRecord {α : Type} (name : String) (check : Entries → Check α) : Value → Check α
  | .map data => check data
  | _ => .issue (.notRecord name)

/-- Entries with some of them changed: a key that is there keeps its place. -/
def changed (data changes : Entries) : Entries :=
  changes.foldl (fun entries p => Value.put p.1 p.2 entries) data

end CiWorkflow
