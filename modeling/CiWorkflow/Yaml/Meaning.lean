import CiWorkflow.Yaml.Node
import CiWorkflow.Yaml.Scalar

set_option autoImplicit false

namespace CiWorkflow.Yaml

structure Meaning where
  value : Value
  faults : List (Nat × Fault)

namespace Meaning

def ofExcept (level : Nat) : Except Fault Value → Meaning
  | .ok v => ⟨v, []⟩
  | .error f => ⟨.null, [(level, f)]⟩

/-- The first fault of the lowest level. -/
def firstFault : List (Nat × Fault) → Option (Nat × Fault)
  | [] => none
  | f :: rest => match firstFault rest with
    | some g => some (if g.1 < f.1 then g else f)
    | none => some f

end Meaning

structure Entry where
  key : Value
  value : Value
  faults : List (Nat × Fault)

structure Entries where
  merged : List Entry
  own : List Entry
  /-- Something was to be merged that is no mapping. -/
  faulty : Bool

namespace Entries

def all (es : Entries) : List Entry := es.merged ++ es.own

def faults (level : Nat) (es : Entries) : List (Nat × Fault) :=
  (if es.faulty then [(level, Fault.malformed)] else []) ++ es.all.flatMap (·.faults)

def pairs (es : Entries) : List (Value × Value) := es.all.map fun e => (e.key, e.value)

def merge (found : Entries) (rest : Entries) : Entries :=
  ⟨found.all ++ rest.merged, rest.own, found.faulty || rest.faulty⟩

def ofValue : Value → Entries
  | .map entries => ⟨[], entries.map fun p => ⟨p.1, p.2, []⟩, false⟩
  | _ => ⟨[], [], false⟩

end Entries

namespace Node

def tag : Node → Tag
  | scalar t _ => t
  | sequence t _ => t
  | mapping t _ => t
  | again _ => .unknown

mutual

/-- The text of a scalar, or of what a mapping gives for the key `=`. -/
def scalarText : Node → Option String
  | scalar _ s => some s
  | mapping _ entries => defaultText entries
  | sequence _ _ => none
  | again _ => none

def defaultText : List (Node × Node) → Option String
  | [] => none
  | (k, v) :: rest => if k.tag = .default then scalarText v else defaultText rest

end

/-- A key with the tag of `=` is its text. -/
def defaultKey (level : Nat) (k : Node) : Meaning :=
  match k.scalarText with
  | some s => ⟨.text s, []⟩
  | none => ⟨.null, [(level, .malformed)]⟩

def entry (level : Nat) (k v : Meaning) : Entry :=
  let shape := if k.value.key?.isSome then [] else [(level, Fault.malformed)]
  ⟨k.value, v.value, k.faults ++ shape ++ v.faults⟩

mutual

def meaning (follow : String → Value) (level : Nat) : Node → Meaning
  | scalar t s =>
    match t with
    | .seq | .map | .set | .omap | .pairs => ⟨.null, [(level + 1, .malformed)]⟩
    | _ => .ofExcept level (scalarValue t s)
  | sequence t items =>
    match t with
    | .seq =>
      let parts := meanings follow (level + 1) items
      ⟨.list (parts.map (·.value)), parts.flatMap (·.faults)⟩
    | .omap | .pairs =>
      let parts := pairings follow (level + 1) items
      ⟨.list (parts.map (·.value)), parts.flatMap (·.faults)⟩
    | .map | .set => ⟨.null, [(level + 1, .malformed)]⟩
    | _ => ⟨.null, [(level, .malformed)]⟩
  | mapping t entries =>
    match t with
    | .map =>
      let es := entriesOf follow (level + 1) entries
      ⟨.map (Value.ofPairs es.pairs), es.faults (level + 1)⟩
    | .set =>
      let es := entriesOf follow (level + 1) entries
      ⟨.set (Value.distinct (es.all.map (·.key))), es.faults (level + 1)⟩
    | .seq | .omap | .pairs => ⟨.null, [(level + 1, .malformed)]⟩
    | _ =>
      match defaultText entries with
      | some s => .ofExcept level (mappedValue t s)
      | none => ⟨.null, [(level, .malformed)]⟩
  | again a => ⟨follow a, []⟩

def meanings (follow : String → Value) (level : Nat) : List Node → List Meaning
  | [] => []
  | n :: rest => meaning follow level n :: meanings follow level rest

def pairings (follow : String → Value) (level : Nat) : List Node → List Meaning
  | [] => []
  | mapping _ [(k, v)] :: rest =>
    let key := meaning follow level k
    let value := meaning follow level v
    ⟨.tuple [key.value, value.value], key.faults ++ value.faults⟩ :: pairings follow level rest
  | _ :: rest => ⟨.null, [(level, .malformed)]⟩ :: pairings follow level rest

/-- Merged entries stand in front of the mapping's own, so that its own win. -/
def entriesOf (follow : String → Value) (level : Nat) : List (Node × Node) → Entries
  | [] => ⟨[], [], false⟩
  | (k, v) :: rest =>
    let more := entriesOf follow level rest
    if k.tag = .merge then
      match v with
      | mapping _ es => (entriesOf follow level es).merge more
      | sequence _ items => (mergeAll follow level items).merge more
      | again a => (Entries.ofValue (follow a)).merge more
      | scalar _ _ => ⟨more.merged, more.own, true⟩
    else
      let key := if k.tag = .default then defaultKey level k else meaning follow level k
      ⟨more.merged, entry level key (meaning follow level v) :: more.own, more.faulty⟩

/-- Of several mappings to merge the first wins, so it stands last. -/
def mergeAll (follow : String → Value) (level : Nat) : List Node → Entries
  | [] => ⟨[], [], false⟩
  | n :: rest =>
    let later := mergeAll follow level rest
    match n with
    | mapping _ es =>
      let first := entriesOf follow level es
      ⟨[], later.all ++ first.all, first.faulty || later.faulty⟩
    | again a => ⟨[], later.all ++ (Entries.ofValue (follow a)).all, later.faulty⟩
    | _ => ⟨[], later.all, true⟩

end

/-- A collection met inside itself is followed to this depth, deeper than any configuration is
looked into. -/
def followDepth : Nat := 4

def followTo (anchors : Anchors) : Nat → String → Value
  | 0, _ => .endless
  | depth + 1, a => match anchors.lookup a with
    | some (some node) => (meaning (followTo anchors depth) 0 node).value
    | _ => .endless

def Document.value (d : Document) : Except Fault Value :=
  let m := d.root.meaning (followTo d.anchors followDepth) 0
  match Meaning.firstFault m.faults with
  | some f => .error f.2
  | none => .ok m.value

end Node

def isAllowed (c : Char) : Bool :=
  let n := c.toNat
  n == 0x09 || n == 0x0A || n == 0x0D || (0x20 ≤ n && n ≤ 0x7E) || n == 0x85
    || (0xA0 ≤ n && n ≤ 0xD7FF) || (0xE000 ≤ n && n ≤ 0xFFFD) || 0x10000 ≤ n

/-- The value of a text that holds one document; null if it holds none. -/
def read [Half] (cs : List Char) : Except Fault Value :=
  if cs.all isAllowed then do
    match ← Node.ofTokens? (tokenize cs) with
    | some d => d.value
    | none => pure .null
  else .error .malformed

end CiWorkflow.Yaml
