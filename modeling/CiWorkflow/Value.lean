import CiWorkflow.Calendar
import CiWorkflow.Number.Render

set_option autoImplicit false

namespace CiWorkflow

inductive Value where
  | null
  | bool (b : Bool)
  | int (n : Int)
  | float (x : Float)
  | text (s : String)
  | bytes (bs : List UInt8)
  | date (d : Date)
  | moment (t : Moment)
  | list (items : List Value)
  | tuple (items : List Value)
  | set (items : List Value)
  | map (entries : List (Value × Value))
  /-- A collection that contains itself, where following it was given up. -/
  | endless

namespace Value

/-- What a scalar is compared by as a key: numbers and booleans by their exact value. -/
inductive Key where
  | null
  | number (mant : Int) (expo : Int)
  | infinite (negative : Bool)
  | nan
  | text (s : String)
  | bytes (bs : List UInt8)
  | date (d : Date)
  | local (t : Moment)
  | instant (micros : Int)
  deriving DecidableEq

/-- Powers of two moved from the mantissa to the exponent, so that equal numbers get one key. -/
def normalize : Nat → Int → Int → Key
  | 0, m, e => .number m e
  | steps + 1, m, e =>
    if m == 0 then .number 0 0
    else if m % 2 == 0 then normalize steps (m / 2) (e + 1)
    else .number m e

def numberKey (m e : Int) : Key := normalize (m.natAbs.log2 + 1) m e

/-- `none` for collections, which can be no keys. -/
def key? : Value → Option Key
  | null => some .null
  | bool b => some (numberKey (if b then 1 else 0) 0)
  | int n => some (numberKey n 0)
  | float x => some <| match Number.Binary.ofFloat x with
    | .nan => .nan
    | .infinite negative => .infinite negative
    | .finite negative d => numberKey (if negative then -(d.mant : Int) else d.mant) d.expo
  | text s => some (.text s)
  | bytes bs => some (.bytes bs)
  | date d => some (.date d)
  | moment t => some (if t.offset.isSome then .instant t.instant else .local t)
  | list _ | tuple _ | set _ | map _ | endless => none

def sameKey (a b : Value) : Bool := a.key?.isSome && a.key? == b.key?

theorem numberKey_ne_text (m e : Int) (s : String) : numberKey m e ≠ .text s := by
  have normal (steps : Nat) (m e : Int) : normalize steps m e ≠ .text s := by
    fun_induction normalize steps m e <;> simp_all
  exact normal _ m e

theorem key?_eq_text_iff {v : Value} {s : String} : v.key? = some (.text s) ↔ v = .text s := by
  constructor
  · intro h
    cases v with
    | text t => simpa [key?] using h
    | bool | int => exact absurd (Option.some.inj h) (numberKey_ne_text _ _ s)
    | float x =>
      simp only [key?, Option.some.injEq] at h
      split at h
      · simp at h
      · simp at h
      · exact absurd h (numberKey_ne_text _ _ s)
    | moment t =>
      simp only [key?, Option.some.injEq] at h
      split at h <;> simp at h
    | _ => simp [key?] at h
  · rintro rfl
    rfl

theorem sameKey_text_iff {s : String} {v : Value} : sameKey (.text s) v = true ↔ v = .text s := by
  rw [← key?_eq_text_iff]
  change (true && (some (Key.text s) == v.key?)) = true ↔ _
  rw [Bool.true_and, beq_iff_eq]
  exact eq_comm

/-- Writes an entry: a key that is there keeps its place and its spelling, a new one goes last. -/
def put (k v : Value) : List (Value × Value) → List (Value × Value)
  | [] => [(k, v)]
  | (k', v') :: rest => if sameKey k k' then (k', v) :: rest else (k', v') :: put k v rest

def ofPairs (pairs : List (Value × Value)) : List (Value × Value) :=
  pairs.foldl (fun entries p => put p.1 p.2 entries) []

def insertKey (k : Value) : List Value → List Value
  | [] => [k]
  | k' :: rest => if sameKey k k' then k' :: rest else k' :: insertKey k rest

def distinct (keys : List Value) : List Value :=
  keys.foldl (fun seen k => insertKey k seen) []

def lookup (name : String) : List (Value × Value) → Option Value
  | [] => none
  | (text s, v) :: rest => if s == name then some v else lookup name rest
  | _ :: rest => lookup name rest

theorem lookup_put (s name : String) (v : Value) (entries : List (Value × Value)) :
    lookup name (put (.text s) v entries) = if s = name then some v else lookup name entries := by
  induction entries with
  | nil => simp [put, lookup]
  | cons e rest ih =>
    obtain ⟨k, w⟩ := e
    rw [put]
    split
    · rename_i h
      obtain rfl := sameKey_text_iff.1 h
      by_cases hs : s = name <;> simp [lookup, hs]
    · rename_i h
      by_cases hk : k = .text name
      · subst hk
        have hs : s ≠ name := fun hs => h (sameKey_text_iff.2 (hs ▸ rfl))
        simp [lookup, hs]
      · have step (es : List (Value × Value)) : lookup name ((k, w) :: es) = lookup name es := by
          cases k with
          | text t =>
            have ht : t ≠ name := fun ht => hk (ht ▸ rfl)
            simp [lookup, ht]
          | _ => rfl
        rw [step, step, ih]

mutual

def quoted : Value → String
  | null => "None"
  | bool b => if b then "True" else "False"
  | int n => toString n
  | float x => Number.full x
  | text s => Text.quoted s
  | bytes bs => Text.quotedBytes bs
  | date d => d.quoted
  | moment t => t.quoted
  | list items => "[" ++ ", ".intercalate (quotedAll items) ++ "]"
  | tuple items => "(" ++ ", ".intercalate (quotedAll items) ++ ")"
  | set items => "\x7b" ++ ", ".intercalate (quotedAll items) ++ "\x7d"
  | map entries => "\x7b" ++ ", ".intercalate (quotedEntries entries) ++ "\x7d"
  | endless => "..."

def quotedAll : List Value → List String
  | [] => []
  | v :: rest => v.quoted :: quotedAll rest

def quotedEntries : List (Value × Value) → List String
  | [] => []
  | (k, v) :: rest => (k.quoted ++ ": " ++ v.quoted) :: quotedEntries rest

end

def isOn : Value → Bool
  | null => false
  | bool b => b
  | int n => n != 0
  | float x => match Number.Binary.ofFloat x with
    | .finite _ d => d.mant != 0
    | _ => true
  | text s => !s.isEmpty
  | bytes bs => !bs.isEmpty
  | list items | tuple items | set items => !items.isEmpty
  | map entries => !entries.isEmpty
  | date _ | moment _ | endless => true

/-- The value as plain text: a text is itself, anything else as messages show it. -/
def shown : Value → String
  | text s => s
  | v => v.quoted

end Value

end CiWorkflow
