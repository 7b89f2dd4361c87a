import CiWorkflow.Yaml.Gap

set_option autoImplicit false

namespace CiWorkflow.Yaml

inductive Chomp where
  | strip | clip | keep
  deriving DecidableEq, Repr

structure BlockHeader where
  chomp : Chomp
  increment : Option Nat

def chomp? : Char → Option Chomp
  | '+' => some .keep
  | '-' => some .strip
  | _ => none

/-- An indentation digit, which is no zero; `none` for a zero. -/
def readIncrement : List Char → Option (Option Nat × List Char)
  | c :: r =>
    if c == '0' then none
    else if c.isDigit then some (some (c.toNat - 48), r)
    else some (none, c :: r)
  | [] => some (none, [])

def readBlockHeader : List Char → Option (BlockHeader × List Char)
  | [] => some (⟨.clip, none⟩, [])
  | c :: r =>
    match chomp? c with
    | some k => (readIncrement r).map fun (n, t) => (⟨k, n⟩, t)
    | none => do
      let (n, t) ← readIncrement (c :: r)
      match n, t with
      | some _, d :: t' =>
        match chomp? d with
        | some k => some (⟨k, n⟩, t')
        | none => some (⟨.clip, n⟩, t)
      | _, _ => some (⟨.clip, n⟩, t)

def skipLineEnd (cs : List Char) : Option (List Char) :=
  let body := cs.dropWhile (· == ' ')
  let body := match body with
    | '#' :: _ => body.dropWhile fun c => !isBreak c
    | _ => body
  match body with
  | [] => some []
  | c :: r => if isBreak c then some r else none

structure Indentation where
  breaks : List Char
  column : Nat
  deepest : Nat
  rest : List Char

/-- Empty lines in front of the first line of text, taking spaces up to `limit`. -/
def readBreaks (limit : Option Nat) : Nat → Nat → List Char → Indentation
  | column, deepest, [] => ⟨[], column, deepest, []⟩
  | column, deepest, c :: r =>
    if c == ' ' && limit.all (column < ·) then
      readBreaks limit (column + 1) (max deepest (column + 1)) r
    else if isBreak c then
      let more := readBreaks limit 0 deepest r
      { more with breaks := normalBreak c :: more.breaks }
    else ⟨[], column, deepest, c :: r⟩

structure BlockBody where
  text : List Char
  final : List Char
  trailing : List Char
  rest : List Char

def startsBlank (cs : List Char) : Bool := (cs.head?.map isSpace).getD false

def readLines (folded : Bool) (indent : Nat) : Nat → List Char → List Char → BlockBody
  | 0, breaks, cs => ⟨[], [], breaks, cs⟩
  | steps + 1, breaks, cs =>
    let line := cs.takeWhile fun c => !isBreak c
    let (final, r) := match cs.dropWhile fun c => !isBreak c with
      | [] => ([], [])
      | c :: t => ([normalBreak c], t)
    let next := readBreaks (some indent) 0 0 r
    if next.column == indent && !next.rest.isEmpty then
      let join :=
        if folded && final == ['\n'] && !startsBlank cs && !startsBlank next.rest then
          (if next.breaks.isEmpty then [' '] else [])
        else final
      let more := readLines folded indent steps next.breaks next.rest
      { more with text := breaks ++ line ++ join ++ more.text }
    else ⟨breaks ++ line, final, next.breaks, next.rest⟩

/-- The text of a block scalar after its indicator, in a block whose own lines start at `margin`. -/
def readBlock (folded : Bool) (margin : Nat) (cs : List Char) : Option (List Char × List Char) := do
  let (header, r) ← readBlockHeader cs
  match r with
  | c :: _ => if !(c == ' ' || isBreak c) then none
  | [] => pure ()
  let r ← skipLineEnd r
  let least := max margin 1
  let (indent, start) := match header.increment with
    | none =>
      let start := readBreaks none 0 0 r
      (max least start.deepest, start)
    | some k => (least + k - 1, readBreaks (some (least + k - 1)) 0 0 r)
  let body :=
    if start.column == indent && !start.rest.isEmpty then
      readLines folded indent (start.rest.length + 1) start.breaks start.rest
    else ⟨[], [], start.breaks, start.rest⟩
  let tail := match header.chomp with
    | .strip => []
    | .clip => body.final
    | .keep => body.final ++ body.trailing
  pure (body.text ++ tail, body.rest)

end CiWorkflow.Yaml
