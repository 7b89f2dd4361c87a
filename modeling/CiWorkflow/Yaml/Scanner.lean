import CiWorkflow.Yaml.Plain
import CiWorkflow.Yaml.Property

/-! A text as tokens. Indentation opens and closes block collections, and a node that turns out to
stand in front of a `:` on its own line gets its key mark after the fact. -/

set_option autoImplicit false

namespace CiWorkflow.Yaml

structure Cursor where
  rest : List Char
  index : Nat
  line : Nat
  column : Nat

namespace Cursor

def step (c : Char) (r : List Char) (p : Cursor) : Cursor :=
  if isBreak c then ⟨r, p.index + 1, p.line + 1, 0⟩
  else ⟨r, p.index + 1, p.line, if c == '\ufeff' then p.column else p.column + 1⟩

def advance : Nat → Cursor → Cursor
  | 0, p => p
  | n + 1, p => match p.rest with
    | [] => p
    | c :: r => advance n (p.step c r)

def moveTo (rest : List Char) (p : Cursor) : Cursor :=
  p.advance (p.rest.length - rest.length)

end Cursor

/-- A node that may still turn out to be a key. -/
structure Candidate where
  /-- The number of the node's first token. -/
  token : Nat
  /-- The node starts a line of the block, so nothing else than a key will do. -/
  required : Bool
  index : Nat
  line : Nat
  column : Nat

structure Scanner where
  cursor : Cursor
  /-- The open block collections, innermost first: each has its entries at column `margin - 1`. -/
  margins : List Nat
  /-- One place for each open flow collection and one for the block around them. -/
  candidates : List (Option Candidate)
  keyAllowed : Bool
  tokens : Array Token
  finished : Bool

namespace Scanner

def start (cs : List Char) : Scanner := {
  cursor := ⟨cs, 0, 0, 0⟩
  margins := []
  candidates := [none]
  keyAllowed := true
  tokens := #[]
  finished := false }

def margin (s : Scanner) : Nat := s.margins.headD 0

def inFlow (s : Scanner) : Bool := 1 < s.candidates.length

def push (t : Token) (s : Scanner) : Scanner := { s with tokens := s.tokens.push t }

def moveTo (rest : List Char) (s : Scanner) : Scanner := { s with cursor := s.cursor.moveTo rest }

/-- A candidate is given up on another line, or after more than 1024 characters. -/
def isStale (p : Cursor) (k : Candidate) : Bool :=
  k.line != p.line || 1024 < p.index - k.index

def dropStale (s : Scanner) : Except Fault Scanner :=
  let stale (k : Option Candidate) : Bool := (k.map (isStale s.cursor)).getD false
  if s.candidates.any fun k => stale k && (k.map (·.required)).getD false then .error .malformed
  else .ok { s with candidates := s.candidates.map fun k => if stale k then none else k }

def dropCandidate (s : Scanner) : Except Fault Scanner :=
  match s.candidates with
  | some k :: rest =>
    if k.required then .error .malformed else .ok { s with candidates := none :: rest }
  | _ => .ok s

def saveCandidate (s : Scanner) : Except Fault Scanner :=
  if s.keyAllowed then do
    let required := !s.inFlow && s.margin == s.cursor.column + 1
    let s ← s.dropCandidate
    let k : Candidate :=
      ⟨s.tokens.size, required, s.cursor.index, s.cursor.line, s.cursor.column⟩
    pure { s with candidates := some k :: s.candidates.drop 1 }
  else .ok s

/-- Closes the block collections whose entries stand right of the given margin. -/
def closeFrom (limit : Nat) : List Nat → Array Token → List Nat × Array Token
  | [], tokens => ([], tokens)
  | m :: rest, tokens =>
    if limit < m then closeFrom limit rest (tokens.push .blockEnd) else (m :: rest, tokens)

def unwind (limit : Nat) (s : Scanner) : Scanner :=
  if s.inFlow then s
  else
    let (margins, tokens) := closeFrom limit s.margins s.tokens
    { s with margins, tokens }

/-- Opens a block collection unless one has its entries at this column. -/
def openBlock (column : Nat) (t : Token) (position : Nat) (s : Scanner) : Scanner :=
  if s.margin < column + 1 then
    { s with
      margins := (column + 1) :: s.margins
      tokens := s.tokens.insertIdxIfInBounds position t }
  else s

/-- Spaces, comments and line breaks; whether a line break was met. -/
def skipToToken (comment crossed : Bool) : List Char → Bool × List Char
  | [] => (crossed, [])
  | c :: r =>
    if isBreak c then skipToToken false true r
    else if comment then skipToToken true crossed r
    else if c == ' ' then skipToToken false crossed r
    else if c == '#' then skipToToken true crossed r
    else (crossed, c :: r)

def skipBlank (s : Scanner) : Scanner :=
  let cs := match s.cursor.rest with
    | '\ufeff' :: r => if s.cursor.index == 0 then r else s.cursor.rest
    | cs => cs
  let (crossed, rest) := skipToToken false false cs
  { s.moveTo rest with keyAllowed := s.keyAllowed || (crossed && !s.inFlow) }

def finish (s : Scanner) : Except Fault Scanner := do
  let s ← (s.unwind 0).dropCandidate
  pure { s.push .streamEnd with finished := true }

def startDirective (r : List Char) (s : Scanner) : Except Fault Scanner := do
  let s ← (s.unwind 0).dropCandidate
  let (t, rest) ← readDirective r
  pure { (s.push t).moveTo rest with keyAllowed := false }

def documentMark (t : Token) (s : Scanner) : Except Fault Scanner := do
  let s ← (s.unwind 0).dropCandidate
  pure { s.push t with keyAllowed := false, cursor := s.cursor.advance 3 }

def openFlow (t : Token) (r : List Char) (s : Scanner) : Except Fault Scanner := do
  let s ← s.saveCandidate
  pure { (s.push t).moveTo r with keyAllowed := true, candidates := none :: s.candidates }

def closeFlow (t : Token) (r : List Char) (s : Scanner) : Except Fault Scanner := do
  if !s.inFlow then throw .malformed
  let s ← s.dropCandidate
  pure { (s.push t).moveTo r with keyAllowed := false, candidates := s.candidates.drop 1 }

def comma (r : List Char) (s : Scanner) : Except Fault Scanner := do
  let s ← s.dropCandidate
  pure { (s.push .comma).moveTo r with keyAllowed := true }

/-- An entry or key mark, which in block context may open a collection. -/
def blockMark (collection t : Token) (after : Bool) (r : List Char) (s : Scanner) :
    Except Fault Scanner := do
  if !s.inFlow && !s.keyAllowed then throw .malformed
  let s := if s.inFlow then s else s.openBlock s.cursor.column collection s.tokens.size
  let s ← s.dropCandidate
  pure { (s.push t).moveTo r with keyAllowed := after }

def valueMark (r : List Char) (s : Scanner) : Except Fault Scanner :=
  match s.candidates with
  | some k :: outer =>
    let s := { s with
      candidates := none :: outer
      tokens := s.tokens.insertIdxIfInBounds k.token .key }
    let s := if s.inFlow then s else s.openBlock k.column .blockMapping k.token
    .ok { (s.push .value).moveTo r with keyAllowed := false }
  | _ => s.blockMark .blockMapping .value (!s.inFlow) r

/-- A token that may be, or be in front of, a key. -/
def node (read : Except Fault (Token × List Char)) (s : Scanner) : Except Fault Scanner := do
  let s ← s.saveCandidate
  let (t, rest) ← read
  pure { (s.push t).moveTo rest with keyAllowed := false }

def name (make : String → Token) (r : List Char) : Except Fault (Token × List Char) :=
  (orMalformed (readName r)).map fun (n, rest) => (make n, rest)

def scalar (read : Reader) : Except Fault (Token × List Char) :=
  read.map fun (text, rest) => (.scalar false (String.ofList text), rest)

def blockScalar (folded : Bool) (r : List Char) (s : Scanner) : Except Fault Scanner := do
  let s ← s.dropCandidate
  let (text, rest) ← orMalformed (readBlock folded s.margin r)
  pure { (s.push (.scalar false (String.ofList text))).moveTo rest with keyAllowed := true }

def startsPlain (flow : Bool) (c : Char) (r : List Char) : Bool :=
  !(isGap c || oneOf "-?:,[]\x7b\x7d#&*!|>'\"%@`" c)
    || (!atGap r && (c == '-' || (!flow && (c == '?' || c == ':'))))

def plainScalar (s : Scanner) : Except Fault Scanner := do
  let s ← s.saveCandidate
  let p := readPlain s.inFlow s.margin .none 0 s.cursor.rest
  pure { (s.push (.scalar true (String.ofList p.text))).moveTo p.rest with keyAllowed := p.crossed }

/-- Goes on to the next token, closing collections that its line has left. -/
def prepare (s : Scanner) : Except Fault Scanner := do
  let s ← s.skipBlank.dropStale
  pure (s.unwind (s.cursor.column + 1))

def readToken [Half] (s : Scanner) : Except Fault Scanner :=
  let flow := s.inFlow
  let atLineStart := s.cursor.column == 0
  match s.cursor.rest with
  | [] => s.finish
  | c :: r =>
    if c == '%' && atLineStart then s.startDirective r
    else if c == '-' && atLineStart && atMarker (c :: r) then s.documentMark .documentStart
    else if c == '.' && atLineStart && atMarker (c :: r) then s.documentMark .documentEnd
    else if c == '[' then s.openFlow .openSequence r
    else if c == '\x7b' then s.openFlow .openMapping r
    else if c == ']' then s.closeFlow .closeSequence r
    else if c == '\x7d' then s.closeFlow .closeMapping r
    else if c == ',' then s.comma r
    else if c == '-' && atGap r then s.blockMark .blockSequence .entry true r
    else if c == '?' && (flow || atGap r) then s.blockMark .blockMapping .key (!flow) r
    else if c == ':' && (flow || atGap r) then s.valueMark r
    else if c == '*' then s.node (name .reference r)
    else if c == '&' then s.node (name .anchor r)
    else if c == '!' then s.node (orMalformed (readTag (c :: r)))
    else if c == '|' && !flow then s.blockScalar false r
    else if c == '>' && !flow then s.blockScalar true r
    else if c == '\'' then s.node (scalar (readSingle .none r))
    else if c == '"' then s.node (scalar (readDouble .text .none r))
    else if startsPlain flow c r then s.plainScalar
    else throw .malformed

def next [Half] (s : Scanner) : Except Fault Scanner := do
  let s ← s.prepare
  s.readToken

/-- The number of the first token that may still get a key mark in front of it. -/
def settled (s : Scanner) : Nat :=
  s.candidates.foldl (fun n k => (k.map fun k => min n k.token).getD n) s.tokens.size

/-- Where the text cannot be read on, the tokens that were still waiting for a `:` are lost. -/
def abandon (s : Scanner) (f : Fault) : Array Token :=
  let known := match s.dropStale with
    | .ok s => s.settled
    | .error _ => s.settled
  (s.tokens.extract 0 known).push (.fault f)

def run [Half] : Nat → Scanner → Array Token
  | 0, s => s.abandon .malformed
  | steps + 1, s =>
    if s.finished then s.tokens
    else match s.next with
      | .ok s' => run steps s'
      | .error f => s.abandon f

end Scanner

/-- All tokens of a text. Each step takes a character at least, or is the last. -/
def tokenize [Half] (cs : List Char) : List Token :=
  (Scanner.run (cs.length + 2) (Scanner.start cs)).toList

end CiWorkflow.Yaml
