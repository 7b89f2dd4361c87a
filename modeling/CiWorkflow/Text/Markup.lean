import CiWorkflow.Text.Emoji
import CiWorkflow.Text.Literal.Expression
import CiWorkflow.Text.Style

/-! Style tags in square brackets. A text with tags is shown without them and with pictures for
their names, and a backslash in front of a tag makes it plain. -/

set_option autoImplicit false

namespace CiWorkflow.Text.Markup

inductive Token where
  | text (cs : List Char)
  /-- A tag without its brackets, after a number of backslashes. -/
  | tag (slashes : Nat) (body : List Char)
  deriving DecidableEq, Repr

def beginsTag (c : Char) : Bool := c.isLower || c == '#' || c == '/' || c == '@'

def readTag? : List Char → Option (List Char × List Char)
  | c :: r =>
    if beginsTag c then
      let body := r.takeWhile fun d => d != '[' && d != ']'
      match r.drop body.length with
      | ']' :: t => some (c :: body, t)
      | _ => none
    else none
  | [] => none

def tokensWithin : (fuel : Nat) → List Char → List Token
  | 0, _ => []
  | fuel + 1, cs =>
    let slashes := cs.takeWhile (· == '\\')
    match cs.drop slashes.length with
    | '[' :: r =>
      match readTag? r with
      | some (body, t) => .tag slashes.length body :: tokensWithin fuel t
      | none => .text (slashes ++ ['[']) :: tokensWithin fuel r
    | c :: r => .text (slashes ++ [c]) :: tokensWithin fuel r
    | [] => if slashes.isEmpty then [] else [.text slashes]

def tokens (cs : List Char) : List Token := tokensWithin (cs.length + 1) cs

def backslashes (n : Nat) : List Char := List.replicate n '\\'

def bracketed (body : List Char) : List Char := '[' :: body ++ [']']

def escapeToken : Token → List Char
  | .text cs => cs
  | .tag n body => backslashes (2 * n + 1) ++ bracketed body

/-- The text with all tags made plain. A single backslash at the end is doubled. -/
def escape (cs : List Char) : List Char :=
  let escaped := (tokens cs).flatMap escapeToken
  match escaped.reverse with
  | '\\' :: '\\' :: _ => escaped
  | '\\' :: _ => escaped ++ ['\\']
  | _ => escaped

inductive Fault where
  /-- Nothing of the tag's name is open. -/
  | unmatched (body : List Char) (position : Nat)
  | nothingOpen (position : Nat)
  /-- Of the parameters of an action the part that is a literal is wrong. -/
  | badParameters (part parameters : List Char) (reason : Literal.Fault)
  | badColour (reason : MissingPart)
  deriving DecidableEq, Repr

def quotedChars (cs : List Char) : String := quoted (String.ofList cs)

def Fault.message : Fault → String
  | .unmatched body position =>
    "closing tag '" ++ String.ofList (bracketed body) ++ "' at position " ++ toString position
      ++ " doesn't match any open tag"
  | .nothingOpen position =>
    "closing tag '[/]' at position " ++ toString position ++ " has nothing to close"
  | .badParameters part parameters reason =>
    if reason == .malformed then
      "error parsing " ++ quotedChars parameters ++ "; " ++ reason.message
    else
      "error parsing " ++ quotedChars part ++ " in " ++ quotedChars parameters ++ "; "
        ++ reason.message
  | .badColour reason => reason.message

structure Opened where
  name : String
  parameters : Option (List Char)
  deriving DecidableEq, Repr

def nameOf (body : List Char) : List Char := body.takeWhile (· != '=')

def Opened.ofBody (body : List Char) : Except MissingPart Opened := do
  pure ⟨← Style.normalize (nameOf body), (body.dropWhile (· != '=')).tail?⟩

/-- The part of an action's parameters that is a literal: what stands in brackets after the name
of a handler, or all of them. -/
def literalPart (parameters : List Char) : List Char :=
  let arguments := parameters.dropWhile fun c => isWord c || c == '.'
  let isCall := arguments.head? == some '(' && arguments.getLast? == some ')'
    && 2 ≤ arguments.length && !arguments.contains '\n'
  if isCall then arguments
  else if arguments.isEmpty then ['(', ')']
  else parameters

def Opened.close (o : Opened) : Except Fault Unit :=
  match o.name.toList.head?, o.parameters with
  | some '@', some (c :: cs) =>
    let part := literalPart (trim (c :: cs))
    match Literal.fault? (part.dropWhile fun c => c == ' ' || c == '\t') with
    | some reason => .error (.badParameters part (c :: cs) reason)
    | none => .ok ()
  | _, _ => .ok ()

/-- The style that a tag gives, as it is looked up once the text is shown. -/
def Opened.style (o : Opened) : List Char :=
  o.name.toList ++ match o.parameters with
    | some (c :: cs) => ' ' :: c :: cs
    | _ => []

/-- Closes the latest of the open tags with a name, and any without a name. -/
def closeTag (body : List Char) (position : Nat) (opened : List Opened) :
    Except Fault (List Opened) :=
  match trim (nameOf (body.drop 1)) with
  | [] => match opened with
    | [] => .error (.nothingOpen position)
    | o :: rest => o.close.map fun _ => rest
  | cs => match Style.normalize cs with
    | .error e => .error (.badColour e)
    | .ok name => match opened.find? (·.name == name) with
      | none => .error (.unmatched body position)
      | some o => o.close.map fun _ => opened.erase o

def mergeText : List Token → List Token
  | [] => []
  | .text cs :: rest =>
    match mergeText rest with
    | .text more :: rest => .text (cs ++ more) :: rest
    | rest => .text cs :: rest
  | t :: rest => t :: mergeText rest

def plainChars : List Char → List Char
  | '\\' :: '[' :: r => '[' :: plainChars r
  | c :: r => c :: plainChars r
  | [] => []

structure Shown where
  chars : List Char
  /-- The tags that are open, the latest first. -/
  opened : List Opened
  /-- All tags that were ever open. -/
  seen : List Opened
  position : Nat

def Shown.add (s : Shown) (length : Nat) (cs : List Char) : Shown :=
  { s with chars := s.chars ++ Emoji.replace cs, position := s.position + length }

def Shown.addTag (s : Shown) (n : Nat) (body : List Char) : Except Fault Shown := do
  let length := n + body.length + 2
  if n % 2 == 1 then
    pure { s with
      chars := s.chars ++ backslashes (n / 2) ++ Emoji.replace (bracketed body)
      position := s.position + length }
  else
    let s := { s with chars := s.chars ++ backslashes (n / 2), position := s.position + length }
    match body with
    | '/' :: _ => pure { s with opened := ← closeTag body (s.position - length + n) s.opened }
    | _ => match Opened.ofBody body with
      | .error e => throw (.badColour e)
      | .ok o => pure { s with opened := o :: s.opened, seen := o :: s.seen }

def Shown.step (s : Shown) : Token → Except Fault Shown
  | .text cs => pure (s.add cs.length (plainChars cs))
  | .tag n body => s.addTag n body

/-- The text without its tags. Tags may stay open, but none may close what is not open. -/
def shown (cs : List Char) : Except Fault (List Char) := do
  let s ← (mergeText (tokens cs)).foldlM Shown.step ⟨[], [], [], 0⟩
  match s.seen.reverse.mapM fun o => Style.normalize o.style with
  | .error e => throw (.badColour e)
  | .ok _ => pure s.chars

end CiWorkflow.Text.Markup
