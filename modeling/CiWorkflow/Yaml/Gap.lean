set_option autoImplicit false

namespace CiWorkflow.Yaml

def isBreak (c : Char) : Bool :=
  c == '\n' || c == '\u0085' || c == '\u2028' || c == '\u2029'

def isSpace (c : Char) : Bool := c == ' ' || c == '\t'

def isGap (c : Char) : Bool := isSpace c || isBreak c

def normalBreak (c : Char) : Char := if c == '\u0085' then '\n' else c

def atGap : List Char → Bool
  | [] => true
  | c :: _ => isGap c

def atMarker : List Char → Bool
  | '-' :: '-' :: '-' :: r => atGap r
  | '.' :: '.' :: '.' :: r => atGap r
  | _ => false

/-- What was met since the last character of a scalar, the latest first. -/
inductive Gap where
  | none
  | blanks (spaces : List Char)
  /-- Line breaks; `first` is absent if it was escaped. -/
  | lines (first : Option Char) (more : List Char)

/-- One line break is a space, and of several the first is dropped. -/
def Gap.text : Gap → List Char
  | none => []
  | blanks spaces => spaces.reverse
  | lines Option.none more => more.reverse
  | lines (some '\n') [] => [' ']
  | lines (some '\n') more => more.reverse
  | lines (some c) more => c :: more.reverse

def Gap.blank (c : Char) : Gap → Gap
  | none => blanks [c]
  | blanks spaces => blanks (c :: spaces)
  | lines first more => lines first more

def Gap.newline (c : Char) : Gap → Gap
  | lines first more => lines first (normalBreak c :: more)
  | _ => lines (some (normalBreak c)) []

def Gap.crossed : Gap → Bool
  | lines _ _ => true
  | _ => false

end CiWorkflow.Yaml
