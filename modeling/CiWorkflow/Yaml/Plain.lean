import CiWorkflow.Yaml.Gap

set_option autoImplicit false

namespace CiWorkflow.Yaml

def isFlowIndicator (c : Char) : Bool :=
  c == ',' || c == '[' || c == ']' || c == '\x7b' || c == '\x7d'

def stopsPlain (flow : Bool) : List Char → Bool
  | [] => true
  | c :: r =>
    isGap c
      || (c == ':' && (atGap r || (flow && (r.head?.map isFlowIndicator).getD false)))
      || (flow && (isFlowIndicator c || c == '?'))

structure Plain where
  text : List Char
  /-- The scalar ended after a line break. -/
  crossed : Bool
  rest : List Char

def Plain.prepend (cs : List Char) (p : Plain) : Plain := { p with text := cs ++ p.text }

/-- Reads on after a gap that has come to `column`. In block context a line goes on with the
scalar only from column `margin`. -/
def readPlain (flow : Bool) (margin : Nat) : Gap → Nat → List Char → Plain
  | gap, _, [] => ⟨[], gap.crossed, []⟩
  | gap, column, c :: r =>
    if c == ' ' then readPlain flow margin (gap.blank c) (column + 1) r
    else if isBreak c then
      if atMarker r then ⟨[], true, r⟩ else readPlain flow margin (gap.newline c) 0 r
    else
      let away := gap.crossed && !flow && column < margin
      let comment := c == '#' && (match gap with | .none => false | _ => true)
      if stopsPlain flow (c :: r) || away || comment then ⟨[], gap.crossed, c :: r⟩
      else (readPlain flow margin .none 0 r).prepend (gap.text ++ [c])

end CiWorkflow.Yaml
