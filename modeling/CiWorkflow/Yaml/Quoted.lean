import CiWorkflow.Text.Escape
import CiWorkflow.Yaml.Fault
import CiWorkflow.Yaml.Gap

set_option autoImplicit false

namespace CiWorkflow.Yaml

open Text (hexValue?)

abbrev Reader := Except Fault (List Char × List Char)

def Reader.prepend (cs : List Char) : Reader → Reader
  | .ok (text, rest) => .ok (cs ++ text, rest)
  | .error f => .error f

def readSingle (gap : Gap) : List Char → Reader
  | [] => .error .malformed
  | '\'' :: '\'' :: r => (readSingle .none r).prepend (gap.text ++ ['\''])
  | c :: r =>
    if c == '\'' then .ok (gap.text, r)
    else if isSpace c then readSingle (gap.blank c) r
    else if isBreak c then
      if atMarker r then .error .malformed else readSingle (gap.newline c) r
    else (readSingle .none r).prepend (gap.text ++ [c])

def escaped? : Char → Option Char
  | '0' => some '\x00'
  | 'a' => some '\x07'
  | 'b' => some '\x08'
  | 't' => some '\t'
  | '\t' => some '\t'
  | 'n' => some '\n'
  | 'v' => some '\x0b'
  | 'f' => some '\x0c'
  | 'r' => some '\r'
  | 'e' => some '\x1b'
  | ' ' => some ' '
  | '"' => some '"'
  | '\\' => some '\\'
  | '/' => some '/'
  | 'N' => some '\u0085'
  | '_' => some '\u00a0'
  | 'L' => some '\u2028'
  | 'P' => some '\u2029'
  | _ => none

/-- How many hexadecimal digits a letter asks for after a backslash. -/
def codeLength? : Char → Option Nat
  | 'x' => some 2
  | 'u' => some 4
  | 'U' => some 8
  | _ => none

/-- Where a reader of double quotes stands: in the text, after a backslash, or with some
hexadecimal digits still to come. -/
inductive Within where
  | text
  | backslash
  | code (left : Nat) (value : Nat)

/-- Halves of surrogate pairs are not put together. -/
def readDouble [Half] : Within → Gap → List Char → Reader
  | _, _, [] => .error .malformed
  | .text, gap, c :: r =>
    if c == '"' then .ok (gap.text, r)
    else if c == '\\' then (readDouble .backslash .none r).prepend gap.text
    else if isSpace c then readDouble .text (gap.blank c) r
    else if isBreak c then
      if atMarker r then .error .malformed else readDouble .text (gap.newline c) r
    else (readDouble .text .none r).prepend (gap.text ++ [c])
  | .backslash, _, c :: r =>
    if isBreak c then
      if atMarker r then .error .malformed else readDouble .text (.lines none []) r
    else match escaped? c, codeLength? c with
      | some x, _ => (readDouble .text .none r).prepend [x]
      | none, some k => readDouble (.code k 0) .none r
      | none, none => .error .malformed
  | .code left value, _, c :: r =>
    match hexValue? c with
    | none => .error .malformed
    | some h =>
      let n := value * 16 + h
      if 1 < left then readDouble (.code (left - 1) n) .none r
      else if 0x10FFFF < n then .error (.codePoint n)
      else (readDouble .text .none r).prepend [Text.charOfCode n]

end CiWorkflow.Yaml
