import CiWorkflow.Number.Read
import CiWorkflow.Yaml.Token
import CiWorkflow.Yaml.Gap
import CiWorkflow.Yaml.Quoted
import CiWorkflow.Yaml.Block

set_option autoImplicit false

namespace CiWorkflow.Yaml

open Text (hexValue?)

def isNameChar (c : Char) : Bool := c.isAlphanum || c == '-' || c == '_'

def oneOf (marks : String) (c : Char) : Bool := marks.toList.contains c

def endsProperty : List Char → Bool
  | [] => true
  | c :: _ => c == ' ' || isBreak c

def readName (cs : List Char) : Option (String × List Char) :=
  let name := cs.takeWhile isNameChar
  let rest := cs.dropWhile isNameChar
  if name.isEmpty then none
  else if atGap rest || (rest.head?.map (oneOf "?:,]\x7d%@`")).getD false then
    some (String.ofList name, rest)
  else none

def readEscapedBytes : List Char → Option (List UInt8 × List Char)
  | '%' :: a :: b :: r => do
    let n := (← hexValue? a) * 16 + (← hexValue? b)
    let (bytes, rest) ← readEscapedBytes r
    pure (UInt8.ofNat n :: bytes, rest)
  | '%' :: _ => none
  | cs => some ([], cs)

def decodeUtf8? (bytes : List UInt8) : Option String :=
  String.fromUTF8? (ByteArray.mk bytes.toArray)

def readUriFrom : Nat → List Char → Option (List Char × List Char)
  | 0, _ => none
  | _ + 1, [] => some ([], [])
  | steps + 1, c :: r =>
    if c == '%' then do
      let (bytes, rest) ← readEscapedBytes (c :: r)
      let text ← decodeUtf8? bytes
      let (more, rest) ← readUriFrom steps rest
      pure (text.toList ++ more, rest)
    else if isNameChar c || oneOf ";/?:@&=+$,.!~*'()[]" c then do
      let (more, rest) ← readUriFrom steps r
      pure (c :: more, rest)
    else some ([], c :: r)

def readUri (cs : List Char) : Option (String × List Char) := do
  let (uri, rest) ← readUriFrom (cs.length + 1) cs
  if rest.length == cs.length then none else some (String.ofList uri, rest)

/-- `!` in front of a space, `!!`, or `!name!`. -/
def readHandle : List Char → Option (String × List Char)
  | '!' :: r =>
    if r.head? == some ' ' then some ("!", r)
    else
      let name := r.takeWhile isNameChar
      match r.dropWhile isNameChar with
      | '!' :: rest => some (String.ofList ('!' :: name ++ ['!']), rest)
      | _ => none
  | _ => none

/-- The text from `!` to the next blank holds another `!`. -/
def hasHandle (cs : List Char) : Bool :=
  (cs.takeWhile fun c => !(c == ' ' || isBreak c)).contains '!'

def readTag (cs : List Char) : Option (Token × List Char) := do
  let (token, rest) ← match cs with
    | '!' :: '<' :: r => do
      let (uri, rest) ← readUri r
      match rest with
      | '>' :: rest => some (Token.tag none uri, rest)
      | _ => none
    | '!' :: r =>
      if atGap r then some (Token.tag none "!", r)
      else if hasHandle r then do
        let (handle, rest) ← readHandle cs
        let (uri, rest) ← readUri rest
        some (Token.tag (some handle) uri, rest)
      else do
        let (uri, rest) ← readUri r
        some (Token.tag (some "!") uri, rest)
    | _ => none
  if endsProperty rest then some (token, rest) else none

def readDirectiveName (cs : List Char) : Option (String × List Char) :=
  let name := cs.takeWhile isNameChar
  let rest := cs.dropWhile isNameChar
  if !name.isEmpty && endsProperty rest then some (String.ofList name, rest) else none

def readNumber (cs : List Char) : Except Fault (Nat × List Char) :=
  let ds := cs.takeWhile Char.isDigit
  if ds.isEmpty then .error .malformed
  else if Number.digitLimit < ds.length then .error (.longInteger ds.length)
  else .ok (ds.foldl (fun n c => n * 10 + (c.toNat - 48)) 0, cs.dropWhile Char.isDigit)

def skipSpaces (cs : List Char) : List Char := cs.dropWhile (· == ' ')

def readVersion (cs : List Char) : Except Fault (Token × List Char) := do
  let (major, r) ← readNumber cs
  match r with
  | '.' :: r =>
    let (_, r) ← readNumber r
    if endsProperty r then pure (Token.version major, r) else throw .malformed
  | _ => throw .malformed

def readTagHandle (cs : List Char) : Option (Token × List Char) := do
  let (handle, r) ← readHandle cs
  if r.head? != some ' ' then none
  let (expansion, r) ← readUri (skipSpaces r)
  if endsProperty r then some (Token.tagHandle handle expansion, r) else none

def readDirectiveValue (name : String) (cs : List Char) : Except Fault (Token × List Char) :=
  if name == "YAML" then readVersion (skipSpaces cs)
  else if name == "TAG" then orMalformed (readTagHandle (skipSpaces cs))
  else .ok (Token.reserved, cs.dropWhile fun c => !isBreak c)

def readDirective (cs : List Char) : Except Fault (Token × List Char) := do
  let (name, r) ← orMalformed (readDirectiveName cs)
  let (token, r) ← readDirectiveValue name r
  let r ← orMalformed (skipLineEnd r)
  pure (token, r)

end CiWorkflow.Yaml
