import CiWorkflow.Text.Class
import CiWorkflow.Text.Printable
import CiWorkflow.Text.Quoted
import CiWorkflow.Text.Word

set_option autoImplicit false

namespace CiWorkflow.Text.Literal

inductive Fault where
  | unterminated (line : Nat)
  | unterminatedTriple (line : Nat)
  | unmatched (closing : Char)
  | mismatched (closing opening : Char)
  | neverClosed (opening : Char)
  | badNumber (kind : String)
  | badDigit (digit : Char) (kind : String)
  | leadingZeros
  | badCharacter (c : Char)
  | strayBackslash
  | invalid
  | missingComma
  | missingElse
  | meantEquality
  | notAssignable (what : String)
  | notNameable (what : String)
  | assignsArgument
  | starred
  | doubleStarred
  | missingValue
  | missingColon
  | bareCall (name : String)
  | mixedTexts
  | wideBytes
  /-- An expression that is no literal. -/
  | malformed
  deriving DecidableEq, Repr

def codePointText (c : Char) : String :=
  let digits := Nat.toDigits 16 c.toNat
  "U+" ++ String.ofList ((List.replicate (4 - digits.length) '0' ++ digits).map Char.toUpper)

def Fault.message : Fault → String
  | unterminated line =>
    "unterminated string literal (detected at line " ++ toString line ++ ")"
  | unterminatedTriple line =>
    "unterminated triple-quoted string literal (detected at line " ++ toString line ++ ")"
  | unmatched closing => "unmatched " ++ quoted (String.singleton closing)
  | mismatched closing opening =>
    "closing parenthesis " ++ quoted (String.singleton closing)
      ++ " does not match opening parenthesis " ++ quoted (String.singleton opening)
  | neverClosed opening => quoted (String.singleton opening) ++ " was never closed"
  | badNumber kind => "invalid " ++ kind ++ " literal"
  | badDigit digit kind =>
    "invalid digit " ++ quoted (String.singleton digit) ++ " in " ++ kind ++ " literal"
  | leadingZeros =>
    "leading zeros in decimal integer literals are not permitted; use an 0o prefix for octal "
      ++ "integers"
  | badCharacter c =>
    if isPrintable c then
      "invalid character '" ++ String.singleton c ++ "' (" ++ codePointText c ++ ")"
    else "invalid non-printable character " ++ codePointText c
  | strayBackslash => "unexpected character after line continuation character"
  | invalid => "invalid syntax"
  | missingComma => "invalid syntax. Perhaps you forgot a comma?"
  | missingElse => "expected 'else' after 'if' expression"
  | meantEquality => "invalid syntax. Maybe you meant '==' or ':=' instead of '='?"
  | notAssignable what =>
    "cannot assign to " ++ what ++ " here. Maybe you meant '==' instead of '='?"
  | notNameable what => "cannot use assignment expressions with " ++ what
  | assignsArgument => "expression cannot contain assignment, perhaps you meant \"==\"?"
  | starred => "cannot use starred expression here"
  | doubleStarred => "cannot use double starred expression here"
  | missingValue => "expression expected after dictionary key and ':'"
  | missingColon => "':' expected after dictionary key"
  | bareCall name =>
    "Missing parentheses in call to " ++ quoted name ++ ". Did you mean " ++ name ++ "(...)?"
  | mixedTexts => "cannot mix bytes and nonbytes literals"
  | wideBytes => "bytes can only contain ASCII literal characters"
  | malformed => "malformed node or string"

inductive Token where
  | opening (c : Char)
  | closing (c : Char)
  | name (s : String)
  | number (isImaginary : Bool)
  | text (isBytes : Bool)
  | sign (s : String)
  | lineEnd
  /-- Nothing can be read from here on, for a reason that counts only for who comes here. -/
  | stop (e : Fault)
  deriving DecidableEq, Repr

def goesOn (c : Char) : Bool := c.isAlphanum || c == '_' || 0x80 ≤ c.toNat

def isHexDigit (c : Char) : Bool :=
  c.isDigit || ('a' ≤ c && c ≤ 'f') || ('A' ≤ c && c ≤ 'F')

def afterDigits? (isDigit : Char → Bool) : (ready : Bool) → List Char → Option (List Char)
  | ready, [] => if ready then some [] else none
  | ready, c :: r =>
    if isDigit c then afterDigits? isDigit true r
    else if !ready then none
    else if c == '_' then afterDigits? isDigit false r
    else some (c :: r)

/-- A number ends before these words, although no blank stands there. -/
def joinsNumber (word : String) : Bool :=
  ["and", "else", "for", "not", "or"].contains word
    || ["if", "in", "is"].any fun w => w.toList.isPrefixOf word.toList

def endNumber (kind : String) (isImaginary : Bool) (rest : List Char) :
    Except Fault (Token × List Char) :=
  let joins := joinsNumber (String.ofList (rest.takeWhile goesOn))
  let isWrong (c : Char) : Bool := c.isAlphanum || c == '_'
  if !joins && rest.head?.any isWrong then .error (.badNumber kind)
  else .ok (.number isImaginary, rest)

/-- A number in a base, after its marker. One underscore may stand in front of its digits. -/
def readMarked (kind : String) (isDigit : Char → Bool) (cs : List Char) :
    Except Fault (Token × List Char) :=
  let digits := match cs with
    | '_' :: r => r
    | _ => cs
  let wrong (rest : List Char) : Option Char := rest.head?.filter Char.isDigit
  match afterDigits? isDigit false digits with
  | some rest => match wrong rest with
    | some d => .error (.badDigit d kind)
    | none => endNumber kind false rest
  | none => match wrong (digits.dropWhile fun c => isDigit c || c == '_') with
    | some d => .error (.badDigit d kind)
    | none => .error (.badNumber kind)

def afterFraction? : List Char → Option (List Char)
  | '.' :: d :: r => if d.isDigit then afterDigits? Char.isDigit false (d :: r) else some (d :: r)
  | '.' :: [] => some []
  | cs => some cs

def afterExponent? : List Char → Option (List Char)
  | m :: r =>
    if m == 'e' || m == 'E' then
      match r with
      | s :: t =>
        if s == '+' || s == '-' then afterDigits? Char.isDigit false t
        else if s.isDigit then afterDigits? Char.isDigit false r
        else some (m :: r)
      | [] => some [m]
    else some (m :: r)
  | [] => some []

def readDecimal (cs : List Char) : Except Fault (Token × List Char) :=
  let whole := if cs.head?.any Char.isDigit then afterDigits? Char.isDigit false cs else some cs
  let last := do
    let whole ← whole
    let rest ← (afterFraction? whole).bind afterExponent?
    pure (whole, rest)
  match last with
  | none => .error (.badNumber "decimal")
  | some (whole, rest) =>
    let digits := (cs.take (cs.length - whole.length)).filter (· != '_')
    let isWhole := rest.length == whole.length
    match rest with
    | 'j' :: r | 'J' :: r => endNumber "imaginary" true r
    | _ =>
      if isWhole && digits.head? == some '0' && digits.any (· != '0') then .error .leadingZeros
      else endNumber "decimal" false rest

def readNumber : List Char → Except Fault (Token × List Char)
  | '0' :: 'x' :: r | '0' :: 'X' :: r => readMarked "hexadecimal" isHexDigit r
  | '0' :: 'o' :: r | '0' :: 'O' :: r => readMarked "octal" (fun c => '0' ≤ c && c < '8') r
  | '0' :: 'b' :: r | '0' :: 'B' :: r => readMarked "binary" (fun c => c == '0' || c == '1') r
  | cs => readDecimal cs

/-- What follows a quoted text of one line, and the text. A backslash takes a character along. -/
def afterText? (mark : Char) : List Char → Option (List Char × List Char)
  | [] => none
  | '\\' :: c :: r => (afterText? mark r).map fun p => ('\\' :: c :: p.1, p.2)
  | c :: r =>
    if c == mark then some ([], r)
    else if c == '\n' then none
    else (afterText? mark r).map fun p => (c :: p.1, p.2)

/-- The same for a text between marks that are written three times. -/
def afterTripleText? (mark : Char) : List Char → Option (List Char × List Char)
  | '\\' :: c :: r => (afterTripleText? mark r).map fun p => ('\\' :: c :: p.1, p.2)
  | a :: b :: c :: r =>
    if a == mark && b == mark && c == mark then some ([], r)
    else (afterTripleText? mark (b :: c :: r)).map fun p => (a :: p.1, p.2)
  | _ => none

def lineBreaks (cs : List Char) : Nat := cs.countP (· == '\n')

def readText (line : Nat) (isBytes : Bool) (mark : Char) (cs : List Char) :
    Except Fault (Token × List Char) := do
  let (body, rest) ← match cs with
    | a :: b :: r =>
      if a == mark && b == mark then
        match afterTripleText? mark r with
        | some p => pure p
        | none => throw (.unterminatedTriple (line + lineBreaks r))
      else match afterText? mark cs with
        | some p => pure p
        | none => throw (.unterminated line)
    | _ => match afterText? mark cs with
      | some p => pure p
      | none => throw (.unterminated line)
  if isBytes && body.any (fun c => 0x80 ≤ c.toNat) then throw .wideBytes
  pure (.text isBytes, rest)

def textMarkers : List String := ["r", "b", "u", "f", "br", "rb", "fr", "rf"]

def nameFault? (word : List Char) : Option Fault :=
  let isBad (c : Char) : Bool := 0x80 ≤ c.toNat && !isWord c
  match word with
  | first :: rest =>
    if isBad first || (0x80 ≤ first.toNat && (digitValue? first).isSome) then
      some (.badCharacter first)
    else (rest.find? isBad).map .badCharacter
  | [] => none

def readWord (line : Nat) (cs : List Char) : Except Fault (Token × List Char) :=
  let word := cs.takeWhile goesOn
  let rest := cs.drop word.length
  let marker := String.ofList (word.map Char.toLower)
  let name : Except Fault (Token × List Char) := match nameFault? word with
    | some e => .error e
    | none => .ok (.name (String.ofList word), rest)
  match rest with
  | mark :: r =>
    if (mark == '\'' || mark == '"') && textMarkers.contains marker then
      readText line (marker.toList.contains 'b') mark r
    else name
  | [] => name

def longSigns : List String := [
  "**=", "//=", ">>=", "<<=", "...", "!=", "%=", "&=", "**", "*=", "+=", "-=", "->", "//", "/=",
  ":=", "<<", "<=", "<>", "==", ">=", ">>", "@=", "^=", "|="]

def readSign (cs : List Char) : Except Fault (Token × List Char) :=
  match longSigns.find? fun s => s.toList.isPrefixOf cs, cs with
  | some s, _ => .ok (.sign s, cs.drop s.length)
  | none, c :: r => if isPrintable c then .ok (.sign (String.singleton c), r)
    else .error (.badCharacter c)
  | none, [] => .error .invalid

def partner (c : Char) : Char := if c == '(' then ')' else if c == '{' then '}' else ']'

/-- Reads tokens; `opened` are the brackets that wait for their partners, the latest first. -/
def tokensWithin : (fuel line : Nat) → (opened : List Char) → List Char →
    Except Fault (List Token)
  | 0, _, _, _ => .error .invalid
  | _ + 1, _, [], [] => .ok []
  | _ + 1, _, c :: _, [] => .ok [.stop (.neverClosed c)]
  | fuel + 1, line, opened, c :: r => do
    let go (line : Nat) (opened : List Char) (t : Token) (rest : List Char) :
        Except Fault (List Token) := do
      pure (t :: (← tokensWithin fuel line opened rest))
    if c == ' ' || c == '\t' || c == '\x0c' then tokensWithin fuel line opened r
    else if c == '#' then tokensWithin fuel line opened (r.dropWhile (· != '\n'))
    else if c == '\n' then
      if opened.isEmpty then go (line + 1) opened .lineEnd r
      else tokensWithin fuel (line + 1) opened r
    else if c == '\\' then
      match r with
      | '\n' :: r => tokensWithin fuel (line + 1) opened r
      | _ => pure [.stop .strayBackslash]
    else if c == '(' || c == '{' || c == '[' then go line (c :: opened) (.opening c) r
    else if c == ')' || c == '}' || c == ']' then
      match opened with
      | [] => throw (.unmatched c)
      | o :: opened =>
        if partner o == c then go line opened (.closing c) r else throw (.mismatched c o)
    else
      let startsNumber := c.isDigit || (c == '.' && r.head?.any Char.isDigit)
      let (t, rest) ←
        if startsNumber then readNumber (c :: r)
        else if c == '\'' || c == '"' then readText line false c r
        else if goesOn c then readWord line (c :: r)
        else readSign (c :: r)
      let passed := (c :: r).take (r.length + 1 - rest.length)
      go (line + lineBreaks passed) opened t rest

/-- The tokens of an expression. The first character that cannot belong to one decides. -/
def tokens (cs : List Char) : Except Fault (List Token) := tokensWithin (cs.length + 1) 1 [] cs

end CiWorkflow.Text.Literal
