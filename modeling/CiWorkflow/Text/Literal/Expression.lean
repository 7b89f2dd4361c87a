import CiWorkflow.Text.Literal.Token

/-! Expressions as far as they have to be told apart: literals, other expressions, and texts that
are no expression, with the reason. A text is read once for whether it is an expression at all,
and, if it is none, once more for the first place with a known reason. -/

set_option autoImplicit false

namespace CiWorkflow.Text.Literal

inductive Shape where
  | name
  | constant
  | literal
  | number (isImaginary : Bool)
  | ellipsis
  | call
  | member
  | operation
  | tuple
  | dictionary
  | set
  /-- Comparisons, negations, connectives and choices. -/
  | logic
  deriving DecidableEq, Repr

/-- The words for what cannot stand in front of an equals sign, if it can be told. -/
def Shape.what? : Shape → Option String
  | name => some "name"
  | literal | number _ => some "literal"
  | ellipsis => some "ellipsis"
  | call => some "function call"
  | member => some "attribute"
  | operation => some "expression"
  | dictionary => some "dict literal"
  | set => some "set display"
  | constant | tuple | logic => none

structure Piece where
  shape : Shape
  isLiteral : Bool
  deriving DecidableEq, Repr

structure Reading where
  /-- Reasons are looked for. -/
  explains : Bool
  /-- The number of brackets around. -/
  depth : Nat

/-- An expression and the tokens after it, or no expression, with or without a reason. -/
abbrev Parsed := Except (Option Fault) (Piece × List Token)

def reserved : List String := [
  "False", "None", "True", "and", "as", "assert", "async", "await", "break", "class", "continue",
  "def", "del", "elif", "else", "except", "finally", "for", "from", "global", "if", "import",
  "in", "is", "lambda", "nonlocal", "not", "or", "pass", "raise", "return", "try", "while",
  "with", "yield"]

def isName (s : String) : Bool := !reserved.contains s

def binarySigns : List String := [
  "+", "-", "*", "/", "//", "%", "@", "**", "<<", ">>", "&", "|", "^"]

def afterComparison? : List Token → Option (List Token)
  | .name "not" :: .name "in" :: r | .name "is" :: .name "not" :: r => some r
  | .name "in" :: r | .name "is" :: r => some r
  | .sign s :: r => if ["==", "!=", "<", "<=", ">", ">="].contains s then some r else none
  | _ => none

def afterTexts (isBytes : Bool) : List Token → Parsed
  | .text b :: r => if b == isBytes then afterTexts isBytes r else .error (some .mixedTexts)
  | ts => .ok (⟨.literal, true⟩, ts)

/-- The expression begins with a word after which a missing comma is not assumed. -/
def startsSpecially : List Token → Bool
  | .name s :: .text _ :: _ => isName s
  | .name s :: _ => ["_", "case", "match"].contains s
  | _ => false

def isAssignmentAhead : List Token → Bool
  | .sign s :: _ => s == "=" || s == ":="
  | _ => false

def legacyName? : List Token → Option String
  | .name s :: r =>
    if (s == "print" || s == "exec") && r.head? != some (.opening '(') then some s else none
  | _ => none

def fail {α : Type} : List Token → Except (Option Fault) α
  | .stop e :: _ => .error (some e)
  | _ => .error none

def orBefore {α : Type} (longer : Except (Option Fault) α) (before : α) :
    Except (Option Fault) α :=
  match longer with
  | .error none => .ok before
  | _ => longer

/-- Whether an expression was read. What comes after it is looked at. -/
def isRead : Parsed → Except (Option Fault) Bool
  | .ok (_, ts) => match ts with
    | .stop e :: _ => .error (some e)
    | _ => .ok true
  | .error none => .ok false
  | .error (some e) => .error (some e)

def endsValue : List Token → Bool
  | .closing '}' :: _ | .sign "," :: _ => true
  | _ => false

mutual

def expression : (fuel : Nat) → Reading → List Token → Parsed
  | 0, _, _ => .error none
  | fuel + 1, how, ts => do
    let plainly : Reading := { how with explains := false }
    let (first, rest) ← disjunction fuel how ts
    if how.explains then
      if !startsSpecially ts then
        let isNext ← isRead (expression fuel plainly rest)
        if isNext && how.depth != 0 && (legacyName? ts).isNone then
          throw (some .missingComma)
      match rest with
      | .name "if" :: r =>
        match disjunction fuel how r with
        | .ok (_, .name "else" :: _) | .ok (_, .sign ":" :: _) | .error none => pure ()
        | .ok (_, .stop e :: _) | .error (some e) => throw (some e)
        | .ok _ => throw (some .missingElse)
      | _ => pure ()
      match ts with
      | .name s :: r =>
        if isName s && r.head? != some (.opening '(') then
          let isNext ← isRead (listed fuel how true r)
          if isNext && (legacyName? ts).isSome then throw (some (.bareCall s))
      | _ => pure ()
    match rest with
    | .name "if" :: r => orBefore (choice fuel how r) (first, rest)
    | _ => pure (first, rest)

def choice : (fuel : Nat) → Reading → List Token → Parsed
  | 0, _, _ => .error none
  | fuel + 1, how, ts => do
    match ← disjunction fuel how ts with
    | (_, .name "else" :: r) => do
      let (_, rest) ← expression fuel how r
      pure (⟨.logic, false⟩, rest)
    | (_, rest) => fail rest

/-- Expressions with commas between them. Some of them may be `starred`. -/
def listed : (fuel : Nat) → Reading → (starred : Bool) → List Token → Parsed
  | 0, _, _, _ => .error none
  | fuel + 1, how, starred, ts => do
    let (first, rest) ← match starred, ts with
      | true, .sign "*" :: r => sum fuel how r
      | _, _ => expression fuel how ts
    match rest with
    | .sign "," :: r => do
      let longer := (listed fuel how starred r).map fun p =>
        (⟨.tuple, first.isLiteral && p.1.isLiteral⟩, p.2)
      orBefore longer (⟨.tuple, first.isLiteral⟩, r)
    | _ => pure (first, rest)

def disjunction : (fuel : Nat) → Reading → List Token → Parsed
  | 0, _, _ => .error none
  | fuel + 1, how, .name "not" :: r => do
    let (_, rest) ← disjunction fuel how r
    pure (⟨.logic, false⟩, rest)
  | fuel + 1, how, ts => do
    let (first, rest) ← comparison fuel how ts
    match rest with
    | .name "and" :: r | .name "or" :: r =>
      let longer := (disjunction fuel how r).map fun p => (⟨.logic, false⟩, p.2)
      orBefore longer (first, rest)
    | _ => pure (first, rest)

def comparison : (fuel : Nat) → Reading → List Token → Parsed
  | 0, _, _ => .error none
  | fuel + 1, how, ts => do
    let (first, rest) ← sum fuel how ts
    match afterComparison? rest with
    | some r =>
      let longer := (comparison fuel how r).map fun p => (⟨.logic, false⟩, p.2)
      orBefore longer (first, rest)
    | none => pure (first, rest)

/-- Operands with signs between them. Of these only complex numbers are literals. -/
def sum : (fuel : Nat) → Reading → List Token → Parsed
  | 0, _, _ => .error none
  | fuel + 1, how, ts => do
    let (first, rest) ← operand fuel how ts
    match rest with
    | .sign s :: r =>
      if binarySigns.contains s then
        let isNumber := first.isLiteral && match first.shape with
          | .number isImaginary => !isImaginary
          | .operation => true
          | _ => false
        let together (second : Piece) : Piece :=
          ⟨.operation, (s == "+" || s == "-") && isNumber && second.shape == .number true⟩
        let longer := (sum fuel how r).map fun p => (together p.1, p.2)
        orBefore longer (first, rest)
      else pure (first, rest)
    | _ => pure (first, rest)

/-- An operand with signs in front. Of these only numbers with one sign are literals. -/
def operand : (fuel : Nat) → Reading → List Token → Parsed
  | 0, _, _ => .error none
  | fuel + 1, how, .sign s :: r =>
    if s == "-" || s == "+" || s == "~" then do
      let (inner, rest) ← operand fuel how r
      let isNumber := match inner.shape with
        | .number _ => true
        | _ => false
      pure (⟨.operation, isNumber && s != "~"⟩, rest)
    else primary fuel how (.sign s :: r)
  | fuel + 1, how, ts => primary fuel how ts

def primary : (fuel : Nat) → Reading → List Token → Parsed
  | 0, _, _ => .error none
  | fuel + 1, how, ts => do
    let (first, rest) ← atom fuel how ts
    let isSet := ts.head? == some (.name "set") && first.shape == .name
    trailers fuel how isSet first rest

/-- Members and calls. Of these only the call that gives the empty set is a literal. -/
def trailers : (fuel : Nat) → Reading → (isSet : Bool) → Piece → List Token → Parsed
  | 0, _, _, _, _ => .error none
  | fuel + 1, how, isSet, first, ts =>
    match ts with
    | .sign "." :: .name s :: r =>
      if isName s then trailers fuel how false ⟨.member, false⟩ r else pure (first, ts)
    | .sign "." :: .stop e :: _ => .error (some e)
    | .opening '(' :: .closing ')' :: r => trailers fuel how false ⟨.call, isSet⟩ r
    | .opening '(' :: r => do
      match arguments fuel { how with depth := how.depth + 1 } r with
      | .ok rest => trailers fuel how false ⟨.call, false⟩ rest
      | .error none => pure (first, ts)
      | .error (some e) => throw (some e)
    | _ => pure (first, ts)

/-- The arguments of a call up to its bracket, and what follows that. -/
def arguments : (fuel : Nat) → Reading → List Token → Except (Option Fault) (List Token)
  | 0, _, _ => .error none
  | fuel + 1, how, ts => do
    let rest ← match ts with
      | .sign "*" :: r | .sign "**" :: r => do
        let (_, rest) ← expression fuel how r
        pure rest
      | .name s :: .sign "=" :: r =>
        if isName s then do
          let (_, rest) ← expression fuel how r
          pure rest
        else fail ts
      | .name _ :: .sign ":=" :: r => do
        let (_, rest) ← expression fuel how r
        pure rest
      | _ => do
        let (_, rest) ← expression fuel how ts
        match rest with
        | .sign "=" :: _ => throw (if how.explains then some .assignsArgument else none)
        | _ => pure rest
    match rest with
    | .closing ')' :: rest | .sign "," :: .closing ')' :: rest => pure rest
    | .sign "," :: rest => arguments fuel how rest
    | _ => fail rest

def atom : (fuel : Nat) → Reading → List Token → Parsed
  | 0, _, _ => .error none
  | fuel + 1, how, ts =>
    let inside : Reading := { how with depth := how.depth + 1 }
    match ts with
    | .name s :: r =>
      if ["True", "False", "None"].contains s then .ok (⟨.constant, true⟩, r)
      else if isName s then .ok (⟨.name, false⟩, r)
      else fail ts
    | .number isImaginary :: r => .ok (⟨.number isImaginary, true⟩, r)
    | .text isBytes :: r => afterTexts isBytes r
    | .sign "..." :: r => .ok (⟨.ellipsis, true⟩, r)
    | .opening '(' :: .closing ')' :: r => .ok (⟨.tuple, true⟩, r)
    | .opening '(' :: r => group fuel inside r
    | .opening '{' :: .closing '}' :: r => .ok (⟨.dictionary, true⟩, r)
    | .opening '{' :: r => braces fuel inside r
    | _ => fail ts

def item : (fuel : Nat) → Reading → List Token → Parsed
  | 0, _, _ => .error none
  | fuel + 1, how, ts =>
    match ts with
    | .name _ :: .sign ":=" :: r => do
      let (_, rest) ← expression fuel how r
      pure (⟨.logic, false⟩, rest)
    | _ => do
      let (first, rest) ← expression fuel how ts
      match rest, first.shape.what? with
      | .sign "=" :: r, some what =>
        if how.explains then
          match sum fuel how r with
          | .ok (_, .stop e :: _) | .error (some e) => throw (some e)
          | .ok (_, after) =>
            if !isAssignmentAhead after then
              match ts with
              | .name _ :: .sign "=" :: _ => throw (some .meantEquality)
              | _ => throw (some (.notAssignable what))
          | .error none => pure ()
        pure (first, rest)
      | .sign ":=" :: r, some what =>
        if how.explains then
          let isNext ← isRead (expression fuel how r)
          if isNext then throw (some (.notNameable what))
        pure (first, rest)
      | _, _ => pure (first, rest)

/-- Items with commas between them up to a bracket, and whether all of them are literals. -/
def items : (fuel : Nat) → Reading → (closing : Char) → (isLiteral : Bool) → List Token →
    Except (Option Fault) (Bool × List Token)
  | 0, _, _, _, _ => .error none
  | fuel + 1, how, closing, isLiteral, ts => do
    let (isLiteral, rest) ← match ts with
      | .sign "*" :: r => do
        let (_, rest) ← sum fuel how r
        pure (false, rest)
      | _ => do
        let (first, rest) ← item fuel how ts
        pure (isLiteral && first.isLiteral, rest)
    match rest with
    | .closing c :: rest => if c == closing then pure (isLiteral, rest) else fail []
    | .sign "," :: .closing c :: rest =>
      if c == closing then pure (isLiteral, rest) else fail []
    | .sign "," :: rest => items fuel how closing isLiteral rest
    | _ => fail rest

def group : (fuel : Nat) → Reading → List Token → Parsed
  | 0, _, _ => .error none
  | fuel + 1, how, ts =>
    match ts with
    | .sign "**" :: r => do
      let (_, rest) ← expression fuel how r
      match rest with
      | .closing ')' :: _ => throw (if how.explains then some .doubleStarred else none)
      | _ => fail rest
    | .sign "*" :: r => do
      let (_, rest) ← sum fuel how r
      match rest with
      | .closing ')' :: _ => throw (if how.explains then some .starred else none)
      | _ => do
        let (_, rest) ← items fuel how ')' false ts
        pure (⟨.tuple, false⟩, rest)
    | _ => do
      let (first, rest) ← item fuel how ts
      match rest with
      | .closing ')' :: rest => pure (first, rest)
      | .sign "," :: .closing ')' :: rest => pure (⟨.tuple, first.isLiteral⟩, rest)
      | .sign "," :: rest => do
        let (isLiteral, rest) ← items fuel how ')' first.isLiteral rest
        pure (⟨.tuple, isLiteral⟩, rest)
      | _ => fail rest

def braces : (fuel : Nat) → Reading → List Token → Parsed
  | 0, _, _ => .error none
  | fuel + 1, how, ts =>
    match ts with
    | .sign "**" :: _ => do
      let (_, rest) ← entries fuel how true ts
      pure (⟨.dictionary, false⟩, rest)
    | .sign "*" :: _ => do
      let (_, rest) ← items fuel how '}' false ts
      pure (⟨.set, false⟩, rest)
    | _ => do
      let (first, rest) ← item fuel how ts
      match rest with
      | .closing '}' :: rest | .sign "," :: .closing '}' :: rest =>
        pure (⟨.set, first.isLiteral⟩, rest)
      | .sign "," :: rest => do
        let (isLiteral, rest) ← items fuel how '}' first.isLiteral rest
        pure (⟨.set, isLiteral⟩, rest)
      | .sign ":" :: rest => do
        let (isLiteral, rest) ← entryValue fuel how first.isLiteral rest
        pure (⟨.dictionary, isLiteral⟩, rest)
      | _ => fail rest

/-- The entries of a dictionary up to its bracket, and whether all of them are literals. -/
def entries : (fuel : Nat) → Reading → (isLiteral : Bool) → List Token →
    Except (Option Fault) (Bool × List Token)
  | 0, _, _, _ => .error none
  | fuel + 1, how, isLiteral, ts =>
    match ts with
    | .sign "**" :: r => do
      let (_, rest) ← sum fuel how r
      moreEntries fuel how false rest
    | _ => do
      let (key, rest) ← expression fuel how ts
      match rest with
      | .sign ":" :: r => entryValue fuel how (isLiteral && key.isLiteral) r
      | .stop _ :: _ => fail rest
      | _ => throw (if how.explains then some .missingColon else none)

def entryValue : (fuel : Nat) → Reading → (isLiteral : Bool) → List Token →
    Except (Option Fault) (Bool × List Token)
  | 0, _, _, _ => .error none
  | fuel + 1, how, isLiteral, ts => do
    if how.explains && endsValue ts then throw (some .missingValue)
    let (value, rest) ← expression fuel how ts
    moreEntries fuel how (isLiteral && value.isLiteral) rest

def moreEntries : (fuel : Nat) → Reading → (isLiteral : Bool) → List Token →
    Except (Option Fault) (Bool × List Token)
  | 0, _, _, _ => .error none
  | fuel + 1, how, isLiteral, ts =>
    match ts with
    | .closing '}' :: rest | .sign "," :: .closing '}' :: rest => pure (isLiteral, rest)
    | .sign "," :: rest => entries fuel how isLiteral rest
    | _ => fail ts

end

def fault? (cs : List Char) : Option Fault :=
  match tokens cs with
  | .error e => some e
  | .ok ts =>
    let fuel := 12 * ts.length + 12
    let whole (how : Reading) : Except (Option Fault) Piece := do
      let (piece, rest) ← listed fuel how false ts
      if rest.isEmpty then pure piece else fail rest
    match whole ⟨false, 0⟩ with
    | .ok piece => if piece.isLiteral then none else some .malformed
    | .error (some e) => some e
    | .error none =>
      match whole ⟨true, 0⟩ with
      | .error (some e) => some e
      | _ => some .invalid

end CiWorkflow.Text.Literal
