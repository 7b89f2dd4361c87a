import CiWorkflow.Yaml.Scanner
import CiWorkflow.Yaml.Tag

set_option autoImplicit false

namespace CiWorkflow.Yaml

inductive Node where
  | scalar (tag : Tag) (text : String)
  | sequence (tag : Tag) (items : List Node)
  | mapping (tag : Tag) (entries : List (Node × Node))
  /-- The collection of this name, met inside itself. -/
  | again (anchor : String)

namespace Node

/-- A node with an anchor; `none` while the collection is still open. -/
abbrev Anchors := List (String × Option Node)

structure Parser where
  tokens : List Token
  anchors : Anchors
  handles : List (String × String)

def Parser.peek (p : Parser) : Except Fault Token :=
  match p.tokens with
  | .fault f :: _ => .error f
  | t :: _ => .ok t
  | [] => .ok .streamEnd

def Parser.skip (p : Parser) : Parser := { p with tokens := p.tokens.drop 1 }

def Parser.bindAnchor (name : Option String) (node : Option Node) (p : Parser) : Parser :=
  match name with
  | some a => { p with anchors := (a, node) :: p.anchors }
  | none => p

/-- An anchor may be given once. -/
def Parser.checkAnchor (name : Option String) (p : Parser) : Except Fault Unit :=
  match name with
  | some a => if (p.anchors.lookup a).isSome then .error .malformed else .ok ()
  | none => .ok ()

structure Properties where
  anchor : Option String
  tag : Option String

def resolveHandle (handles : List (String × String)) :
    Option String → String → Except Fault String
  | none, suffix => .ok suffix
  | some h, suffix => match handles.lookup h with
    | some expansion => .ok (expansion ++ suffix)
    | none => .error .malformed

def readProperties (p : Parser) : Except Fault (Properties × Parser) := do
  let first ← p.peek
  let (anchor, tag, p) ← match first with
    | .anchor a => do
      let p := p.skip
      match ← p.peek with
      | .tag h s => pure (some a, some (h, s), p.skip)
      | _ => pure (some a, none, p)
    | .tag h s => do
      let p := p.skip
      match ← p.peek with
      | .anchor a => pure (some a, some (h, s), p.skip)
      | _ => pure (none, some (h, s), p)
    | _ => pure (none, none, p)
  match tag with
  | some (h, s) => do
    let name ← resolveHandle p.handles h s
    pure (⟨anchor, some name⟩, p)
  | none => pure (⟨anchor, none⟩, p)

def collectionTag (fallback : Tag) : Option String → Tag
  | none => fallback
  | some "!" => fallback
  | some name => Tag.ofName name

def scalarTag (plain : Bool) (text : String) : Option String → Tag
  | none => if plain then Tag.ofScalar text.toList else .str
  | some "!" => Tag.ofScalar text.toList
  | some name => Tag.ofName name

def empty : Node := scalar .null ""

def addScalar (props : Properties) (plain : Bool) (text : String) (p : Parser) :
    Except Fault (Node × Parser) := do
  p.checkAnchor props.anchor
  let node := scalar (scalarTag plain text props.tag) text
  pure (node, p.bindAnchor props.anchor (some node))

def isAny (ts : List Token) (t : Token) : Bool := ts.contains t

mutual

/-- One node; in a block context block collections are allowed, and where a mapping's key or value
is to come also entries that are not indented. -/
def parse : Nat → (block loose : Bool) → Parser → Except Fault (Node × Parser)
  | 0, _, _, _ => .error .malformed
  | fuel + 1, block, loose, p => do
    match ← p.peek with
    | .reference a =>
      match p.anchors.lookup a with
      | some (some node) => pure (node, p.skip)
      | some none => pure (again a, p.skip)
      | none => throw .malformed
    | _ =>
      let (props, p) ← readProperties p
      let token ← p.peek
      let collect (tag : Tag) (start : Parser)
          (items : Parser → Except Fault ((Tag → Node) × Parser)) :
          Except Fault (Node × Parser) := do
        start.checkAnchor props.anchor
        let (make, rest) ← items (start.bindAnchor props.anchor none)
        let node := make (collectionTag tag props.tag)
        pure (node, rest.bindAnchor props.anchor (some node))
      match token with
      | .entry =>
        if loose then
          collect .seq p fun p => do
            let (items, p) ← parseLooseEntries fuel p
            pure ((sequence · items), p)
        else if props.anchor.isSome || props.tag.isSome then addScalar props true "" p
        else throw .malformed
      | .scalar plain text => addScalar props plain text p.skip
      | .openSequence =>
        collect .seq p.skip fun p => do
          let (items, p) ← parseFlowItems fuel true p
          pure ((sequence · items), p)
      | .openMapping =>
        collect .map p.skip fun p => do
          let (entries, p) ← parseFlowEntries fuel true p
          pure ((mapping · entries), p)
      | .blockSequence =>
        if block then
          collect .seq p.skip fun p => do
            let (items, p) ← parseEntries fuel p
            pure ((sequence · items), p)
        else if props.anchor.isSome || props.tag.isSome then addScalar props true "" p
        else throw .malformed
      | .blockMapping =>
        if block then
          collect .map p.skip fun p => do
            let (entries, p) ← parseKeys fuel p
            pure ((mapping · entries), p)
        else if props.anchor.isSome || props.tag.isSome then addScalar props true "" p
        else throw .malformed
      | _ =>
        if props.anchor.isSome || props.tag.isSome then addScalar props true "" p
        else throw .malformed

/-- A node, or an empty one where one of the given tokens comes first. -/
def parseUnless : Nat → (block loose : Bool) → List Token → Parser → Except Fault (Node × Parser)
  | 0, _, _, _, _ => .error .malformed
  | fuel + 1, block, loose, ts, p => do
    if isAny ts (← p.peek) then pure (empty, p) else parse fuel block loose p

def parseEntries : Nat → Parser → Except Fault (List Node × Parser)
  | 0, _ => .error .malformed
  | fuel + 1, p => do
    match ← p.peek with
    | .entry =>
      let (item, p) ← parseUnless fuel true false [.entry, .blockEnd] p.skip
      let (items, p) ← parseEntries fuel p
      pure (item :: items, p)
    | .blockEnd => pure ([], p.skip)
    | _ => throw .malformed

def parseLooseEntries : Nat → Parser → Except Fault (List Node × Parser)
  | 0, _ => .error .malformed
  | fuel + 1, p => do
    match ← p.peek with
    | .entry =>
      let (item, p) ← parseUnless fuel true false [.entry, .key, .value, .blockEnd] p.skip
      let (items, p) ← parseLooseEntries fuel p
      pure (item :: items, p)
    | _ => pure ([], p)

def parseKeys : Nat → Parser → Except Fault (List (Node × Node) × Parser)
  | 0, _ => .error .malformed
  | fuel + 1, p => do
    match ← p.peek with
    | .key =>
      let (k, p) ← parseUnless fuel true true [.key, .value, .blockEnd] p.skip
      let (v, p) ← parseBlockValue fuel p
      let (entries, p) ← parseKeys fuel p
      pure ((k, v) :: entries, p)
    | .blockEnd => pure ([], p.skip)
    | _ => throw .malformed

def parseBlockValue : Nat → Parser → Except Fault (Node × Parser)
  | 0, _ => .error .malformed
  | fuel + 1, p => do
    match ← p.peek with
    | .value => parseUnless fuel true true [.key, .value, .blockEnd] p.skip
    | _ => pure (empty, p)

def parseFlowValue : Nat → List Token → Parser → Except Fault (Node × Parser)
  | 0, _, _ => .error .malformed
  | fuel + 1, closers, p => do
    match ← p.peek with
    | .value => parseUnless fuel false false closers p.skip
    | _ => pure (empty, p)

def parseFlowItems : Nat → (first : Bool) → Parser → Except Fault (List Node × Parser)
  | 0, _, _ => .error .malformed
  | fuel + 1, first, p => do
    if (← p.peek) = .closeSequence then pure ([], p.skip)
    else
      if !first && (← p.peek) != .comma then throw .malformed
      let p := if first then p else p.skip
      match ← p.peek with
      | .closeSequence => pure ([], p.skip)
      | .key =>
        let (k, p) ← parseUnless fuel false false [.value, .comma, .closeSequence] p.skip
        let (v, p) ← parseFlowValue fuel [.comma, .closeSequence] p
        let (items, p) ← parseFlowItems fuel false p
        pure (mapping .map [(k, v)] :: items, p)
      | _ =>
        let (item, p) ← parse fuel false false p
        let (items, p) ← parseFlowItems fuel false p
        pure (item :: items, p)

def parseFlowEntries : Nat → (first : Bool) → Parser → Except Fault (List (Node × Node) × Parser)
  | 0, _, _ => .error .malformed
  | fuel + 1, first, p => do
    if (← p.peek) = .closeMapping then pure ([], p.skip)
    else
      if !first && (← p.peek) != .comma then throw .malformed
      let p := if first then p else p.skip
      match ← p.peek with
      | .closeMapping => pure ([], p.skip)
      | .key =>
        let (k, p) ← parseUnless fuel false false [.value, .comma, .closeMapping] p.skip
        let (v, p) ← parseFlowValue fuel [.comma, .closeMapping] p
        let (entries, p) ← parseFlowEntries fuel false p
        pure ((k, v) :: entries, p)
      | _ =>
        let (k, p) ← parse fuel false false p
        let (entries, p) ← parseFlowEntries fuel false p
        pure ((k, empty) :: entries, p)

end

def defaultHandles : List (String × String) := [("!", "!"), ("!!", Tag.standard)]

/-- The directives in front of a document: one version at most, which must be 1, and a handle
once. -/
def readDirectives : List Token → (version : Bool) → List (String × String) →
    Except Fault (List (String × String) × List Token)
  | .version major :: rest, version, handles =>
    if version || major != 1 then .error .malformed else readDirectives rest true handles
  | .tagHandle h e :: rest, version, handles =>
    if (handles.lookup h).isSome then .error .malformed
    else readDirectives rest version ((h, e) :: handles)
  | .reserved :: rest, version, handles => readDirectives rest version handles
  | .fault f :: _, _, _ => .error f
  | rest, _, handles => .ok (handles ++ defaultHandles, rest)

def startsContent (t : Token) : Bool :=
  match t with
  | .version _ | .tagHandle _ _ | .reserved | .documentStart | .streamEnd => false
  | _ => true

/-- Nothing but the end of the text may follow the ends of a document. Whatever else does is looked
at as the start of another one. -/
def expectStreamEnd (p : Parser) : Except Fault Unit := do
  let rest := p.tokens.dropWhile fun t => t == .documentEnd
  match ← { p with tokens := rest }.peek with
  | .streamEnd => pure ()
  | _ =>
    let _ ← readDirectives rest false []
    throw .malformed

def expectEnd (p : Parser) : Except Fault Unit := do
  match ← p.peek with
  | .documentEnd => expectStreamEnd p.skip
  | _ => expectStreamEnd p

structure Document where
  root : Node
  anchors : Anchors

/-- The only document of a text; `none` if the text holds none. -/
def ofTokens? (tokens : List Token) : Except Fault (Option Document) := do
  let fuel := 4 * tokens.length + 8
  let start : Parser := ⟨tokens, [], defaultHandles⟩
  if startsContent (← start.peek) then
    let (root, p) ← parse fuel true false start
    expectEnd p
    pure (some ⟨root, p.anchors⟩)
  else
    match ← start.peek with
    | .streamEnd => pure none
    | _ =>
      let (handles, rest) ← readDirectives tokens false []
      let p : Parser := ⟨rest, [], handles⟩
      match ← p.peek with
      | .documentStart =>
        let p := p.skip
        let token ← p.peek
        let (root, p) ←
          if !startsContent token || token == .documentEnd then pure (empty, p)
          else parse fuel true false p
        expectEnd p
        pure (some ⟨root, p.anchors⟩)
      | _ => throw .malformed

end Node

end CiWorkflow.Yaml
