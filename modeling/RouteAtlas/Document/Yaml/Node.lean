import RouteAtlas.Document.Yaml.Scalar
import RouteAtlas.Document.Yaml.TokenStream

/-!
# YAML nodes

The tree of a document: scalars, sequences and mappings, each with its tag. `Node.ofTokens` reads the
tokens of a text that holds at most one document, and puts what an anchor names in the place of each
alias. An alias inside the very node that it names is a cycle.
-/

namespace RouteAtlas.Document.Yaml

open RouteAtlas.Text

/-- The namespace of the standard tags. -/
def standardTags : String := "tag:yaml.org,2002:"

/-- A standard tag. -/
def standardTag (name : String) : String := standardTags ++ name

/-- A node. -/
inductive Node where
  /-- A scalar with its text, by code points. -/
  | scalar (tag : String) (codes : List Nat)
  | sequence (tag : String) (items : List Node)
  | mapping (tag : String) (entries : List (Node × Node))
  /-- A sequence or mapping around this place. -/
  | cycle
  /-- What no value can be made of. -/
  | broken (fault : YamlFault)
deriving Repr, Inhabited

/-- The tag of a plain scalar without one. -/
def ScalarKind.tag : ScalarKind → String
  | .null => standardTag "null"
  | .bool => standardTag "bool"
  | .int => standardTag "int"
  | .float => standardTag "float"
  | .moment => standardTag "timestamp"
  | .merge => standardTag "merge"
  | .default => standardTag "value"
  | .indicator => standardTag "yaml"
  | .text => standardTag "str"

/-- The state of reading nodes. -/
structure NodeReading where
  tokens : List Token
  /-- What the anchors so far name. -/
  anchors : List (String × Node) := []
  /-- What the handles of tags stand for. -/
  handles : List (String × String) := []
deriving Inhabited

/-- A step of reading nodes. -/
abbrev ReadNode := StateT NodeReading Scanned

namespace ReadNode

/-- The text is no document. -/
def fail {α : Type} : ReadNode α := throw .malformed

/-- The next token. -/
def peek : ReadNode (Option Token) := do return (← get).tokens.head?

/-- Passes the next token. -/
def skip : ReadNode Unit := modify fun s => { s with tokens := s.tokens.drop 1 }

/-- The next token is one of these. -/
def isAt (ts : List Token) : ReadNode Bool := do return (← peek).any ts.contains

/-- Passes this token, or fails. -/
def expect (t : Token) : ReadNode Unit := do
  if ← isAt [t] then skip else fail

/-- Passes this token if it is the next. -/
def accept (t : Token) : ReadNode Bool := do
  if ← isAt [t] then
    skip
    return true
  else return false

/-! ## Properties -/

/-- The anchor and the tag of a node. -/
structure Properties where
  anchor : Option String := none
  tag : Option String := none
deriving Inhabited

/-- A tag from its handle and suffix. -/
def expandTag (handle : Option String) (suffix : String) : ReadNode String := do
  match handle with
  | none => return suffix
  | some handle =>
    match (← get).handles.find? (·.1 == handle) with
    | some (_, start) => return start ++ suffix
    | none => fail

/-- An anchor, if one comes next. -/
def readAnchor : ReadNode (Option String) := do
  match ← peek with
  | some (.anchor name) =>
    skip
    return some name
  | _ => return none

/-- A tag, if one comes next. -/
def readTag : ReadNode (Option String) := do
  match ← peek with
  | some (.tag handle suffix) =>
    skip
    return some (← expandTag handle suffix)
  | _ => return none

/-- The anchor and the tag before a node, in either order. -/
def readProperties : ReadNode Properties := do
  match ← readAnchor with
  | some anchor => return ⟨some anchor, ← readTag⟩
  | none =>
    match ← readTag with
    | some tag => return ⟨← readAnchor, some tag⟩
    | none => return ⟨none, none⟩

/-- Lets an anchor name a node. -/
def name (anchor : Option String) (n : Node) : ReadNode Unit := do
  match anchor with
  | none => return ()
  | some a => modify fun s => { s with anchors := (a, n) :: s.anchors }

/-- An anchor must be new. -/
def checkNew (anchor : Option String) : ReadNode Unit := do
  match anchor with
  | none => return ()
  | some a => if (← get).anchors.any (·.1 == a) then fail

/-- The tag of a collection. -/
def collectionTag (kind : String) (tag : Option String) : String :=
  match tag with
  | none => standardTag kind
  | some t => if t = "!" then standardTag kind else t

/-- A scalar node; a plain one without tag is what its text spells. -/
def scalarNode (tag : Option String) (isPlain : Bool) (codes : List Nat) : Node :=
  let spelt := (ScalarKind.ofPlain (readableText codes)).tag
  match tag with
  | none => .scalar (if isPlain then spelt else standardTag "str") codes
  | some t => .scalar (if t = "!" then spelt else t) codes

/-- The node of nothing. -/
def emptyNode : Node := scalarNode none true []

/-! ## Nodes -/

mutual

/-- A node. Dashes at the indentation of a key's mapping are a sequence if `loose`. -/
def readNode (fuel : Nat) (isBlock loose : Bool) : ReadNode Node :=
  match fuel with
  | 0 => fail
  | fuel + 1 => do
    match ← peek with
    | some (.alias a) =>
      skip
      match (← get).anchors.find? (·.1 == a) with
      | some (_, n) => return n
      | none => fail
    | _ =>
      let p ← readProperties
      checkNew p.anchor
      let t ← peek
      let n ← match t with
        | some (.scalar codes isPlain) => do
          skip
          pure (scalarNode p.tag isPlain codes)
        | some .flowSequence => readCollection p (.sequence (collectionTag "seq" p.tag) <$> do
          skip
          readFlowItems fuel true)
        | some .flowMapping => readCollection p (.mapping (collectionTag "map" p.tag) <$> do
          skip
          readFlowEntries fuel true)
        | _ =>
          if loose && t == some .blockEntry then
            readCollection p (.sequence (collectionTag "seq" p.tag) <$> readLooseItems fuel)
          else if isBlock && t == some .blockSequence then
            readCollection p (.sequence (collectionTag "seq" p.tag) <$> do
              skip
              readBlockItems fuel)
          else if isBlock && t == some .blockMapping then
            readCollection p (.mapping (collectionTag "map" p.tag) <$> do
              skip
              readBlockEntries fuel)
          else if p.anchor.isSome || p.tag.isSome then pure (scalarNode p.tag true [])
          else fail
      name p.anchor n
      return n

/-- A collection, which its anchor names as a cycle inside it. -/
def readCollection (p : Properties) (content : ReadNode Node) : ReadNode Node := do
  name p.anchor .cycle
  content

/-- A node, or nothing before one of these tokens. -/
def readUnless (fuel : Nat) (isBlock loose : Bool) (ends : List Token) : ReadNode Node :=
  match fuel with
  | 0 => fail
  | fuel + 1 => do
    if ← isAt ends then return emptyNode else readNode fuel isBlock loose

/-- The items of an indented sequence. -/
def readBlockItems (fuel : Nat) : ReadNode (List Node) :=
  match fuel with
  | 0 => fail
  | fuel + 1 => do
    if ← accept .blockEntry then
      let n ← readUnless fuel true false [.blockEntry, .blockEnd]
      return n :: (← readBlockItems fuel)
    else
      expect .blockEnd
      return []

/-- The items of a sequence that is not indented. -/
def readLooseItems (fuel : Nat) : ReadNode (List Node) :=
  match fuel with
  | 0 => fail
  | fuel + 1 => do
    if ← accept .blockEntry then
      let n ← readUnless fuel true false [.blockEntry, .key, .value, .blockEnd]
      return n :: (← readLooseItems fuel)
    else return []

/-- The entries of an indented mapping. -/
def readBlockEntries (fuel : Nat) : ReadNode (List (Node × Node)) :=
  match fuel with
  | 0 => fail
  | fuel + 1 => do
    let ends := [Token.key, .value, .blockEnd]
    if ← accept .key then
      let k ← readUnless fuel true true ends
      let v ← if ← accept .value then readUnless fuel true true ends else pure emptyNode
      return (k, v) :: (← readBlockEntries fuel)
    else
      expect .blockEnd
      return []

/-- The value of a pair inside brackets. -/
def readFlowValue (fuel : Nat) (ends : List Token) : ReadNode Node :=
  match fuel with
  | 0 => fail
  | fuel + 1 => do
    if ← accept .value then readUnless fuel false false ends else return emptyNode

/-- The items of a sequence in brackets; a pair among them is a mapping of its own. -/
def readFlowItems (fuel : Nat) (isFirst : Bool) : ReadNode (List Node) :=
  match fuel with
  | 0 => fail
  | fuel + 1 => do
    if ← accept .flowSequenceEnd then return []
    else
      if !isFirst then expect .flowEntry
      if ← accept .key then
        let k ← readUnless fuel false false [.value, .flowEntry, .flowSequenceEnd]
        let v ← readFlowValue fuel [.flowEntry, .flowSequenceEnd]
        return .mapping (standardTag "map") [(k, v)] :: (← readFlowItems fuel false)
      else if ← accept .flowSequenceEnd then return []
      else
        let n ← readNode fuel false false
        return n :: (← readFlowItems fuel false)

/-- The entries of a mapping in braces. -/
def readFlowEntries (fuel : Nat) (isFirst : Bool) : ReadNode (List (Node × Node)) :=
  match fuel with
  | 0 => fail
  | fuel + 1 => do
    if ← accept .flowMappingEnd then return []
    else
      if !isFirst then expect .flowEntry
      if ← accept .key then
        let k ← readUnless fuel false false [.value, .flowEntry, .flowMappingEnd]
        let v ← readFlowValue fuel [.flowEntry, .flowMappingEnd]
        return (k, v) :: (← readFlowEntries fuel false)
      else if ← accept .flowMappingEnd then return []
      else
        let k ← readNode fuel false false
        return (k, emptyNode) :: (← readFlowEntries fuel false)

end

/-! ## Documents -/

/-- The directives before a document. -/
def readDirectives (fuel : Nat) (hasVersion : Bool) : ReadNode Unit :=
  match fuel with
  | 0 => fail
  | fuel + 1 => do
    match ← peek with
    | some (.version major) =>
      if hasVersion || major != 1 then fail
      skip
      readDirectives fuel true
    | some (.tagHandle handle start) =>
      if (← get).handles.any (·.1 == handle) then fail
      modify fun s => { s with handles := (handle, start) :: s.handles }
      skip
      readDirectives fuel hasVersion
    | some .directive =>
      skip
      readDirectives fuel hasVersion
    | _ => return ()

/-- The handles that need no directive. -/
def standardHandles : List (String × String) := [("!", "!"), ("!!", standardTags)]

/-- Passes the ends of documents. -/
def skipDocumentEnds (fuel : Nat) : ReadNode Unit :=
  match fuel with
  | 0 => return ()
  | fuel + 1 => do
    if ← accept .documentEnd then skipDocumentEnds fuel

/-- The start of a document, which only a first document without directives may lack. -/
def readDocumentStart (fuel : Nat) : ReadNode Unit := do
  readDirectives fuel false
  modify fun s => { s with handles := s.handles ++ standardHandles }
  expect .documentStart

/-- The content of a document after its start. -/
def readContent (fuel : Nat) : ReadNode Node := do
  match ← peek with
  | some (.version _) => return emptyNode
  | some (.tagHandle _ _) => return emptyNode
  | some .directive => return emptyNode
  | _ =>
    if ← isAt [.documentStart, .documentEnd, .streamEnd] then return emptyNode
    else readNode fuel true false

/-- The only document of a text, if it has one. -/
def readStream (fuel : Nat) : ReadNode (Option Node) := do
  let bare ← match ← peek with
    | some (.version _) => pure false
    | some (.tagHandle _ _) => pure false
    | some .directive => pure false
    | _ => do pure !(← isAt [.documentStart, .streamEnd])
  if ← isAt [.streamEnd] then return none
  else
    let n ← if bare then do
        modify fun s => { s with handles := standardHandles }
        readNode fuel true false
      else do
        readDocumentStart fuel
        readContent fuel
    skipDocumentEnds fuel
    expect .streamEnd
    return some n

end ReadNode

/-- The document of a token list. -/
def Node.ofTokens (tokens : List Token) : Scanned (Option Node) :=
  ((ReadNode.readStream (4 * tokens.length + 8)).run { tokens }).map (·.1)

end RouteAtlas.Document.Yaml
