import Chip8.Yaml.Node
import Chip8.Yaml.Token.Lexer

/-!
# The nodes of a document

The grammar of documents over tokens. A node is an alias, or a scalar or collection after its properties; what
may be left out is the empty scalar. An anchor names one node of the document, and an alias may come only after
its anchor, but also inside the collection that it names. A stream holds at most one document.

Every rule takes a number of steps that it may still make; a step consumes a token or enters the next smaller
rule, so that a multiple of the number of tokens always suffices.
-/

namespace Chip8.Yaml

/-- The state of reading: the tokens ahead, the handles of tags, the nodes so far, the places of the named ones,
and how many collections are open. -/
structure Reading where
  tokens : List Token
  handles : List (String × String)
  nodes : Nodes := {}
  anchors : List (String × Nat) := []
  depth : Nat := 0

namespace Reading

/-- How many collections may stand inside each other in this reader. Another one may have more room for them, or less.
-/
def depthLimit : Nat := 489

abbrev Action := EStateM Fault Reading

/-- The next token; past the end of the stream it stays at the end. -/
def peek : Action Token := do
  match (← get).tokens with
  | [] => return .streamEnd
  | .broken e :: _ => throw e
  | t :: _ => return t

/-- Goes past the next token. -/
def advance : Action Unit := modify fun r => { r with tokens := r.tokens.tail }

/-- Goes past the next token if it is the given one, and says whether it was. -/
def accept (t : Token) : Action Bool := do
  if (← peek) = t then
    advance
    return true
  else return false

/-- Goes past the next token, which must be the given one. -/
def expect (t : Token) : Action Unit := do
  if !(← accept t) then throw .malformed

def ahead (ts : List Token) : Action Bool := do return (← peek) ∈ ts

/-- The anchor and the address of the tag before a node, in either order. -/
def properties : Action (Option String × Option String) := do
  let address (handle : Option String) (suffix : String) : Action String := do
    match handle with
    | none => return suffix
    | some h =>
      match (← get).handles.lookup h with
      | some lead => return lead ++ suffix
      | none => throw .malformed
  match ← peek with
  | .anchor name =>
    advance
    match ← peek with
    | .tag handle suffix =>
      advance
      return (some name, some (← address handle suffix))
    | _ => return (some name, none)
  | .tag handle suffix =>
    advance
    match ← peek with
    | .anchor name =>
      advance
      return (some name, some (← address handle suffix))
    | _ => return (none, some (← address handle suffix))
  | _ => return (none, none)

/-- The tag of a collection; an exclamation mark alone is no tag. -/
def collectionTag (address : Option String) (standard : Tag) : Tag :=
  match address with
  | none | some "!" => standard
  | some a => .ofAddress a

/-- The tag of a scalar: without one, a plain scalar is taken by its looks and a quoted one is text; after an
exclamation mark alone every scalar is taken by its looks. -/
def scalarTag (address : Option String) (plain : Bool) (text : Text) : Tag :=
  match address with
  | none => if plain then .ofLooks text else .str
  | some "!" => .ofLooks text
  | some a => .ofAddress a

def freshAnchor (anchor : Option String) : Action Unit := do
  if let some name := anchor then
    if (← get).anchors.any (·.1 = name) then throw .malformed

/-- Adds a node, under its name if it has one, and gives its place. -/
def add (anchor : Option String) (node : Node) : Action Nat := fun r =>
  let place := r.nodes.row.size
  let anchors := match anchor with
    | some name => (name, place) :: r.anchors
    | none => r.anchors
  .ok place { r with nodes := ⟨r.nodes.row.push node⟩, anchors }

def addEmpty : Action Nat := add none .empty

/-- Adds a collection, whose name may be used inside it. -/
def collection (anchor : Option String) (tag : Tag) (read : Action Content) : Action Nat := do
  if depthLimit ≤ (← get).depth then throw .tooDeep
  let place ← add anchor ⟨tag, .sequence []⟩
  modify fun r => { r with depth := r.depth + 1 }
  let content ← read
  modify fun r => { r with nodes := r.nodes.refill place content, depth := r.depth - 1 }
  return place

/-- The place of the node that an alias stands for. -/
def aliased (name : String) : Action Nat := do
  match (← get).anchors.lookup name with
  | some place => return place
  | none => throw .malformed

mutual

/-- A node; block collections only where they may stand, and a sequence without indentation only as the value
or key of a block mapping. -/
def node (block indentless : Bool) : (fuel : Nat) → Action Nat
  | 0 => throw .malformed
  | fuel + 1 => do
    match ← peek with
    | .alias n =>
      advance
      aliased n
    | _ =>
      let (anchor, address) ← properties
      let t ← peek
      match t, block, indentless with
      | .blockEntry, _, true =>
        freshAnchor anchor
        collection anchor (collectionTag address .seq) (.sequence <$> indentlessItems fuel)
      | .scalar text plain, _, _ =>
        freshAnchor anchor
        advance
        add anchor ⟨scalarTag address plain text, .scalar text⟩
      | .flowSequenceStart, _, _ =>
        freshAnchor anchor
        advance
        collection anchor (collectionTag address .seq) (.sequence <$> flowItems true fuel)
      | .flowMappingStart, _, _ =>
        freshAnchor anchor
        advance
        collection anchor (collectionTag address .map) (.mapping <$> flowEntries true fuel)
      | .blockSequenceStart, true, _ =>
        freshAnchor anchor
        advance
        collection anchor (collectionTag address .seq) (.sequence <$> blockItems fuel)
      | .blockMappingStart, true, _ =>
        freshAnchor anchor
        advance
        collection anchor (collectionTag address .map) (.mapping <$> blockEntries fuel)
      | _, _, _ =>
        if anchor.isNone && address.isNone then throw .malformed
        freshAnchor anchor
        add anchor ⟨scalarTag address true "", .scalar ""⟩

def blockItems : (fuel : Nat) → Action (List Nat)
  | 0 => throw .malformed
  | fuel + 1 => do
    if ← accept .blockEntry then
      let item ← if ← ahead [.blockEntry, .blockEnd] then addEmpty else node true false fuel
      return item :: (← blockItems fuel)
    else
      expect .blockEnd
      return []

/-- The items of a sequence that is not indented; it ends before the first token that is no entry. -/
def indentlessItems : (fuel : Nat) → Action (List Nat)
  | 0 => throw .malformed
  | fuel + 1 => do
    if ← accept .blockEntry then
      let item ←
        if ← ahead [.blockEntry, .key, .value, .blockEnd] then addEmpty else node true false fuel
      return item :: (← indentlessItems fuel)
    else return []

def blockEntries : (fuel : Nat) → Action (List (Nat × Nat))
  | 0 => throw .malformed
  | fuel + 1 => do
    if ← accept .key then
      let key ← if ← ahead [.key, .value, .blockEnd] then addEmpty else node true true fuel
      let value ←
        if ← accept .value then
          if ← ahead [.key, .value, .blockEnd] then addEmpty else node true true fuel
        else addEmpty
      return (key, value) :: (← blockEntries fuel)
    else
      expect .blockEnd
      return []

/-- The items of a flow sequence; a key makes an item that is a mapping of one entry. -/
def flowItems (first : Bool) : (fuel : Nat) → Action (List Nat)
  | 0 => throw .malformed
  | fuel + 1 => do
    if ← accept .flowSequenceEnd then return []
    if !first then expect .flowEntry
    if ← accept .key then
      let item ← collection none .map do
        let key ←
          if ← ahead [.value, .flowEntry, .flowSequenceEnd] then addEmpty else node false false fuel
        return .mapping [(key, ← flowValue .flowSequenceEnd fuel)]
      return item :: (← flowItems false fuel)
    else if ← accept .flowSequenceEnd then return []
    else
      let item ← node false false fuel
      return item :: (← flowItems false fuel)

/-- The entries of a flow mapping; a node without a key before it is a key without value. -/
def flowEntries (first : Bool) : (fuel : Nat) → Action (List (Nat × Nat))
  | 0 => throw .malformed
  | fuel + 1 => do
    if ← accept .flowMappingEnd then return []
    if !first then expect .flowEntry
    if ← accept .key then
      let key ←
        if ← ahead [.value, .flowEntry, .flowMappingEnd] then addEmpty else node false false fuel
      let value ← flowValue .flowMappingEnd fuel
      return (key, value) :: (← flowEntries false fuel)
    else if ← accept .flowMappingEnd then return []
    else
      let key ← node false false fuel
      return (key, ← addEmpty) :: (← flowEntries false fuel)

/-- The value after a key in a flow collection that ends with `close`. -/
def flowValue (close : Token) : (fuel : Nat) → Action Nat
  | 0 => throw .malformed
  | fuel + 1 => do
    if ← accept .value then
      if ← ahead [.flowEntry, close] then addEmpty else node false false fuel
    else addEmpty

end

/-- The handles of tags that need no directive. -/
def standardHandles : List (String × String) := [("!", "!"), ("!!", Tag.standardLead)]

/-- The directives before a document: at most one version, which must be the first, and no handle twice. -/
def directives (versionSeen : Bool) (handles : List (String × String)) :
    (fuel : Nat) → Action (List (String × String))
  | 0 => throw .malformed
  | fuel + 1 => do
    match ← peek with
    | .directive d =>
      advance
      match d with
      | .version major =>
        if versionSeen || major ≠ 1 then throw .malformed
        directives true handles fuel
      | .tag handle lead =>
        if handles.any (·.1 = handle) then throw .malformed
        directives versionSeen ((handle, lead) :: handles) fuel
      | .other => directives versionSeen handles fuel
    | _ => return handles

/-- Goes past all markers of the end of a document. -/
def skipEnds : (fuel : Nat) → Action Unit
  | 0 => throw .malformed
  | fuel + 1 => do if ← accept .documentEnd then skipEnds fuel

/-- Ends the only document. What comes after it is read as far as the start of another one. -/
def finish (fuel : Nat) : Action Unit := do
  skipEnds fuel
  if (← peek) ≠ .streamEnd then
    let _ ← directives false [] fuel
    let _ ← peek
    throw .malformed

/-- The outermost node of the only document of a stream, if there is one. -/
def document (fuel : Nat) : Action (Option Nat) := do
  match ← peek with
  | .streamEnd => return none
  | .directive _ | .documentStart =>
    let handles ← directives false [] fuel
    modify fun r => { r with handles := handles ++ standardHandles }
    expect .documentStart
    let root ←
      match ← peek with
      | .directive _ | .documentStart | .documentEnd | .streamEnd => addEmpty
      | _ => node true false fuel
    finish fuel
    return some root
  | _ =>
    let root ← node true false fuel
    finish fuel
    return some root

end Reading

/-- The only document that tokens make, if they make one. -/
def Document.ofTokens (tokens : List Token) : Except Fault (Option Document) :=
  match Reading.document (3 * tokens.length + 3) { tokens, handles := Reading.standardHandles } with
  | .ok root r => .ok (root.map fun root => { nodes := r.nodes, root })
  | .error e _ => .error e

end Chip8.Yaml
