import ScopedShell.Document.Tokenized

/-!
# Nodes of a document

The tree that the tokens of a document describe: scalars, sequences and mappings, each with a tag if
one is written. A node that is left out is an empty plain scalar. An alias stands for the node that
its anchor names; inside that node it stands for an empty collection of the same kind, since nothing
that is asked of a document looks into a collection that deep.
-/

namespace ScopedShell

namespace Document

inductive Node
  | scalar (text : Text) (plain : Bool) (tag : Option Text)
  | sequence (items : List Node) (tag : Option Text)
  | mapping (entries : List (Node × Node)) (tag : Option Text)

def Node.absent : Node := .scalar [] true none

/-- What is known while nodes are read: the tokens that are left and the fault behind them, the
named nodes, and the handles of tags. -/
structure NodeReader where
  tokens : List Token
  fault : Option Fault := none
  named : List (Text × Node) := []
  handles : List (Text × Text) := []

namespace NodeReader

def tagAddress : Text := "tag:yaml.org,2002:"

/-- The handles that need no directive. -/
def defaultHandles : List (Text × Text) := [(['!'], ['!']), (['!', '!'], tagAddress)]

def peek (r : NodeReader) : Except Fault Token :=
  match r.tokens with
  | token :: _ => .ok token
  | [] => .error (r.fault.getD .malformedDocument)

def drop (r : NodeReader) : NodeReader := { r with tokens := r.tokens.tail }

def isAt (r : NodeReader) (tokens : List Token) : Except Fault Bool := do
  let token ← r.peek
  return token ∈ tokens

def name (r : NodeReader) (anchor : Option Text) (node : Node) : NodeReader :=
  match anchor with
  | some name => { r with named := (name, node) :: r.named }
  | none => r

def resolveTag (r : NodeReader) : Option (Option Text × Text) → Except Fault (Option Text)
  | none => .ok none
  | some (none, suffix) => .ok (some suffix)
  | some (some handle, suffix) =>
    match r.handles.lookup handle with
    | some address => .ok (some (address ++ suffix))
    | none => .error .malformedDocument

def readTag (r : NodeReader) : Except Fault (Option (Option Text × Text) × NodeReader) := do
  match ← r.peek with
  | .tag handle suffix => return (some (handle, suffix), r.drop)
  | _ => return (none, r)

def readAnchor (r : NodeReader) : Except Fault (Option Text × NodeReader) := do
  match ← r.peek with
  | .anchor name => return (some name, r.drop)
  | _ => return (none, r)

def readProperties (r : NodeReader) : Except Fault ((Option Text × Option Text) × NodeReader) := do
  match ← r.readAnchor with
  | (some name, r) =>
    let (written, r) ← r.readTag
    let tag ← r.resolveTag written
    return ((some name, tag), r)
  | (none, r) =>
    let (written, r) ← r.readTag
    let (anchor, r) ← if written.isSome then r.readAnchor else pure (none, r)
    let tag ← r.resolveTag written
    return ((anchor, tag), r)

structure Place where
  /-- Block collections are allowed. -/
  block : Bool
  /-- A sequence may stand here without further indentation. -/
  indentless : Bool

def inBlock : Place := ⟨true, false⟩
def inMapping : Place := ⟨true, true⟩
def inFlow : Place := ⟨false, false⟩

inductive Shape
  | scalar (text : Text) (plain : Bool)
  | flowSequence
  | flowMapping
  | indentlessSequence
  | blockSequence
  | blockMapping
  | absent

/-- The node that starts with a token; without a token of its own it needs an anchor or a tag. -/
def shapeOf (place : Place) (hasProperties : Bool) : Token → Except Fault Shape
  | .scalar text plain => .ok (.scalar text plain)
  | .flowSequenceStart => .ok .flowSequence
  | .flowMappingStart => .ok .flowMapping
  | .blockEntry =>
    if place.indentless then .ok .indentlessSequence
    else if hasProperties then .ok .absent
    else .error .malformedDocument
  | .blockSequenceStart =>
    if place.block then .ok .blockSequence
    else if hasProperties then .ok .absent
    else .error .malformedDocument
  | .blockMappingStart =>
    if place.block then .ok .blockMapping
    else if hasProperties then .ok .absent
    else .error .malformedDocument
  | _ => if hasProperties then .ok .absent else .error .malformedDocument

/-- An anchor may name one node only. -/
def checkAnchor (r : NodeReader) (anchor : Option Text) : Except Fault Unit :=
  match anchor with
  | some name => if (r.named.lookup name).isSome then .error .malformedDocument else .ok ()
  | none => .ok ()

/-- A scalar; the tag that says nothing makes it a plain one. -/
def scalarNode (text : Text) (plain : Bool) (tag : Option Text) : Node :=
  if tag = some ['!'] then .scalar text true none else .scalar text plain tag

/-- Drops the comma in front of every item but the first, unless the bracket is closed. -/
def skipComma (isFirst : Bool) (closing : Token) (r : NodeReader) : Except Fault NodeReader := do
  let token ← r.peek
  if isFirst || token = closing then return r
  else if token = .flowEntry then return r.drop
  else .error .malformedDocument

mutual

def readNode : Nat → Place → NodeReader → Except Fault (Node × NodeReader)
  | 0, _, _ => .error .malformedDocument
  | bound + 1, place, r => do
    match ← r.peek with
    | .alias name =>
      match r.named.lookup name with
      | some node => return (node, r.drop)
      | none => .error .malformedDocument
    | _ =>
      let ((anchor, tag), r) ← r.readProperties
      let shape ← shapeOf place (anchor.isSome || tag.isSome) (← r.peek)
      r.checkAnchor anchor
      match shape with
      | .scalar text plain =>
        let node := scalarNode text plain tag
        return (node, r.drop.name anchor node)
      | .absent =>
        let node := scalarNode [] true tag
        return (node, r.name anchor node)
      | .flowSequence =>
        let (items, r) ← readFlowItems bound true (r.drop.name anchor (.sequence [] tag))
        let node := Node.sequence items tag
        return (node, r.name anchor node)
      | .flowMapping =>
        let (entries, r) ← readFlowEntries bound true (r.drop.name anchor (.mapping [] tag))
        let node := Node.mapping entries tag
        return (node, r.name anchor node)
      | .indentlessSequence =>
        let (items, r) ← readIndentlessItems bound (r.name anchor (.sequence [] tag))
        let node := Node.sequence items tag
        return (node, r.name anchor node)
      | .blockSequence =>
        let (items, r) ← readBlockItems bound (r.drop.name anchor (.sequence [] tag))
        let node := Node.sequence items tag
        return (node, r.name anchor node)
      | .blockMapping =>
        let (entries, r) ← readBlockEntries bound (r.drop.name anchor (.mapping [] tag))
        let node := Node.mapping entries tag
        return (node, r.name anchor node)

def readNodeUnless (bound : Nat) (place : Place) (ends : List Token) (r : NodeReader) :
    Except Fault (Node × NodeReader) := do
  if ← r.isAt ends then return (.absent, r) else readNode bound place r

def readBlockItems : Nat → NodeReader → Except Fault (List Node × NodeReader)
  | 0, _ => .error .malformedDocument
  | bound + 1, r => do
    match ← r.peek with
    | .blockEntry =>
      let (item, r) ← readNodeUnless bound inBlock [.blockEntry, .blockEnd] r.drop
      let (items, r) ← readBlockItems bound r
      return (item :: items, r)
    | .blockEnd => return ([], r.drop)
    | _ => .error .malformedDocument

def readIndentlessItems : Nat → NodeReader → Except Fault (List Node × NodeReader)
  | 0, _ => .error .malformedDocument
  | bound + 1, r => do
    match ← r.peek with
    | .blockEntry =>
      let (item, r) ← readNodeUnless bound inBlock [.blockEntry, .key, .value, .blockEnd] r.drop
      let (items, r) ← readIndentlessItems bound r
      return (item :: items, r)
    | _ => return ([], r)

def readBlockValue : Nat → NodeReader → Except Fault (Node × NodeReader)
  | 0, _ => .error .malformedDocument
  | bound + 1, r => do
    match ← r.peek with
    | .value => readNodeUnless bound inMapping [.key, .value, .blockEnd] r.drop
    | _ => return (.absent, r)

def readBlockEntries : Nat → NodeReader → Except Fault (List (Node × Node) × NodeReader)
  | 0, _ => .error .malformedDocument
  | bound + 1, r => do
    match ← r.peek with
    | .key =>
      let (key, r) ← readNodeUnless bound inMapping [.key, .value, .blockEnd] r.drop
      let (value, r) ← readBlockValue bound r
      let (entries, r) ← readBlockEntries bound r
      return ((key, value) :: entries, r)
    | .blockEnd => return ([], r.drop)
    | _ => .error .malformedDocument

def readFlowValue : Nat → Token → NodeReader → Except Fault (Node × NodeReader)
  | 0, _, _ => .error .malformedDocument
  | bound + 1, closing, r => do
    match ← r.peek with
    | .value => readNodeUnless bound inFlow [.flowEntry, closing] r.drop
    | _ => return (.absent, r)

/-- Reads the items of a sequence in brackets; an item may be a mapping of one entry. -/
def readFlowItems : Nat → Bool → NodeReader → Except Fault (List Node × NodeReader)
  | 0, _, _ => .error .malformedDocument
  | bound + 1, isFirst, r => do
    let r ← skipComma isFirst .flowSequenceEnd r
    match ← r.peek with
    | .flowSequenceEnd => return ([], r.drop)
    | .key =>
      let (key, r) ← readNodeUnless bound inFlow [.value, .flowEntry, .flowSequenceEnd] r.drop
      let (value, r) ← readFlowValue bound .flowSequenceEnd r
      let (items, r) ← readFlowItems bound false r
      return (.mapping [(key, value)] none :: items, r)
    | _ =>
      let (item, r) ← readNode bound inFlow r
      let (items, r) ← readFlowItems bound false r
      return (item :: items, r)

/-- Reads the entries of a mapping in braces; an entry may lack its value. -/
def readFlowEntries : Nat → Bool → NodeReader → Except Fault (List (Node × Node) × NodeReader)
  | 0, _, _ => .error .malformedDocument
  | bound + 1, isFirst, r => do
    let r ← skipComma isFirst .flowMappingEnd r
    match ← r.peek with
    | .flowMappingEnd => return ([], r.drop)
    | .key =>
      let (key, r) ← readNodeUnless bound inFlow [.value, .flowEntry, .flowMappingEnd] r.drop
      let (value, r) ← readFlowValue bound .flowMappingEnd r
      let (entries, r) ← readFlowEntries bound false r
      return ((key, value) :: entries, r)
    | _ =>
      let (key, r) ← readNode bound inFlow r
      let (entries, r) ← readFlowEntries bound false r
      return ((key, .absent) :: entries, r)

end

/-! ## The whole document -/

/-- Reads the directives in front of a document; of each kind there is at most one. -/
def readDirectives : Nat → Bool → List (Text × Text) → NodeReader →
    Except Fault (List (Text × Text) × NodeReader)
  | 0, _, _, _ => .error .malformedDocument
  | bound + 1, version, handles, r => do
    match ← r.peek with
    | .versionDirective major =>
      if version || major ≠ 1 then .error .malformedDocument
      else readDirectives bound true handles r.drop
    | .tagDirective handle uri =>
      if (handles.lookup handle).isSome then .error .malformedDocument
      else readDirectives bound version ((handle, uri) :: handles) r.drop
    | .otherDirective => readDirectives bound version handles r.drop
    | _ => return (handles ++ defaultHandles, r)

def readStart (bound : Nat) (r : NodeReader) : Except Fault NodeReader := do
  let (handles, r) ← readDirectives bound false [] r
  match ← r.peek with
  | .documentStart => return { r.drop with handles := handles }
  | _ => .error .malformedDocument

/-- Nothing follows the one document but marks that end it. -/
def checkEnd : Nat → NodeReader → Except Fault Unit
  | 0, _ => .error .malformedDocument
  | bound + 1, r => do
    match ← r.peek with
    | .documentEnd => checkEnd bound r.drop
    | .streamEnd => return ()
    | _ =>
      let _ ← readStart bound r
      .error .malformedDocument

def leavesOut : Token → Bool
  | .versionDirective _ | .tagDirective _ _ | .otherDirective | .documentStart | .documentEnd
  | .streamEnd => true
  | _ => false

def readDocument (bound : Nat) (r : NodeReader) : Except Fault (Option Node) := do
  match ← r.peek with
  | .streamEnd => return none
  | .versionDirective _ | .tagDirective _ _ | .otherDirective | .documentStart =>
    let r ← readStart bound r
    let (node, r) ← if leavesOut (← r.peek) then pure (.absent, r) else readNode bound inBlock r
    checkEnd bound r
    return some node
  | _ =>
    let (node, r) ← readNode bound inBlock { r with handles := defaultHandles }
    checkEnd bound r
    return some node

end NodeReader

/-- The node of a document, if it has one. Every node takes a token or is left out between two, so
four steps a token are enough. -/
def Node.ofTokens (s : TokenStream) : Except Fault (Option Node) :=
  NodeReader.readDocument (4 * s.tokens.length + 4) { tokens := s.tokens, fault := s.fault }

end Document

end ScopedShell
