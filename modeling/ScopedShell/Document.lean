import ScopedShell.Document.Node

/-!
# Documents

A document is a text that describes data: scalars, lists and mappings, written with indentation or
with brackets. It is cut into tokens, these become nodes, and nodes become data. The entries that a
mapping merges from others come before its own, of several equal keys the last gives the value, and
collections are no keys. `Document.read` gives the data of a text, nothing for an empty one.

The data of a document is looked through in breadth: of several faults in it, the one in the
outermost collection is found, and in collections of one depth the first.
-/

namespace ScopedShell

namespace Document

def knownTag? (tag : Text) : Option Text :=
  if NodeReader.tagAddress.isPrefixOf tag then some (tag.drop NodeReader.tagAddress.length)
  else none

def valueTags : List Text := ["bool", "int", "float", "timestamp"]

/-- The value of a scalar with a tag. A text may be anything; any other value has to have the form
that its tag asks for. Documents here tag their scalars in no other way: a number tagged with the
kind of another one, a truth value that only letter case keeps from its form, and scalars of the
other standard tags, such as `binary`, would be readable and are turned down as malformed. -/
def taggedScalar (tag text : Text) : Except Fault Data :=
  match knownTag? tag with
  | none => .error .malformedDocument
  | some name =>
    if name = ("str" : Text) then .ok (.text text)
    else if name = ("null" : Text) then .ok .null
    else if name ∉ valueTags then .error .malformedDocument
    else
      match readScalar text with
      | .error fault => .error fault
      | .ok value =>
        match value with
        | .flag _ => if name = ("bool" : Text) then .ok value else .error .malformedDocument
        | .number (.integer _) =>
          if name = ("int" : Text) then .ok value else .error .malformedDocument
        | .number (.real _) =>
          if name = ("float" : Text) then .ok value else .error .malformedDocument
        | .moment _ => if name = ("timestamp" : Text) then .ok value else .error .malformedDocument
        | _ => .error .malformedDocument

/-- The value of a scalar. The form that only a key may have is the key as a text. -/
def scalarValue (isKey : Bool) (text : Text) (plain : Bool) (tag : Option Text) :
    Except Fault Data :=
  match tag with
  | some tag => taggedScalar tag text
  | none =>
    if plain then (if isKey ∧ text = valueKey then .ok (.text text) else readScalar text)
    else .ok (.text text)

/-- A collection has no tag, or the one of its kind; the other standard kinds, such as sets, are
turned down as malformed. -/
def checkTag (name : Text) (tag : Option Text) : Except Fault Unit :=
  match tag with
  | none => .ok ()
  | some tag =>
    if tag = ['!'] ∨ knownTag? tag = some name then .ok () else .error .malformedDocument

def isMerge : Node → Bool
  | .scalar text true none => text == mergeKey
  | _ => false

/-- The entries of a mapping with those that it merges in front. Of several merged mappings the
first one comes last. The bound limits the depth. -/
def mergedEntries : Nat → List (Node × Node) → Except Fault (List (Node × Node))
  | 0, _ => .error .malformedDocument
  | depth + 1, entries => do
    let merged ← (entries.filter fun entry => isMerge entry.1).mapM fun entry =>
      match entry.2 with
      | .mapping others _ => mergedEntries depth others
      | .sequence items _ => do
        let parts ← items.mapM fun item =>
          match item with
          | .mapping others _ => mergedEntries depth others
          | _ => .error .malformedDocument
        return parts.reverse.flatten
      | .scalar _ _ _ => .error .malformedDocument
    return merged.flatten ++ entries.filter fun entry => !isMerge entry.1

/-! ## Faults -/

def look (isKey : Bool) : Node → Except Fault (List Node)
  | .scalar text plain tag => (scalarValue isKey text plain tag).map fun _ => []
  | .sequence items tag => (checkTag "seq" tag).map fun _ => [.sequence items tag]
  | .mapping entries tag => (checkTag "map" tag).map fun _ => [.mapping entries tag]

/-- Looks at an entry: a collection is no key. -/
def lookAtEntry (entry : Node × Node) : Except Fault (List Node) := do
  match ← look true entry.1 with
  | [] => look false entry.2
  | _ :: _ => .error .malformedDocument

/-- Looks at what a collection holds, and leaves the collections in it for later. -/
def lookInside (depth : Nat) : Node → Except Fault (List Node)
  | .scalar _ _ _ => .ok []
  | .sequence items _ => do
    let later ← items.mapM (look false)
    return later.flatten
  | .mapping entries _ => do
    let entries ← mergedEntries depth entries
    let later ← entries.mapM lookAtEntry
    return later.flatten

def lookThrough : Nat → List Node → Except Fault Unit
  | _, [] => .ok ()
  | 0, _ :: _ => .error .malformedDocument
  | depth + 1, nodes => do
    let later ← nodes.mapM (lookInside (depth + 1))
    lookThrough depth later.flatten

/-! ## Data -/

/-- The mapping with the given entries, the last of equal keys giving the value. -/
def mappingOf (entries : List (Data × Data)) : Data :=
  .mapping (entries.foldl (fun done entry => Data.put entry.1 entry.2 done) [])

def dataOf : Nat → Bool → Node → Except Fault Data
  | _, isKey, .scalar text plain tag => scalarValue isKey text plain tag
  | 0, _, _ => .error .malformedDocument
  | depth + 1, _, .sequence items _ => (items.mapM (dataOf depth false)).map .list
  | depth + 1, _, .mapping entries _ => do
    let entries ← mergedEntries (depth + 1) entries
    let pairs ← entries.mapM fun entry => do
      let key ← dataOf depth true entry.1
      let value ← dataOf depth false entry.2
      return (key, value)
    return mappingOf pairs

def normalLines : Text → Text
  | [] => []
  | '\r' :: '\n' :: rest => '\n' :: normalLines rest
  | '\r' :: rest => '\n' :: normalLines rest
  | c :: rest => c :: normalLines rest

/-- The data of a document; a text without a document is nothing. No node is deeper than there are
tokens. -/
def read (t : Text) : Except Fault Data := do
  let stream := tokensOf (normalLines t)
  let depth := 3 * stream.tokens.length + 3
  match ← Node.ofTokens stream with
  | none => return .null
  | some node =>
    let later ← look false node
    lookThrough depth later
    dataOf depth false node

end Document

end ScopedShell
