import ScopedShell.Document.Unquoted

/-!
# Cutting a document into tokens

A document is cut from left to right. In front of each token the spaces, comments and line breaks
are dropped, and every block collection that is indented further than the token ends. A key of a
mapping is known as one only at the colon behind it, so every token that may start a key is kept as
a candidate, one for each depth of brackets; a colon puts the mark of the key in front of its
candidate. A candidate is given up at the end of its line or after 1024 characters, and where a key
is required it may not be given up.
-/

namespace ScopedShell

namespace Document

/-- The tokens of a document, up to the fault at which cutting it stops if there is one. Whoever
reads them meets that fault only where a token is wanted that is not there. -/
structure TokenStream where
  tokens : List Token
  fault : Option Fault

/-- A token that may turn out to start a key. -/
structure Candidate where
  /-- The number of tokens in front of it. -/
  before : Nat
  required : Bool
  index : Nat
  line : Nat
  column : Nat

structure Cutter where
  rest : Text
  index : Nat := 0
  line : Nat := 0
  column : Nat := 0
  tokens : List Token := []
  /-- The number of open brackets. -/
  flow : Nat := 0
  /-- The indentation of the innermost block collection, and of those around it. -/
  indent : Int := -1
  outer : List Int := []
  keyAllowed : Bool := true
  candidates : List (Nat × Candidate) := []

/-- The number of characters on one line that a key may have. -/
def keyLimit : Nat := 1024

namespace Cutter

def step (s : Cutter) : Cutter :=
  match s.rest with
  | [] => s
  | c :: rest =>
    let s := { s with rest := rest, index := s.index + 1 }
    if isBreak c then { s with line := s.line + 1, column := 0 }
    else if c = '\ufeff' then s
    else { s with column := s.column + 1 }

def advance : Nat → Cutter → Cutter
  | 0, s => s
  | n + 1, s => advance n s.step

def moveTo (s : Cutter) (rest : Text) : Cutter :=
  s.advance (s.rest.length - rest.length)

def push (s : Cutter) (token : Token) : Cutter :=
  { s with tokens := s.tokens ++ [token] }

def dropCandidate (s : Cutter) : Except Fault Cutter :=
  match s.candidates.lookup s.flow with
  | none => .ok s
  | some candidate =>
    if candidate.required then .error .malformedDocument
    else .ok { s with candidates := s.candidates.filter (·.1 ≠ s.flow) }

def isStale (s : Cutter) (candidate : Candidate) : Bool :=
  candidate.line != s.line || keyLimit < s.index - candidate.index

def dropStale (s : Cutter) : Except Fault Cutter :=
  if s.candidates.any fun entry => s.isStale entry.2 && entry.2.required then
    .error .malformedDocument
  else .ok { s with candidates := s.candidates.filter fun entry => !s.isStale entry.2 }

def saveCandidate (s : Cutter) : Except Fault Cutter :=
  if s.keyAllowed then do
    let candidate : Candidate := {
      before := s.tokens.length
      required := s.flow = 0 && s.indent = s.column
      index := s.index
      line := s.line
      column := s.column }
    let s ← s.dropCandidate
    return { s with candidates := (s.flow, candidate) :: s.candidates }
  else .ok s

/-- Ends the block collections that are indented further than a column. -/
def endBlocks (column : Int) (indent : Int) (tokens : List Token) :
    List Int → Int × List Token × List Int
  | [] => (indent, tokens, [])
  | next :: outer =>
    if column < indent then endBlocks column next (tokens ++ [.blockEnd]) outer
    else (indent, tokens, next :: outer)

def unwind (s : Cutter) (column : Int) : Cutter :=
  if s.flow = 0 then
    let (indent, tokens, outer) := endBlocks column s.indent s.tokens s.outer
    { s with indent := indent, tokens := tokens, outer := outer }
  else s

/-- The state inside a block collection at a column, and whether that is a new one. -/
def indentTo (s : Cutter) (column : Nat) : Cutter × Bool :=
  if s.indent < column then
    ({ s with indent := column, outer := s.indent :: s.outer }, true)
  else (s, false)

def startBlock (s : Cutter) (token : Token) : Cutter :=
  match s.indentTo s.column with
  | (s, true) => s.push token
  | (s, false) => s

/-! ## Blanks between tokens -/

/-- Drops spaces, comments and line breaks, and tells whether a line was broken. -/
def dropBlank (inComment brokeLine : Bool) : Text → Bool × Text
  | [] => (brokeLine, [])
  | c :: rest =>
    if isBreak c then dropBlank false true rest
    else if inComment then dropBlank true brokeLine rest
    else if c = ' ' then dropBlank false brokeLine rest
    else if c = '#' then dropBlank true brokeLine rest
    else (brokeLine, c :: rest)

/-- The state in front of the next token. A byte order mark counts only at the beginning. -/
def toToken (s : Cutter) : Cutter :=
  let s := if s.index = 0 ∧ s.rest.head? = some '\ufeff' then s.step else s
  let (brokeLine, rest) := dropBlank false false s.rest
  let s := s.moveTo rest
  if brokeLine ∧ s.flow = 0 then { s with keyAllowed := true } else s

/-! ## Marks -/

def separator (s : Cutter) (token : Token) : Except Fault Cutter := do
  let s ← (s.unwind (-1)).dropCandidate
  return ({ s with keyAllowed := false }.advance 3).push token

def openBracket (s : Cutter) (token : Token) : Except Fault Cutter := do
  let s ← s.saveCandidate
  return { s with flow := s.flow + 1, keyAllowed := true }.step.push token

def closeBracket (s : Cutter) (token : Token) : Except Fault Cutter := do
  let s ← s.dropCandidate
  match s.flow with
  | 0 => .error .malformedDocument
  | flow + 1 => return { s with flow := flow, keyAllowed := false }.step.push token

def comma (s : Cutter) : Except Fault Cutter := do
  let s ← { s with keyAllowed := true }.dropCandidate
  return s.step.push .flowEntry

def dash (s : Cutter) : Except Fault Cutter :=
  if s.flow = 0 ∧ !s.keyAllowed then .error .malformedDocument
  else do
    let s := if s.flow = 0 then s.startBlock .blockSequenceStart else s
    let s ← { s with keyAllowed := true }.dropCandidate
    return s.step.push .blockEntry

def questionMark (s : Cutter) : Except Fault Cutter :=
  if s.flow = 0 ∧ !s.keyAllowed then .error .malformedDocument
  else do
    let s := if s.flow = 0 then s.startBlock .blockMappingStart else s
    let s ← { s with keyAllowed := s.flow = 0 }.dropCandidate
    return s.step.push .key

/-- A colon behind a candidate: the candidate is a key. -/
def colonBehind (s : Cutter) (candidate : Candidate) : Cutter :=
  let s := { s with candidates := s.candidates.filter (·.1 ≠ s.flow), keyAllowed := false }
  if s.flow = 0 then
    match s.indentTo candidate.column with
    | (s, true) =>
      { s with tokens := s.tokens.take candidate.before ++
          .blockMappingStart :: .key :: s.tokens.drop candidate.before }
    | (s, false) =>
      { s with tokens := s.tokens.take candidate.before ++ .key :: s.tokens.drop candidate.before }
  else
    { s with tokens := s.tokens.take candidate.before ++ .key :: s.tokens.drop candidate.before }

def colon (s : Cutter) : Except Fault Cutter :=
  match s.candidates.lookup s.flow with
  | some candidate => .ok ((s.colonBehind candidate).step.push .value)
  | none =>
    if s.flow = 0 ∧ !s.keyAllowed then .error .malformedDocument
    else do
      let s := if s.flow = 0 then s.startBlock .blockMappingStart else s
      let s ← { s with keyAllowed := s.flow = 0 }.dropCandidate
      return s.step.push .value

/-! ## Names, tags and directives -/

def endsName (t : Text) : Bool :=
  atSpace t || t.head?.any (· ∈ ("?:,]\x7d%@`" : Text))

def anchored (s : Cutter) (token : Text → Token) : Except Fault Cutter := do
  let s ← s.saveCandidate
  let name := (s.rest.drop 1).takeWhile isNameChar
  let rest := (s.rest.drop 1).dropWhile isNameChar
  if name.isEmpty || !endsName rest then .error .malformedDocument
  else return ({ s with keyAllowed := false }.moveTo rest).push (token name)

/-- Reads an address; bytes that are escaped one after the other are characters together. -/
def readAddress (bytes : List UInt8) (read : Text) : Text → Except Fault (Text × Text)
  | '%' :: a :: b :: rest =>
    if isHexDigit a && isHexDigit b then
      readAddress (bytes ++ [(natOfDigits 16 [a, b]).toUInt8]) read rest
    else .error .malformedDocument
  | t =>
    match String.fromUTF8? ⟨bytes.toArray⟩ with
    | none => .error .malformedDocument
    | some escaped =>
      match t with
      | c :: rest =>
        if isAddressChar c then readAddress [] (read ++ escaped.toList ++ [c]) rest
        else if c = '%' then .error .malformedDocument
        else .ok (read ++ escaped.toList, c :: rest)
      | [] => .ok (read ++ escaped.toList, [])

def address (t : Text) : Except Fault (Text × Text) := do
  let (read, rest) ← readAddress [] [] t
  if read.isEmpty then .error .malformedDocument else return (read, rest)

/-- The handle of a tag: exclamation marks, with a name between them or not. -/
def handle : Text → Except Fault (Text × Text)
  | '!' :: ' ' :: rest => .ok (['!'], ' ' :: rest)
  | '!' :: rest =>
    match rest.dropWhile isNameChar with
    | '!' :: after => .ok ('!' :: rest.takeWhile isNameChar ++ ['!'], after)
    | _ => .error .malformedDocument
  | _ => .error .malformedDocument

def readTag (t : Text) : Except Fault (Token × Text) :=
  match t with
  | '<' :: rest => do
    let (suffix, rest) ← address rest
    match rest with
    | '>' :: rest => return (.tag none suffix, rest)
    | _ => .error .malformedDocument
  | _ =>
    if atSpace t then .ok (.tag none ['!'], t)
    else if (t.takeWhile fun c => !(c == ' ' || isBreak c)).contains '!' then do
      let (handle, rest) ← handle ('!' :: t)
      let (suffix, rest) ← address rest
      return (.tag (some handle) suffix, rest)
    else do
      let (suffix, rest) ← address t
      return (.tag (some ['!']) suffix, rest)

def tagged (s : Cutter) : Except Fault Cutter := do
  let s ← s.saveCandidate
  let (token, rest) ← readTag (s.rest.drop 1)
  if !atPlainSpace rest then .error .malformedDocument
  else return ({ s with keyAllowed := false }.moveTo rest).push token

def versionNumber (t : Text) : Except Fault (Nat × Text) :=
  let digits := t.takeWhile Char.isDigit
  if digits.isEmpty then .error .malformedDocument
  else do
    let n ← (limitedNat digits).mapError .unreadableScalar
    return (n, t.dropWhile Char.isDigit)

def readDirective (t : Text) : Except Fault (Token × Text) := do
  let name := t.takeWhile isNameChar
  let rest := t.dropWhile isNameChar
  if name.isEmpty || !atPlainSpace rest then .error .malformedDocument
  else if name = ("YAML" : Text) then
    let (major, rest) ← versionNumber (rest.dropWhile (· == ' '))
    match rest with
    | '.' :: rest =>
      let (_, rest) ← versionNumber rest
      if atPlainSpace rest then return (.versionDirective major, rest)
      else .error .malformedDocument
    | _ => .error .malformedDocument
  else if name = ("TAG" : Text) then
    let (handle, rest) ← handle (rest.dropWhile (· == ' '))
    if rest.head? ≠ some ' ' then .error .malformedDocument
    else
      let (uri, rest) ← address (rest.dropWhile (· == ' '))
      if atPlainSpace rest then return (.tagDirective handle uri, rest)
      else .error .malformedDocument
  else return (.otherDirective, rest.dropWhile (!isBreak ·))

def directive (s : Cutter) : Except Fault Cutter := do
  let s ← (s.unwind (-1)).dropCandidate
  let (token, rest) ← readDirective (s.rest.drop 1)
  let rest ← dropIgnoredLine rest
  return ({ s with keyAllowed := false }.moveTo rest).push token

/-! ## Scalars -/

def quoted (s : Cutter) (read : Text → Except Fault (Text × Text)) : Except Fault Cutter := do
  let s ← s.saveCandidate
  let (text, rest) ← read (s.rest.drop 1)
  return ({ s with keyAllowed := false }.moveTo rest).push (.scalar text false)

/-- A plain scalar; a key may follow it only on a new line. -/
def plain (s : Cutter) : Except Fault Cutter := do
  let s ← s.saveCandidate
  let read := readPlain (s.flow ≠ 0) (s.indent + 1) .none 0 [] s.rest
  return ({ s with keyAllowed := read.brokeLine }.moveTo read.rest).push (.scalar read.text true)

def block (s : Cutter) (folded : Bool) : Except Fault Cutter := do
  let s ← { s with keyAllowed := true }.dropCandidate
  let (text, rest) ← readBlockScalar folded s.indent (s.rest.drop 1)
  return (s.moveTo rest).push (.scalar text false)

/-! ## The next token -/

/-- Cuts off the next token behind the blanks; only the end of the document is left alone. -/
def next (s : Cutter) : Except Fault Cutter :=
  let inFlow := s.flow ≠ 0
  match s.rest with
  | [] => .ok s
  | c :: rest =>
    if c = '%' ∧ s.column = 0 then s.directive
    else if c = '-' ∧ s.column = 0 ∧ atSeparator s.rest then s.separator .documentStart
    else if c = '.' ∧ s.column = 0 ∧ atSeparator s.rest then s.separator .documentEnd
    else if c = '[' then s.openBracket .flowSequenceStart
    else if c = '{' then s.openBracket .flowMappingStart
    else if c = ']' then s.closeBracket .flowSequenceEnd
    else if c = '}' then s.closeBracket .flowMappingEnd
    else if c = ',' then s.comma
    else if c = '-' ∧ atSpace rest then s.dash
    else if c = '?' ∧ (inFlow ∨ atSpace rest) then s.questionMark
    else if c = ':' ∧ (inFlow ∨ atSpace rest) then s.colon
    else if c = '*' then s.anchored .alias
    else if c = '&' then s.anchored .anchor
    else if c = '!' then s.tagged
    else if c = '|' ∧ !inFlow then s.block false
    else if c = '>' ∧ !inFlow then s.block true
    else if c = '\'' then s.quoted (readSingle .none [])
    else if c = '"' then s.quoted (readDouble .none [])
    else if startsPlain inFlow s.rest then s.plain
    else .error .malformedDocument

/-- The tokens that can be told for certain: a candidate may still get marks in front of it. -/
def settled (s : Cutter) : List Token :=
  let pending := s.candidates.filter fun entry => !s.isStale entry.2
  s.tokens.take ((pending.map fun entry => entry.2.before).foldl min s.tokens.length)

def approach (s : Cutter) : Except Fault Cutter := do
  let s ← s.toToken.dropStale
  return s.unwind s.column

def finish (s : Cutter) : Except Fault (List Token) := do
  let s ← (s.unwind (-1)).dropCandidate
  return s.tokens ++ [.streamEnd]

/-- Cuts the rest of a document; every token takes at least one character. -/
def cut : Nat → Cutter → TokenStream
  | 0, s => ⟨s.settled, some .malformedDocument⟩
  | bound + 1, s =>
    match s.approach with
    | .error fault => ⟨s.settled, some fault⟩
    | .ok near =>
      if near.rest.isEmpty then
        match near.finish with
        | .error fault => ⟨s.settled, some fault⟩
        | .ok tokens => ⟨tokens, none⟩
      else
        match near.next with
        | .error fault => ⟨s.settled, some fault⟩
        | .ok s => cut bound s

end Cutter

def tokensOf (t : Text) : TokenStream :=
  if t.all isAllowed then Cutter.cut (t.length + 1) { rest := t }
  else ⟨[], some .malformedDocument⟩

end Document

end ScopedShell
