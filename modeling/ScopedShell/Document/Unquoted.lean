import ScopedShell.Document.Quoted

/-!
# Scalars without quotes

A plain scalar goes on until something that cannot belong to it: a comment, the colon of a key, a
mark of a collection written in brackets, or a line that is not indented enough. Its lines are
folded like those of a quoted one. A block scalar keeps its lines, as far as they are indented; when
it is folded, a line break between two lines that start with no blank becomes a space. What happens
to the line breaks at its end is written behind its mark.
-/

namespace ScopedShell

namespace Document

/-! ## Plain scalars -/

def endsPlain (inFlow : Bool) : Text → Bool
  | [] => true
  | c :: rest =>
    isBlank c || isBreak c ||
      (c == ':' && (atSpace rest || (inFlow && (rest.head?.any (· ∈ (",[]\x7b\x7d" : Text)))))) ||
      (inFlow && c ∈ (",?[]\x7b\x7d" : Text))

structure Plain where
  text : Text
  /-- Whether it ended behind a line break. -/
  brokeLine : Bool
  rest : Text

def Gap.brokeLine : Gap → Bool
  | .none | .blanks _ => false
  | .lines _ _ | .joined _ => true

/-- Reads the rest of a plain scalar; `column` counts the spaces of the current line after a line
break, and lines with fewer than `indent` do not belong to it. -/
def readPlain (inFlow : Bool) (indent : Int) (gap : Gap) (column : Nat) (read : Text) :
    Text → Plain
  | [] => ⟨read, gap.brokeLine, []⟩
  | c :: rest =>
    if c = ' ' then readPlain inFlow indent (gap.blank c) (column + 1) read rest
    else if isBreak c then
      let gap := gap.line (normalBreak c)
      if atSeparator rest then ⟨read, true, rest⟩
      else readPlain inFlow indent gap 0 read rest
    else
      let stops := match gap with
        | .none => false
        | .blanks _ => c == '#'
        | .lines _ _ | .joined _ => c == '#' || (!inFlow && (column : Int) < indent)
      if stops || endsPlain inFlow (c :: rest) then ⟨read, gap.brokeLine, c :: rest⟩
      else readPlain inFlow indent .none 0 (read ++ gap.text ++ [c]) rest

def startsPlain (inFlow : Bool) : Text → Bool
  | [] => false
  | c :: rest =>
    (!isBlank c && !isBreak c && c ∉ ("-?:,[]\x7b\x7d#&*!|>'\"%@`" : Text)) ||
      (!atSpace rest && (c == '-' || (!inFlow && (c == '?' || c == ':'))))

/-! ## Block scalars -/

/-- What happens to the line breaks at the end of a block scalar. -/
inductive Chomping
  | strip
  | clip
  | keep
deriving DecidableEq, Repr

def chompingOf (c : Char) : Chomping := if c = '+' then .keep else .strip

def isChompMark (c : Char) : Bool := c == '+' || c == '-'

def readMarks : Text → Except Fault ((Chomping × Option Nat) × Text)
  | [] => .ok ((.clip, none), [])
  | c :: rest =>
    if isChompMark c then
      match rest with
      | d :: after =>
        if d = '0' then .error .malformedDocument
        else if d.isDigit then .ok ((chompingOf c, some (digitValue d)), after)
        else .ok ((chompingOf c, none), rest)
      | [] => .ok ((chompingOf c, none), [])
    else if c = '0' then .error .malformedDocument
    else if c.isDigit then
      match rest with
      | d :: after =>
        if isChompMark d then .ok ((chompingOf d, some (digitValue c)), after)
        else .ok ((.clip, some (digitValue c)), rest)
      | [] => .ok ((.clip, some (digitValue c)), [])
    else .ok ((.clip, none), c :: rest)

def dropIgnoredLine (t : Text) : Except Fault Text :=
  let afterSpaces := t.dropWhile (· == ' ')
  let afterComment :=
    if afterSpaces.head? = some '#' then afterSpaces.dropWhile (!isBreak ·) else afterSpaces
  if atBreak afterComment then .ok (afterComment.drop 1) else .error .malformedDocument

/-- The lines of spaces alone at the beginning of a block scalar: their breaks, the largest
indentation among them and of the first other line, and what is left behind its spaces. -/
structure Leading where
  breaks : Text
  largest : Nat
  column : Nat
  rest : Text

def readLeading (breaks : Text) (largest column : Nat) : Text → Leading
  | [] => ⟨breaks, largest, column, []⟩
  | c :: rest =>
    if c = ' ' then readLeading breaks (max largest (column + 1)) (column + 1) rest
    else if isBreak c then readLeading (breaks ++ [normalBreak c]) largest 0 rest
    else ⟨breaks, largest, column, c :: rest⟩

/-- A block scalar as far as it has been read: the text up to its last line, the break behind that
line, and the breaks behind that one. -/
structure Block where
  text : Text := []
  lastBreak : Text := []
  breaks : Text := []
  /-- Whether the last line started with something else than a blank. -/
  startedFull : Bool := false
  /-- Whether there is a last line. -/
  hasLine : Bool := false

/-- The text between the last line and a further one, which starts with a blank or not. -/
def Block.between (b : Block) (folded startsFull : Bool) : Text :=
  if !b.hasLine then b.breaks
  else if folded && b.lastBreak == ['\n'] && b.startedFull && startsFull then
    if b.breaks.isEmpty then [' '] else b.breaks
  else b.lastBreak ++ b.breaks

def Block.finish (b : Block) : Chomping → Text
  | .strip => b.text
  | .clip => b.text ++ b.lastBreak
  | .keep => b.text ++ b.lastBreak ++ b.breaks

/-- Where a reader of block scalars stands: inside a line, or at a number of spaces in front of
one. -/
inductive BlockMode
  | inLine
  | before (column : Nat)

def readBlock (folded : Bool) (indent : Nat) (mode : BlockMode) (b : Block) : Text → Block × Text
  | [] => (b, [])
  | c :: rest =>
    match mode with
    | .inLine =>
      if isBreak c then
        readBlock folded indent (.before 0) { b with lastBreak := [normalBreak c] } rest
      else readBlock folded indent .inLine { b with text := b.text ++ [c] } rest
    | .before column =>
      if column < indent ∧ c = ' ' then readBlock folded indent (.before (column + 1)) b rest
      else if isBreak c then
        readBlock folded indent (.before 0) { b with breaks := b.breaks ++ [normalBreak c] } rest
      else if column = indent then
        let startsFull := !isBlank c
        readBlock folded indent .inLine
          { text := b.text ++ b.between folded startsFull ++ [c]
            startedFull := startsFull
            hasLine := true } rest
      else (b, c :: rest)

def readBlockScalar (folded : Bool) (outer : Int) (t : Text) : Except Fault (Text × Text) := do
  let ((chomping, increment), rest) ← readMarks t
  if !atPlainSpace rest then .error .malformedDocument
  else
    let body ← dropIgnoredLine rest
    let least := (max 1 (outer + 1)).toNat
    match increment with
    | some n =>
      let (b, rest) := readBlock folded (least + n - 1) (.before 0) {} body
      return (b.finish chomping, rest)
    | none =>
      let leading := readLeading [] 0 0 body
      let indent := max least leading.largest
      let (b, rest) :=
        readBlock folded indent (.before leading.column) { breaks := leading.breaks } leading.rest
      return (b.finish chomping, rest)

end Document

end ScopedShell
