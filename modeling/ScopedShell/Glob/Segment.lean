import ScopedShell.Regex.Reading

/-!
# Pattern segments

One segment of a pattern describes names: `*` and `?` stand for characters other than a slash,
`{a,b}` for one of several choices, and a backslash makes the next character stand for itself.
`Segment.regexText` writes the segment as a regular expression in one pass; the only fault it finds
is an unbalanced brace, at the first one closed too often or at the end if one stays open. Names
that start with a dot are matched only by segments that do.
-/

namespace ScopedShell

namespace Glob

inductive BraceFault
  | unmatchedClose
  | unclosedOpen
deriving DecidableEq, Repr

def BraceFault.description : BraceFault → Text
  | unmatchedClose => "unmatched '\x7d'"
  | unclosedOpen => "unclosed '\x7b'"

structure Imbalance where
  position : Nat
  fault : BraceFault
deriving DecidableEq, Repr

def needsBackslash (c : Char) : Bool :=
  c ∈ ("()[]\x7b\x7d?*+-|^$\\.&~# \t\n\r\x0b\x0c" : Text)

def escape (c : Char) : Text :=
  if needsBackslash c then ['\\', c] else [c]

/-- A look at what follows: a character that is not a dot. -/
def noLeadingDot : Text := "(?=[^\\.])"

def isDotSegment (segment : Text) : Bool :=
  segment.head? = some '.'

/-- Writes the rest of a segment at a depth of open braces and a position. -/
def scan (depth position : Nat) : Text → Except Imbalance Text
  | [] => if depth = 0 then .ok [] else .error ⟨position, .unclosedOpen⟩
  | '\\' :: c :: rest => do
    let written ← scan depth (position + 2) rest
    return escape c ++ written
  | '/' :: rest => do
    let written ← scan depth (position + 1) rest
    return '/' :: (if rest.head? = some '.' then [] else noLeadingDot) ++ written
  | '*' :: rest => do
    let written ← scan depth (position + 1) rest
    return ("[^/]*" : Text) ++ written
  | '?' :: rest => do
    let written ← scan depth (position + 1) rest
    return ("[^/]" : Text) ++ written
  | '{' :: rest => do
    let written ← scan (depth + 1) (position + 1) rest
    return '(' :: written
  | '}' :: rest =>
    match depth with
    | 0 => .error ⟨position, .unmatchedClose⟩
    | depth + 1 => do
      let written ← scan depth (position + 1) rest
      return ')' :: written
  | c :: rest => do
    let written ← scan depth (position + 1) rest
    if c = ',' ∧ 0 < depth then return '|' :: written
    else if c ∈ ("@%" : Text) then return '\\' :: c :: written
    else return escape c ++ written

def regexText (segment : Text) : Except Imbalance Text := do
  let written ← scan 0 0 segment
  return '^' :: (if isDotSegment segment then [] else noLeadingDot) ++ written ++ ['$']

def regex (segment : Text) : Except Imbalance (Option Regex) := do
  let written ← regexText segment
  return Regex.ofText? written

def compile (segment : Text) : Except Imbalance (Text → Bool) := do
  let r ← regex segment
  return fun name => r.any (·.fullMatch name)

end Glob

end ScopedShell
