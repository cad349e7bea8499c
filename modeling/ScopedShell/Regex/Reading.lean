import ScopedShell.Regex

/-!
# Reading regular expressions

The written form of an expression, read in one pass from left to right with a stack of the groups
that are open. `^` and `$` are the ends of the text, `|` separates choices, `(` and `)` enclose a
group and `(?=` and `)` a look at what follows; `[^c]` is any character but `c` and may carry a
`*`; a backslash makes the character after it stand for itself. A text that uses any other special
character, or whose groups do not fit, is no expression.
-/

namespace ScopedShell

namespace Regex

/-- An open group: whether it only looks ahead, and what precedes it in the enclosing group. -/
structure Group where
  looksAhead : Bool
  choices : Option Regex
  sequence : Regex

def close (choices : Option Regex) (sequence : Regex) : Regex :=
  match choices with
  | none => sequence
  | some others => .alt others sequence

def Group.wrap (g : Group) (r : Regex) : Regex :=
  if g.looksAhead then .ahead r else r

def isSpecial (c : Char) : Bool :=
  c ∈ ("()[]\x7b\x7d?*+|^$\\." : Text)

def readIn (groups : List Group) (choices : Option Regex) (sequence : Regex) : Text → Option Regex
  | [] => if groups.isEmpty then some (close choices sequence) else none
  | '(' :: '?' :: '=' :: rest => readIn (⟨true, choices, sequence⟩ :: groups) none .empty rest
  | '(' :: rest => readIn (⟨false, choices, sequence⟩ :: groups) none .empty rest
  | ')' :: rest =>
    match groups with
    | [] => none
    | g :: outer => readIn outer g.choices (.seq g.sequence (g.wrap (close choices sequence))) rest
  | '|' :: rest => readIn groups (some (close choices sequence)) .empty rest
  | '[' :: '^' :: '\\' :: c :: ']' :: '*' :: rest =>
    readIn groups choices (.seq sequence (.run c)) rest
  | '[' :: '^' :: '\\' :: c :: ']' :: rest => readIn groups choices (.seq sequence (.other c)) rest
  | '[' :: '^' :: c :: ']' :: '*' :: rest => readIn groups choices (.seq sequence (.run c)) rest
  | '[' :: '^' :: c :: ']' :: rest => readIn groups choices (.seq sequence (.other c)) rest
  | '^' :: rest => readIn groups choices (.seq sequence .start) rest
  | '$' :: rest => readIn groups choices (.seq sequence .finish) rest
  | '\\' :: c :: rest =>
    if c.isAlphanum then none else readIn groups choices (.seq sequence (.char c)) rest
  | c :: rest => if isSpecial c then none else readIn groups choices (.seq sequence (.char c)) rest

def ofText? (t : Text) : Option Regex :=
  readIn [] none .empty t

end Regex

end ScopedShell
