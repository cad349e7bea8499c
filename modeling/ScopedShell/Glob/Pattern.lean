import ScopedShell.Directory
import ScopedShell.Home

/-!
# Patterns

A pattern is a root and a list of segments. It is cut at its separators, slash or backslash; the
first part may be a root: nothing, or anything with a colon as its second character, for an absolute
pattern, and a tilde for the home directory. Empty parts do not count.
-/

namespace ScopedShell

namespace Glob

inductive PatternRoot
  | absolute (head : Text)
  | home
  | relative
deriving DecidableEq, Repr

def PatternRoot.text : PatternRoot → Text
  | absolute head => head
  | home => ['~']
  | relative => []

structure Pattern where
  root : PatternRoot
  segments : List Text
deriving DecidableEq, Repr

def isSeparator (c : Char) : Bool := c == '/' || c == '\\'

def rootOf? : Text → Option PatternRoot
  | [] => some (.absolute [])
  | ['~'] => some .home
  | c :: ':' :: rest => some (.absolute (c :: ':' :: rest))
  | _ => none

def segmentsOf (parts : List Text) : List Text :=
  parts.filter (· ≠ [])

def Pattern.ofText (t : Text) : Pattern :=
  match Text.split isSeparator t with
  | [] => ⟨.relative, []⟩
  | head :: rest =>
    match rootOf? head with
    | some root => ⟨root, segmentsOf rest⟩
    | none => ⟨.relative, segmentsOf (head :: rest)⟩

/-- The path from which the segments are followed. A scope that is not there is taken as it is. -/
def Pattern.startDirectory (fs : FileSystem) (env : Environment) (scope : Path) (p : Pattern) :
    Except Fault Path :=
  match p.root with
  | .absolute head => .ok (scope.join (Path.ofText (head ++ ['/'])))
  | .home => homeDirectory env
  | .relative =>
    match fs.canonicalize scope (Path.ofText []) with
    | .error (.notFound _) => .ok (scope.join (Path.ofText []))
    | outcome => outcome

theorem segmentsOf_ne_nil {parts : List Text} {segment : Text} (h : segment ∈ segmentsOf parts) :
    segment ≠ [] := by
  simpa using (List.mem_filter.1 h).2

end Glob

end ScopedShell
