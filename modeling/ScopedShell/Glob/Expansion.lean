import ScopedShell.Glob.Pattern

/-!
# Expansion of patterns

A pattern is expanded segment by segment over a list of candidates. `.` gives the children of each
candidate, `..` its parent, `**` the directories below it and itself, and any other segment the
children whose names it describes. `directoriesBelow` works through a list of paths that are still
to be visited, in pre-order; a linked directory is given but not entered, unless it is where the
walk starts. No real directory is entered twice, so the walk visits no more paths than there are
entries.
-/

namespace ScopedShell

namespace Glob

def logSkipped (path : Text) (why : Refusal) : Traced Unit :=
  let refused : Refused := ⟨why, path⟩
  .log Log.globLogger .debug
    (("skipping unreadable entry " : Text) ++ path ++ (": " : Text) ++ refused.message)

/-- Visits the pending paths in order, each before those below it. -/
def visit (fs : FileSystem) (scope : Path) : Nat → Bool → List Path → Traced (List Path)
  | _, _, [] => pure []
  | 0, _, _ :: _ => pure []
  | bound + 1, isStart, current :: pending =>
    match fs.isDirectory current.text with
    | .error why => do
      logSkipped current.text why
      visit fs scope bound false pending
    | .ok false => visit fs scope bound false pending
    | .ok true =>
      match if isStart then .ok false else fs.isLink current.text with
      | .error why => do
        logSkipped current.text why
        visit fs scope bound false pending
      | .ok true => do
        let others ← visit fs scope bound false pending
        return current :: others
      | .ok false => do
        let below ← fs.children scope current
        let others ← visit fs scope bound false (below ++ pending)
        return current :: others

/-- The directories below a path in pre-order, the path itself first. -/
def directoriesBelow (fs : FileSystem) (scope start : Path) : Traced (List Path) :=
  visit fs scope (fs.entries.length + 1) true [start]

def filterByName (accepts : Text → Bool) (paths : List Path) : List Path :=
  paths.filter fun p => accepts p.name

def compileSegment (segment : Text) : Except Fault (Text → Bool) :=
  (compile segment).mapError (.invalidPattern segment)

def expand (fs : FileSystem) (scope : Path) (candidates : List Path) (segment : Text) :
    Traced (List Path) :=
  if segment = ['.'] then .collect (fs.children scope) candidates
  else if segment = parentPart then pure (candidates.filterMap fun p => (scope.join p).parent?)
  else if segment = ['*', '*'] then .collect (directoriesBelow fs scope) candidates
  else do
    let accepts ← .ofExcept (compileSegment segment)
    .collect (fun p => do
      let paths ← fs.children scope p
      return filterByName accepts paths) candidates

/-- The candidates after all segments; the number after each of them is logged. -/
def expandAll (fs : FileSystem) (scope : Path) (pattern : Text) (candidates : List Path) :
    List Text → Traced (List Path)
  | [] => pure candidates
  | segment :: rest => do
    let next ← expand fs scope candidates segment
    .log Log.globLogger .debug (("glob " : Text) ++ Text.quoted pattern ++ (": " : Text) ++
      Text.quoted segment ++ (" -> " : Text) ++ Text.ofNat next.length ++ (" candidate(s)" : Text))
    expandAll fs scope pattern next rest

/-- The paths that a pattern describes, in the order of the listings. -/
def glob (fs : FileSystem) (env : Environment) (scope : Path) (pattern : Text) :
    Traced (List Path) := do
  let parsed := Pattern.ofText pattern
  let start ← .ofExcept (parsed.startDirectory fs env scope)
  expandAll fs scope pattern [start] parsed.segments

def filterFiles (segment : Text) (paths : List Path) : Except Fault (List Path) :=
  (compileSegment segment).map fun accepts => filterByName accepts paths

def filterNames (segment : Text) (names : List Text) : Except Fault (List Text) :=
  (compileSegment segment).map fun accepts => names.filter accepts

end Glob

end ScopedShell
