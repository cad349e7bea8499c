import ScopedShell.FileSystem.Resolve
import ScopedShell.Path.Argument
import ScopedShell.Traced

/-!
# Directories in use

The operations that look into a file system from a scoped directory or add directories to it.
Relative paths are seen from the scope. Listing never fails for want of a directory: what is missing
or no directory is empty, and what may not be listed is empty too, with a record that says so.
-/

namespace ScopedShell

namespace FileSystem

def children (fs : FileSystem) (scope p : Path) : Traced (List Path) :=
  let directory := scope.join p
  match fs.list directory.text with
  | .ok names => pure (names.map directory.child)
  | .error .missing | .error .notDirectory => pure []
  | .error .nullCharacter => .fail (.refused ⟨.nullCharacter, directory.text⟩)
  | .error why => do
    let refused : Refused := ⟨why, directory.text⟩
    .log Log.pathLogger .debug (("treating unreadable directory " : Text) ++ directory.text ++
      (" as empty: " : Text) ++ refused.message)
    return []

/-- The canonical path of what is there: absolute, without links and without `..`. -/
def canonicalize (fs : FileSystem) (scope p : Path) : Except Fault Path :=
  let target := scope.join p
  match fs.resolve target.text with
  | .ok l => .ok (Path.ofText (spelledLocation l))
  | .error refused =>
    match refused.why with
    | .missing | .notDirectory | .tooManyLinks => .error (.notFound target)
    | _ => .error (.refused refused)

/-- A call that could not make a directory has done no harm if one is there. -/
def acceptDirectory (fs : FileSystem) (path : Text) (why : Refusal) : Except Refused Unit :=
  if why = .nullCharacter then .error ⟨why, path⟩
  else
    match fs.isDirectory path with
    | .ok true => .ok ()
    | .ok false => .error ⟨why, path⟩
    | .error other => .error ⟨other, path⟩

def makeOne (fs : FileSystem) (path : Text) : Except Refused Unit × FileSystem :=
  match fs.makeDirectory path with
  | .ok fs => (.ok (), fs)
  | .error .missing => (.error ⟨.missing, path⟩, fs)
  | .error why => (fs.acceptDirectory path why, fs)

/-- Makes a directory, and before it at most the given number of missing parents. -/
def makeWithParents : Nat → FileSystem → Path → Except Refused Unit × FileSystem
  | parents, fs, p =>
    match fs.makeDirectory p.text with
    | .ok fs => (.ok (), fs)
    | .error .missing =>
      match parents with
      | 0 => (.error ⟨.missing, p.text⟩, fs)
      | parents + 1 =>
        match makeWithParents parents fs p.parent with
        | (.ok (), fs) => fs.makeOne p.text
        | (.error refused, fs) => (.error refused, fs)
    | .error why => (fs.acceptDirectory p.text why, fs)

/-- Makes sure that a directory is there, and tells whether it had to be made. A failure may leave
some of the missing parents behind. -/
def ensureDirectory (fs : FileSystem) (scope p : Path) : Except Fault Bool × FileSystem :=
  let directory := scope.join p
  match fs.isDirectory directory.text with
  | .ok true => (.ok false, fs)
  | .ok false =>
    match makeWithParents directory.parts.length fs directory with
    | (.ok (), fs) => (.ok true, fs)
    | (.error refused, fs) => (.error (.refused refused), fs)
  | .error why => (.error (.refused ⟨why, directory.text⟩), fs)

/-- The path of a temporary directory; an absolute beginning stands alone. -/
def temporaryPath (parent : Path) (beginning name : Text) : Text :=
  let last := beginning ++ '_' :: name
  if last.head? = some '/' then last
  else if parent.text.getLast? = some '/' then parent.text ++ last
  else parent.text ++ '/' :: last

/-- Makes a new directory under the first of the given names that is not taken. -/
def makeTemporary (fs : FileSystem) (parent : Path) (beginning : Text) :
    List Text → Except Fault Path × FileSystem
  | [] => (.error .noTemporaryName, fs)
  | name :: others =>
    let path := temporaryPath parent beginning name
    match fs.makeDirectory path with
    | .ok fs => (.ok (Path.ofText path), fs)
    | .error .exists => fs.makeTemporary parent beginning others
    | .error why => (.error (.refused ⟨why, path⟩), fs)

end FileSystem

end ScopedShell
