import ScopedShell.FileSystem.Walk

/-!
# Calls on the file system

The calls by which paths are looked at, listed, read and made into directories. Each takes the path
as a text and is answered or refused; only `makeDirectory` changes anything, and it adds one empty
directory. The three questions at the end take a refusal that means absence for the answer no.
-/

namespace ScopedShell

namespace FileSystem

/-- What the path names, the last link followed. -/
def status (fs : FileSystem) (path : Text) : Except Refusal Node := do
  let l ← fs.locate true path
  match fs.node? l with
  | some node => .ok node
  | none => .error .missing

/-- What the path names, the last link not followed. -/
def linkStatus (fs : FileSystem) (path : Text) : Except Refusal Node := do
  let l ← fs.locate false path
  match fs.node? l with
  | some node => .ok node
  | none => .error .missing

def list (fs : FileSystem) (path : Text) : Except Refusal (List Text) := do
  let l ← fs.locate true path
  match fs.node? l with
  | some (.directory denied) => if denied.reading then .error .denied else .ok (fs.namesIn l)
  | _ => .error .notDirectory

def read (fs : FileSystem) (path : Text) : Except Refusal ByteArray := do
  let l ← fs.locate true path
  match fs.node? l with
  | some (.file content denied) => if denied.reading then .error .denied else .ok content
  | some (.directory denied) => if denied.reading then .error .denied else .error .isDirectory
  | _ => .error .missing

/-- Adds an empty directory. The path is walked up to its last part, which must be a new name. -/
def makeDirectory (fs : FileSystem) (path : Text) : Except Refusal FileSystem := do
  checkPath path
  let parts := (Text.split (· == '/') path).filter (· ≠ [])
  match parts.getLast? with
  | none => .error .exists
  | some name =>
    let l ← fs.walk true linkLimit (targetStart fs.processDirectory path) parts.dropLast
    match fs.node? l with
    | none => .error .missing
    | some (.directory denied) =>
      if denied.searching then .error .denied
      else if name = ['.'] ∨ name = parentPart ∨ (fs.node? (l ++ [name])).isSome then .error .exists
      else if 255 < Text.utf8Size name then .error .tooLong
      else if denied.creating then .error .denied
      else .ok (fs.insert (l ++ [name]) (.directory {}))
    | some _ => .error .notDirectory

def answer (question : Node → Bool) : Except Refusal Node → Except Refusal Bool
  | .ok node => .ok (question node)
  | .error why => if why.meansAbsent then .ok false else .error why

def isDirectory (fs : FileSystem) (path : Text) : Except Refusal Bool :=
  answer Node.isDirectory (fs.status path)

def pathExists (fs : FileSystem) (path : Text) : Except Refusal Bool :=
  answer (fun _ => true) (fs.status path)

def isLink (fs : FileSystem) (path : Text) : Except Refusal Bool :=
  answer Node.isLink (fs.linkStatus path)

end FileSystem

end ScopedShell
