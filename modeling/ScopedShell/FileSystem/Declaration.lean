import ScopedShell.FileSystem
import ScopedShell.Path.Relative

/-!
# Declared entries

A file system is described by declaring its entries one by one. Missing parents become directories;
no link is followed and no permission asked for. A directory that is declared again keeps what it
holds and changes only what it denies; a file or a link takes the place of what had its name. What
is declared below a file or a link could never be reached, and nothing is added for it.
-/

namespace ScopedShell

inductive Declaration
  | directory (path : Text) (denied : Denied)
  | file (path : Text) (content : ByteArray) (denied : Denied)
  | link (path : Text) (target : Text)

namespace FileSystem

/-- The location that a declared path means, whatever is there. -/
def declaredLocation (path : Text) : Location :=
  Path.cancelParents (Path.partsOf path)

def insertParents (fs : FileSystem) (l : Location) : FileSystem :=
  (List.range l.length).foldl (fun fs n => fs.insert (l.take n) (.directory {})) fs

/-- Puts a file or a link at a location, in the place of what was there. -/
def put (fs : FileSystem) (l : Location) (node : Node) : FileSystem :=
  if (fs.node? l).isSome then fs.replace l node else (fs.insertParents l).insert l node

def declare (fs : FileSystem) : Declaration → FileSystem
  | .directory path denied =>
    let l := declaredLocation path
    if (fs.node? l).isSome then fs.restrict l denied
    else (fs.insertParents l).insert l (.directory denied)
  | .file path content denied => fs.put (declaredLocation path) (.file content denied)
  | .link path target => fs.put (declaredLocation path) (.link target)

def ofDeclarations (declarations : List Declaration) : FileSystem :=
  declarations.foldl declare empty

end FileSystem

end ScopedShell
