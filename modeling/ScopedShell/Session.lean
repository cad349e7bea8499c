import ScopedShell.Command.Run
import ScopedShell.FileSystem.Declaration
import ScopedShell.Glob.Expansion
import ScopedShell.Log.Logging
import ScopedShell.Settings.Source

/-!
# Sessions

A session is the state that operations share: the file system, the environment, the directories
scoped one inside the other, the settings once they have been loaded, and the state of logging. Two
directories are given with it and stay as they are. Relative paths are seen from the innermost
scope, or outside all scopes from the directory in which the process was started.
-/

namespace ScopedShell

structure Session where
  files : FileSystem := .empty
  environment : Environment := []
  /-- The directory in which the process was started, and with it every thread. -/
  startup : Path := .rootDirectory
  isAbsolute_startup : startup.isAbsolute = true := by rfl
  /-- The directory in which temporary directories are made. -/
  temporaryParent : Path := Path.ofText "/tmp"
  isAbsolute_temporaryParent : temporaryParent.isAbsolute = true := by rfl
  /-- The scoped directories, the innermost first. -/
  scopes : List Path := []
  /-- The settings, once they have been loaded. -/
  settings : Option Settings := none
  logging : Logging := {}

namespace Session

def directory (s : Session) : Path :=
  s.scopes.head?.getD s.startup

def absolute (s : Session) (a : PathArgument) : Path :=
  a.within s.directory

def observe (s : Session) (events : List Event) : Session :=
  { s with logging := s.logging.observeAll events }

def enter (s : Session) (a : PathArgument) : Path × Session :=
  let target := s.absolute a
  (target, { s with scopes := target :: s.scopes }.observe
    [.logged ⟨Log.scopeLogger, .debug, ("cwd -> " : Text) ++ target.text⟩])

def leave (s : Session) : Session :=
  match s.scopes with
  | [] => s
  | _ :: outer =>
    let restored := { s with scopes := outer }
    restored.observe
      [.logged ⟨Log.scopeLogger, .debug, ("cwd <- " : Text) ++ restored.directory.text⟩]

/-- The settings in force: those loaded before, or those that can be loaded now, which are kept. -/
def currentSettings (s : Session) : Except Fault Settings × Session :=
  match s.settings with
  | some settings => (.ok settings, s)
  | none =>
    match Settings.load s.files s.environment none with
    | .ok settings => (.ok settings, { s with settings := some settings })
    | .error fault => (.error fault, s)

end Session

end ScopedShell
