import ScopedShell.Environment
import ScopedShell.Number

/-!
# Results of commands

What a command has left behind, and the request by which a child process is started.
-/

namespace ScopedShell

namespace Command

structure Launch where
  arguments : List Text
  directory : Text
  environment : Environment
  timeout : Option Number

structure Result where
  arguments : List Text
  directory : Text
  exitCode : Int
  output : Text := []
  errors : Text := []
  dryRun : Bool := false
deriving DecidableEq, Repr

def Result.ok (r : Result) : Bool :=
  r.exitCode == 0

end Command

end ScopedShell
