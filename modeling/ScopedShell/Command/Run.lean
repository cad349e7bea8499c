import ScopedShell.Command.Words
import ScopedShell.Path.Argument
import ScopedShell.Traced

/-!
# Running commands

A command is run from a directory: a record tells the line, the child is started once, and its end
becomes a result. A child that takes too long or cannot be started has an exit code of its own. A
dry run stops after the record. With `check`, a result that is no success is a fault, but not before
everything has been recorded.
-/

namespace ScopedShell

namespace Command

inductive Source
  | line (text : Text)
  | words (arguments : List PathArgument)

inductive Ending
  | exited (code : Int) (output errors : Option Text)
  | timedOut
  | notStarted (number : Int) (description : Text) (path : Option Text)

structure Options where
  check : Bool := false
  timeout : Option Number := none
  environment : Option Environment := none

def exitNotStarted : Int := 127
def exitTimeout : Int := 124

/-- The words of a command; there has to be at least one. -/
def Source.arguments : Source → Except Fault (List Text)
  | line text =>
    match splitWords text with
    | .error fault => .error (.unsplittable fault)
    | .ok [] => .error .emptyCommand
    | .ok (word :: others) => .ok (word :: others)
  | words [] => .error .emptyCommand
  | words arguments => .ok (arguments.map PathArgument.text)

def shownLine (arguments : List Text) (directory : Path) : Text :=
  ("(cd " : Text) ++ directory.text ++ (" && " : Text) ++ joinWords arguments ++ (")" : Text)

/-- The request for the child: its environment knows the directory as `PWD`. -/
def launch (env : Environment) (arguments : List Text) (directory : Path) (options : Options) :
    Launch where
  arguments := arguments
  directory := directory.text
  environment := (options.environment.getD env).set "PWD" directory.text
  timeout := options.timeout

def timeoutText (timeout : Option Number) : Text :=
  match timeout with
  | some n => n.text
  | none => "None"

def Ending.result (arguments : List Text) (directory : Path) (timeout : Option Number) :
    Ending → Result
  | exited code output errors => {
      arguments := arguments
      directory := directory.text
      exitCode := code
      output := output.getD []
      errors := errors.getD [] }
  | timedOut => {
      arguments := arguments
      directory := directory.text
      exitCode := exitTimeout
      errors := ("TIMEOUT: Command '" : Text) ++ Text.quotedList arguments ++
        ("' timed out after " : Text) ++ timeoutText timeout ++ (" seconds" : Text) }
  | notStarted number description path => {
      arguments := arguments
      directory := directory.text
      exitCode := exitNotStarted
      errors := ("RUNNER_ERROR: " : Text) ++ numberedMessage number description ++
        (match path with
          | some path => (": " : Text) ++ Text.quoted path
          | none => []) }

/-- Runs a command from a directory, or only tells what would be run. -/
def run (env : Environment) (arguments : List Text) (directory : Path) (dryRun : Bool)
    (options : Options) (ending : Ending) : Traced Result := do
  let line := shownLine arguments directory
  if dryRun then
    .log Log.processLogger .info (("[dry-run] " : Text) ++ line)
    return { arguments := arguments, directory := directory.text, exitCode := 0, dryRun := true }
  else
    .log Log.processLogger .info line
    .emit (.launched (launch env arguments directory options))
    let result := ending.result arguments directory options.timeout
    if result.ok then return result
    .log Log.processLogger .debug (("exit " : Text) ++ Text.ofInt result.exitCode ++
      (": " : Text) ++
      joinWords arguments)
    if options.check then .fail (.commandFailed result) else return result

end Command

end ScopedShell
