import ScopedShell.Text

/-!
# Log records

What is logged: a logger, a level and a text. Loggers have dotted names, and a name is below another
one when it continues it after a dot.
-/

namespace ScopedShell

namespace Log

inductive Level
  | debug
  | info
  | warning
  | error
  | critical
deriving DecidableEq, Repr

namespace Level

def number : Level → Nat
  | debug => 10
  | info => 20
  | warning => 30
  | error => 40
  | critical => 50

def name : Level → Text
  | debug => "DEBUG"
  | info => "INFO"
  | warning => "WARNING"
  | error => "ERROR"
  | critical => "CRITICAL"

end Level

structure Record where
  logger : Text
  level : Level
  text : Text
deriving DecidableEq, Repr

/-- The logger above all loggers of this library. -/
def family : Text := "shellutils"

def globLogger : Text := family ++ (".globs" : Text)
def pathLogger : Text := family ++ (".paths" : Text)
def scopeLogger : Text := family ++ (".cwd" : Text)
def processLogger : Text := family ++ (".process" : Text)

def inFamily (logger : Text) : Bool :=
  logger == family || (family ++ ['.']).isPrefixOf logger

end Log

end ScopedShell
