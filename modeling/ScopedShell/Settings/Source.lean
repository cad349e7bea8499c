import ScopedShell.Document
import ScopedShell.Directory
import ScopedShell.Home
import ScopedShell.Path.Argument
import ScopedShell.Settings.Basic
import ScopedShell.Text.Blank

/-!
# Where settings come from

Settings are read from a document and then overridden by the environment. The document is the one
that is asked for, the one that the environment names, or the one in the home directory; if it is
not there or holds nothing, it counts as an empty mapping. Paths are taken from the directory of the
process. Blank variables count as unset.
-/

namespace ScopedShell

namespace Settings

def pathVariable : Text := "SHELLUTILS_CONFIG"
def dryRunVariable : Text := "SHELLUTILS_DRY_RUN"
def logLevelVariable : Text := "SHELLUTILS_LOG_LEVEL"

def defaultPath : Text := "~/.config/shellutils.yaml"

def switchWords : List Text := ["1", "true", "yes", "on"]

/-- The value of a variable without blanks at its ends, if anything is left. -/
def valueOf? (env : Environment) (name : Text) : Option Text :=
  match env.get? name with
  | none => none
  | some value => if Text.trim value = [] then none else some (Text.trim value)

def path (env : Environment) (asked : Option PathArgument) : Except Fault Path :=
  match asked, valueOf? env pathVariable with
  | some argument, _ => .ok argument.toPath
  | none, some text => expandHome env (Path.ofText text)
  | none, none => expandHome env (Path.ofText defaultPath)

def readEntries (fs : FileSystem) (p : Path) : Except Fault (List (Data × Data)) :=
  match fs.pathExists p.text with
  | .error why => .error (.refused ⟨why, p.text⟩)
  | .ok false => .ok []
  | .ok true =>
    match fs.read p.text with
    | .error why => .error (.refused ⟨why, p.text⟩)
    | .ok bytes =>
      match String.fromUTF8? bytes with
      | none => .error .undecodableText
      | some content => do
        match ← Document.read content.toList with
        | .null => .ok []
        | .mapping entries => .ok entries
        | _ => .error (.noMapping p)

def override (env : Environment) (entries : List (Data × Data)) : List (Data × Data) :=
  let entries :=
    match valueOf? env dryRunVariable with
    | some value => Data.putField dryRunField (.flag (Text.lowerAscii value ∈ switchWords)) entries
    | none => entries
  match valueOf? env logLevelVariable with
  | some value => Data.putField logLevelField (.text value) entries
  | none => entries

def validate (entries : List (Data × Data)) : Except Fault Settings :=
  (ofEntries entries).mapError .invalidSettings

/-- Reads the document, applies the environment and validates. -/
def load (fs : FileSystem) (env : Environment) (asked : Option PathArgument) :
    Except Fault Settings := do
  let p ← path env asked
  let entries ← readEntries fs p
  validate (override env entries)

end Settings

end ScopedShell
