import ScopedShell.Number
import ScopedShell.Path

/-!
# Path arguments

An argument that stands for a path is either a path or a text that spells one. Both denote a path;
the spelling matters only where the text itself is asked for, since a path has none but its normal
form. What is joined to a path may also be a number, a truth value or nothing, each of which stands
for its written form.
-/

namespace ScopedShell

inductive PathArgument
  | spelled (spelling : Text)
  | path (path : Path)

namespace PathArgument

def toPath : PathArgument → Path
  | spelled t => Path.ofText t
  | path p => p

/-- The text of the argument: as it was spelled, or the normal form. -/
def text : PathArgument → Text
  | spelled t => t
  | path p => p.text

def within (directory : Path) (a : PathArgument) : Path :=
  directory.join a.toPath

/-- What follows the last dot of the last part, or nothing. -/
def extension (a : PathArgument) : Text :=
  match Text.cutLast? '.' a.toPath.name with
  | some (_, suffix) => suffix
  | none => []

/-- The text of the argument up to its last dot, if the last part of the path holds one. -/
def withoutExtension (a : PathArgument) : Text :=
  if '.' ∈ a.toPath.name then
    match Text.cutLast? '.' a.text with
    | some (stem, _) => stem
    | none => a.text
  else a.text

theorem ofText_text (a : PathArgument) : Path.ofText a.text = a.toPath := by
  cases a with
  | spelled t => rfl
  | path p => exact p.ofText_text

end PathArgument

inductive Suffix
  | path (argument : PathArgument)
  | number (value : Number)
  | flag (value : Bool)
  | nothing

def Suffix.text : Suffix → Text
  | path a => a.text
  | number n => n.text
  | flag true => "True"
  | flag false => "False"
  | nothing => "None"

def PathArgument.join (a : PathArgument) (suffix : Suffix) : Path :=
  a.toPath.child suffix.text

theorem PathArgument.join_path (a b : PathArgument) : a.join (.path b) = a.toPath.join b.toPath :=
  congrArg a.toPath.join b.ofText_text

end ScopedShell
