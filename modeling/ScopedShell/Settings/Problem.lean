import ScopedShell.Text

/-!
# Problems of settings

Why given values are not settings: a list of problems, each with the field it concerns.
-/

namespace ScopedShell

namespace Settings

inductive ProblemKind
  | unclearTruthValue
  | noTruthValue
  | noText
  | unknownKey
  | keyNoText
deriving DecidableEq, Repr

namespace ProblemKind

def code : ProblemKind → Text
  | unclearTruthValue => "bool_parsing"
  | noTruthValue => "bool_type"
  | noText => "string_type"
  | unknownKey => "extra_forbidden"
  | keyNoText => "invalid_key"

def description : ProblemKind → Text
  | unclearTruthValue => "Input should be a valid boolean, unable to interpret input"
  | noTruthValue => "Input should be a valid boolean"
  | noText => "Input should be a valid string"
  | unknownKey => "Extra inputs are not permitted"
  | keyNoText => "Keys should be strings"

end ProblemKind

structure Problem where
  field : Text
  kind : ProblemKind
deriving DecidableEq, Repr

/-- The three texts by which a problem is reported. -/
def Problem.texts (p : Problem) : List Text :=
  [p.field, p.kind.code, p.kind.description]

end Settings

end ScopedShell
