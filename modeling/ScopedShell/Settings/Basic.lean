import ScopedShell.Data
import ScopedShell.Settings.Problem

/-!
# Settings

The settings of the library and the rules by which given values become settings. Every field has a
default, a field has to have its type, and no other key is allowed; all problems are found at once
and reported in order. A truth value may also be written as a number or as one of a few words.
-/

namespace ScopedShell

structure Settings where
  dryRun : Bool := false
  logLevel : Text := "WARNING"
  logFormat : Text := "%(levelname)s: %(message)s"
deriving DecidableEq, Repr

namespace Settings

def dryRunField : Text := "dry_run"
def logLevelField : Text := "log_level"
def logFormatField : Text := "log_format"

def trueWords : List Text := ["1", "true", "t", "yes", "y", "on"]
def falseWords : List Text := ["0", "false", "f", "no", "n", "off"]

def truthOfText (t : Text) : Except ProblemKind Bool :=
  if Text.lowerAscii t ∈ trueWords then .ok true
  else if Text.lowerAscii t ∈ falseWords then .ok false
  else .error .unclearTruthValue

/-- The truth value that a number means. Integers are tried within 64 bits, and doubles with an
integer value strictly between the ends of that range. -/
def truthOfNumber (n : Number) : Except ProblemKind Bool :=
  match n.integer? with
  | none => .error .noTruthValue
  | some 0 => .ok false
  | some 1 => .ok true
  | some i =>
    let lowest := match n with
      | .integer _ => -Int.ofNat (Nat.pow 2 63)
      | .real _ => -Int.ofNat (Nat.pow 2 63) + 1
    if lowest ≤ i ∧ i < Int.ofNat (Nat.pow 2 63) then .error .unclearTruthValue
    else .error .noTruthValue

def truthOf : Data → Except ProblemKind Bool
  | .flag b => .ok b
  | .number n => truthOfNumber n
  | .text t => truthOfText t
  | _ => .error .noTruthValue

def textOf : Data → Except ProblemKind Text
  | .text t => .ok t
  | _ => .error .noText

/-- An integer as a key; one with too many digits is not written. -/
def integerKeyName (n : Int) : Text :=
  if Nat.pow 10 Number.digitLimit ≤ n.natAbs then "<unprintable int object>" else Text.ofInt n

/-- A key that is no text, as problems name it. -/
def keyName : Data → Text
  | .null => "None"
  | .flag b => if b then ['1'] else ['0']
  | .number (.integer n) => integerKeyName n
  | .number n => n.text
  | .text t => t
  | .moment m => m.text
  | .list _ => "[]"
  | .mapping _ => "\x7b\x7d"

def keyProblem? (key : Data) : Option Problem :=
  match key with
  | .text name =>
    if name ∈ [dryRunField, logLevelField, logFormatField] then none
    else some ⟨name, .unknownKey⟩
  | other => some ⟨keyName other, .keyNoText⟩

/-- The value of a field: what is given, or the default. -/
def readField {α : Type} (name : Text) (default : α) (read : Data → Except ProblemKind α)
    (entries : List (Data × Data)) : Except Problem α :=
  match Data.field? name entries with
  | none => .ok default
  | some value => (read value).mapError (⟨name, ·⟩)

def problemOf {α : Type} : Except Problem α → List Problem
  | .ok _ => []
  | .error problem => [problem]

/-- Whether a list of texts comes before another one or equals it, by code points. -/
def textsAtMost (a b : List Text) : Bool :=
  !decide (b < a)

def sortProblems (problems : List Problem) : List Problem :=
  problems.mergeSort fun p q => textsAtMost p.texts q.texts

/-- The settings that a mapping gives, or everything that is wrong with it. -/
def ofEntries (entries : List (Data × Data)) : Except (List Problem) Settings :=
  let defaults : Settings := {}
  let dryRun := readField dryRunField defaults.dryRun truthOf entries
  let logLevel := readField logLevelField defaults.logLevel textOf entries
  let logFormat := readField logFormatField defaults.logFormat textOf entries
  match dryRun, logLevel, logFormat, entries.filterMap fun entry => keyProblem? entry.1 with
  | .ok dryRun, .ok logLevel, .ok logFormat, [] => .ok ⟨dryRun, logLevel, logFormat⟩
  | _, _, _, keyProblems => .error (sortProblems
      (problemOf dryRun ++ problemOf logLevel ++ problemOf logFormat ++ keyProblems))

end Settings

end ScopedShell
