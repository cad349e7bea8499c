import ScopedShell.Glob.Segment

/-!
# The names that a segment describes

A segment is worded as a sequence of signs and braces, and braces enclose choices that are worded
in the same way. `Wording.spelled` writes a wording out and `Wording.Describes` says which part of a
name it stands for; what follows that part counts only after a slash. `Describes` is the language of
a segment: the names that some wording of it describes.

Nothing here mentions regular expressions.
-/

namespace ScopedShell

namespace Glob

inductive Sign
  /-- A character that stands for itself as it is. -/
  | plain (c : Char)
  /-- A character that a backslash makes stand for itself. -/
  | escaped (c : Char)
  | run
  | one
  | slash

mutual

/-- A sequence of signs and braces; a lone backslash may end a segment. -/
inductive Wording
  | done
  | backslash
  | sign (s : Sign) (rest : Wording)
  | braces (choices : Choices) (rest : Wording)

inductive Choices
  | last (choice : Wording)
  | more (choice : Wording) (others : Choices)

end

/-! ## How a wording is written -/

def Sign.spelled : Sign → Text
  | plain c => [c]
  | escaped c => ['\\', c]
  | run => ['*']
  | one => ['?']
  | slash => ['/']

mutual

def Wording.spelled : Wording → Text
  | .done => []
  | .backslash => ['\\']
  | .sign s rest => s.spelled ++ rest.spelled
  | .braces choices rest => '{' :: choices.spelled ++ '}' :: rest.spelled

def Choices.spelled : Choices → Text
  | .last choice => choice.spelled
  | .more choice others => choice.spelled ++ ',' :: others.spelled

end

/-- Only a character without a meaning of its own stands for itself; a comma has one in braces. -/
def Sign.Fits (inBraces : Bool) : Sign → Prop
  | plain c => c ∉ ("\\*?/\x7b\x7d" : Text) ∧ (inBraces = true → c ≠ ',')
  | _ => True

mutual

def Wording.Fits (inBraces : Bool) : Wording → Prop
  | .done => True
  | .backslash => inBraces = false
  | .sign s rest => s.Fits inBraces ∧ rest.Fits inBraces
  | .braces choices rest => choices.Fits ∧ rest.Fits inBraces

def Choices.Fits : Choices → Prop
  | .last choice => choice.Fits true
  | .more choice others => choice.Fits true ∧ others.Fits

end

/-! ## What a wording describes -/

def IsVisible (t : Text) : Prop := t ≠ [] ∧ t.head? ≠ some '.'

instance : DecidablePred IsVisible := fun _ => inferInstanceAs (Decidable (_ ∧ _))

/-- What a sign describes where `after` follows in the name. A slash without a dot behind it in the
segment asks for something visible. -/
def Sign.Describes (dotFollows : Bool) : Sign → Text → Text → Prop
  | plain c, part, _ => part = [c]
  | escaped c, part, _ => part = [c]
  | run, part, _ => '/' ∉ part
  | one, part, _ => ∃ c, c ≠ '/' ∧ part = [c]
  | slash, part, after => part = ['/'] ∧ (dotFollows = true ∨ IsVisible after)

mutual

/-- What a wording describes where `after` follows in the name. -/
def Wording.Describes : Wording → Text → Text → Prop
  | .done, part, _ => part = []
  | .backslash, part, _ => part = ['\\']
  | .sign s rest, part, after => ∃ here there, part = here ++ there ∧
      s.Describes (isDotSegment rest.spelled) here (there ++ after) ∧ rest.Describes there after
  | .braces choices rest, part, after => ∃ here there, part = here ++ there ∧
      choices.Describes here (there ++ after) ∧ rest.Describes there after

def Choices.Describes : Choices → Text → Text → Prop
  | .last choice, part, after => choice.Describes part after
  | .more choice others, part, after => choice.Describes part after ∨ others.Describes part after

end

/-- The language of a segment. A segment that does not start with a dot describes visible names. -/
def Describes (segment name : Text) : Prop :=
  (isDotSegment segment = false → IsVisible name) ∧
    ∃ w : Wording, w.Fits false ∧ w.spelled = segment ∧ w.Describes name []

end Glob

end ScopedShell
