import ScopedShell.Text.Quoted

/-!
# Refused calls

The reasons for which a call on the file system is refused. All but one of them are conditions of
the system, which have a number and a description; a path that holds the null character is turned
down before the system sees it.
-/

namespace ScopedShell

inductive Refusal
  | missing
  | denied
  | exists
  | notDirectory
  | isDirectory
  | tooLong
  | tooManyLinks
  | nullCharacter
deriving DecidableEq, Repr

namespace Refusal

def number? : Refusal → Option Nat
  | missing => some 2
  | denied => some 13
  | .exists => some 17
  | notDirectory => some 20
  | isDirectory => some 21
  | tooLong => some 36
  | tooManyLinks => some 40
  | nullCharacter => none

def description : Refusal → Text
  | missing => "No such file or directory"
  | denied => "Permission denied"
  | .exists => "File exists"
  | notDirectory => "Not a directory"
  | isDirectory => "Is a directory"
  | tooLong => "File name too long"
  | tooManyLinks => "Too many levels of symbolic links"
  | nullCharacter => "embedded null byte"

/-- The refusals that say that nothing is there: whoever only asks whether something is there takes
them for an answer. -/
def meansAbsent : Refusal → Bool
  | missing | notDirectory | tooManyLinks | nullCharacter => true
  | denied | .exists | isDirectory | tooLong => false

end Refusal

/-- A refused call: the reason, and the path as it was passed to the call. -/
structure Refused where
  why : Refusal
  path : Text
deriving DecidableEq

/-- A message with a number of its own: `[Errno 13] Permission denied`. -/
def numberedMessage (number : Int) (description : Text) : Text :=
  ("[Errno " : Text) ++ Text.ofInt number ++ ("] " : Text) ++ description

/-- The message of a refused call; it names the path if the system refused it. -/
def Refused.message (r : Refused) : Text :=
  match r.why.number? with
  | some number =>
    numberedMessage (Int.ofNat number) r.why.description ++ (": " : Text) ++ Text.quoted r.path
  | none => r.why.description

end ScopedShell
