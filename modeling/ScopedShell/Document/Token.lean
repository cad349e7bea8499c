import ScopedShell.Fault

/-!
# Tokens of a document

The tokens into which a document is cut before its structure is known. Most are marks; a scalar has
its text and whether it was written without quotes. The starts and ends of block collections are not
written but follow from the indentation.
-/

namespace ScopedShell

namespace Document

inductive Token
  | versionDirective (major : Nat)
  | tagDirective (handle uri : Text)
  | otherDirective
  | documentStart
  | documentEnd
  | streamEnd
  | blockSequenceStart
  | blockMappingStart
  | blockEnd
  | flowSequenceStart
  | flowSequenceEnd
  | flowMappingStart
  | flowMappingEnd
  | blockEntry
  | flowEntry
  | key
  | value
  | alias (name : Text)
  | anchor (name : Text)
  | tag (handle : Option Text) (suffix : Text)
  | scalar (text : Text) (plain : Bool)
deriving DecidableEq, Repr

def isAllowed (c : Char) : Bool :=
  let n := c.toNat
  n = 0x9 || n = 0xa || n = 0xd || (0x20 ≤ n && n ≤ 0x7e) || n = 0x85 ||
    (0xa0 ≤ n && n ≤ 0xd7ff) || (0xe000 ≤ n && n ≤ 0xfffd) || 0x10000 ≤ n

def isBreak (c : Char) : Bool :=
  c == '\n' || c == '\r' || c == '\u0085' || c == '\u2028' || c == '\u2029'

def normalBreak (c : Char) : Char :=
  if c == '\u2028' || c == '\u2029' then c else '\n'

def isBlank (c : Char) : Bool := c == ' ' || c == '\t'

def atSpace : Text → Bool
  | [] => true
  | c :: _ => isBlank c || isBreak c

def atPlainSpace : Text → Bool
  | [] => true
  | c :: _ => c == ' ' || isBreak c

def atBreak : Text → Bool
  | [] => true
  | c :: _ => isBreak c

def atSeparator (t : Text) : Bool :=
  match t with
  | '-' :: '-' :: '-' :: rest => atSpace rest
  | '.' :: '.' :: '.' :: rest => atSpace rest
  | _ => false

def isNameChar (c : Char) : Bool :=
  c.isAlphanum || c == '-' || c == '_'

/-- The characters of the addresses that tags are; the percent sign starts an escape. -/
def isAddressChar (c : Char) : Bool :=
  c.isAlphanum || c ∈ ("-;/?:@&=+$,_.!~*'()[]" : Text)

end Document

end ScopedShell
