import ScopedShell.Document.Scalar
import ScopedShell.Document.Token

/-!
# Scalars in quotes

Inside quotes a line break and the blanks around it become one space, and further line breaks are
kept. Single quotes know one escape, the doubled quote; double quotes know those with a backslash,
among them the escaped line break, which joins two lines without a space. A line may not start with
a mark that separates documents.
-/

namespace ScopedShell

namespace Document

/-- What has been read since the last character that is no blank. -/
inductive Gap
  | none
  | blanks (text : Text)
  | lines (first : Char) (others : Text)
  | joined (others : Text)

namespace Gap

def text : Gap → Text
  | none => []
  | blanks t => t
  | lines first others =>
    if first ≠ '\n' then first :: others else if others.isEmpty then [' '] else others
  | joined others => others

def blank (c : Char) : Gap → Gap
  | none => blanks [c]
  | blanks t => blanks (t ++ [c])
  | lines first others => lines first others
  | joined others => joined others

def line (c : Char) : Gap → Gap
  | none | blanks _ => lines c []
  | lines first others => lines first (others ++ [c])
  | joined others => joined (others ++ [c])

end Gap

def letterEscapes : List (Char × Char) :=
  [('0', '\x00'), ('a', '\x07'), ('b', '\x08'), ('t', '\t'), ('\t', '\t'), ('n', '\n'),
    ('v', '\x0b'), ('f', '\x0c'), ('r', '\r'), ('e', '\x1b'), (' ', ' '), ('"', '"'), ('\\', '\\'),
    ('/', '/'), ('N', '\u0085'), ('_', '\u00a0'), ('L', '\u2028'), ('P', '\u2029')]

def isHexDigit (c : Char) : Bool :=
  isHexadecimal c && c != '_'

/-- The character with a number; half of a pair that stands alone is no character of its own. -/
def character (n : Nat) : Except Fault Char :=
  if Nat.pow 2 31 ≤ n then .error (.unreadableScalar .hugeCharacter)
  else if 0x110000 ≤ n then .error (.unreadableScalar .noCharacter)
  else if 0xd800 ≤ n ∧ n < 0xe000 then .ok '\ufffd'
  else .ok (Char.ofNat n)

def codePoint (digits : Text) : Except Fault Char :=
  if digits.all isHexDigit then character (natOfDigits 16 digits) else .error .malformedDocument

/-- The character that two numbers of four digits give together, as halves of a pair. -/
def pairedCodePoint? (high low : Text) : Option Char :=
  let n := natOfDigits 16 high
  let m := natOfDigits 16 low
  if (high ++ low).all isHexDigit ∧ 0xd800 ≤ n ∧ n < 0xdc00 ∧ 0xdc00 ≤ m ∧ m < 0xe000 then
    some (Char.ofNat (0x10000 + (n - 0xd800) * 0x400 + (m - 0xdc00)))
  else none

def readSingle (gap : Gap) (read : Text) : Text → Except Fault (Text × Text)
  | [] => .error .malformedDocument
  | '\'' :: '\'' :: rest => readSingle .none (read ++ gap.text ++ ['\'']) rest
  | '\'' :: rest => .ok (read ++ gap.text, rest)
  | c :: rest =>
    if isBlank c then readSingle (gap.blank c) read rest
    else if isBreak c then
      if atSeparator rest then .error .malformedDocument
      else readSingle (gap.line (normalBreak c)) read rest
    else readSingle .none (read ++ gap.text ++ [c]) rest

def readDouble (gap : Gap) (read : Text) : Text → Except Fault (Text × Text)
  | [] => .error .malformedDocument
  | '"' :: rest => .ok (read ++ gap.text, rest)
  | '\\' :: 'x' :: a :: b :: rest => do
    let c ← codePoint [a, b]
    readDouble .none (read ++ gap.text ++ [c]) rest
  | '\\' :: 'u' :: a :: b :: c :: d :: '\\' :: 'u' :: e :: f :: g :: h :: rest => do
    let first ← codePoint [a, b, c, d]
    match pairedCodePoint? [a, b, c, d] [e, f, g, h] with
    | some pair => readDouble .none (read ++ gap.text ++ [pair]) rest
    | none =>
      readDouble .none (read ++ gap.text ++ [first]) ('\\' :: 'u' :: e :: f :: g :: h :: rest)
  | '\\' :: 'u' :: a :: b :: c :: d :: rest => do
    let c ← codePoint [a, b, c, d]
    readDouble .none (read ++ gap.text ++ [c]) rest
  | '\\' :: 'U' :: a :: b :: c :: d :: e :: f :: g :: h :: rest => do
    let c ← codePoint [a, b, c, d, e, f, g, h]
    readDouble .none (read ++ gap.text ++ [c]) rest
  | '\\' :: e :: rest =>
    if isBreak e then
      if atSeparator rest then .error .malformedDocument
      else readDouble (.joined []) (read ++ gap.text) rest
    else
      match letterEscapes.lookup e with
      | some c => readDouble .none (read ++ gap.text ++ [c]) rest
      | none => .error .malformedDocument
  | c :: rest =>
    if isBlank c then readDouble (gap.blank c) read rest
    else if isBreak c then
      if atSeparator rest then .error .malformedDocument
      else readDouble (gap.line (normalBreak c)) read rest
    else if c = '\\' then .error .malformedDocument
    else readDouble .none (read ++ gap.text ++ [c]) rest

end Document

end ScopedShell
