import ScopedShell.Text.Printable

/-!
# Quoted text

The quoted form of a text, as messages show it: between single quotes, or between double quotes
when the text holds a single quote and no double one. The quote in use and the backslash get a
backslash, tab, line feed and carriage return have their letter, and every other character that
cannot be printed is written by its code point in the shortest of three hexadecimal forms.
-/

namespace ScopedShell.Text

def hexPadded (width n : Nat) : Text :=
  let digits := Nat.toDigits 16 n
  List.replicate (width - digits.length) '0' ++ digits

/-- A code point that cannot be printed: two, four or eight hexadecimal digits. -/
def escapedCodePoint (c : Char) : Text :=
  if c.toNat ≤ 0xff then '\\' :: 'x' :: hexPadded 2 c.toNat
  else if c.toNat ≤ 0xffff then '\\' :: 'u' :: hexPadded 4 c.toNat
  else '\\' :: 'U' :: hexPadded 8 c.toNat

def quotedChar (mark c : Char) : Text :=
  if c == mark || c == '\\' then ['\\', c]
  else if c == '\t' then ['\\', 't']
  else if c == '\n' then ['\\', 'n']
  else if c == '\r' then ['\\', 'r']
  else if isPrintable c then [c]
  else escapedCodePoint c

def quoteMark (t : Text) : Char :=
  if t.contains '\'' && !t.contains '"' then '"' else '\''

def quoted (t : Text) : Text :=
  quoteMark t :: t.flatMap (quotedChar (quoteMark t)) ++ [quoteMark t]

def quotedList (ts : List Text) : Text :=
  '[' :: [',', ' '].intercalate (ts.map quoted) ++ [']']

end ScopedShell.Text
