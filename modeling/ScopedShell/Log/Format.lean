import ScopedShell.Log.Record
import ScopedShell.Number
import ScopedShell.Text.Quoted
import ScopedShell.Text.Word

/-!
# Record formats

A format is a text with directives. `%(name)s` stands for a property of the record, with flags, a
width and a precision between the name and the letter of the conversion; `%%` is a percent sign. A
format has to name at least one property, and an empty one stands for the message alone.
-/

namespace ScopedShell

namespace Log

/-- The format of records whose format is empty. -/
def messageOnly : Text := "%(message)s"

def isFlag (c : Char) : Bool :=
  c ∈ ("#0+ -" : Text)

/-- The letters of conversions; letter case does not matter, nor do three letters that share their
case with `i` and `s`. -/
def isConversion (c : Char) : Bool :=
  c.toLower ∈ ("diouxefgcrsa%" : Text) || c ∈ ("\u0130\u0131\u017f" : Text)

def dropWidth : Text → Text
  | '*' :: rest => rest
  | t => t.dropWhile Text.isDigit

def dropPrecision : Text → Text
  | '.' :: '*' :: rest => rest
  | '.' :: c :: rest => if Text.isDigit c then rest.dropWhile Text.isDigit else '.' :: c :: rest
  | t => t

def startsDirective (t : Text) : Bool :=
  match t.takeWhile Text.isWord, t.dropWhile Text.isWord with
  | _ :: _, ')' :: rest =>
    match dropPrecision (dropWidth (rest.dropWhile isFlag)) with
    | c :: _ => isConversion c
    | [] => false
  | _, _ => false

def namesProperty : Text → Bool
  | [] => false
  | '%' :: '(' :: rest => startsDirective rest || namesProperty rest
  | _ :: rest => namesProperty rest

def format? (t : Text) : Option Text :=
  if t.isEmpty then some messageOnly
  else if namesProperty t then some t
  else none

inductive Property
  | text (value : Text)
  | number (value : Nat)

/-- The properties that a format may name: the message, the logger and the level. Those that come
from outside of the record, such as its time or the place in the program, are not among them, and a
format that names one writes nothing. -/
def Record.property? (r : Record) (name : Text) : Option Property :=
  if name = ("message" : Text) then some (.text r.text)
  else if name = ("name" : Text) then some (.text r.logger)
  else if name = ("levelname" : Text) then some (.text r.level.name)
  else if name = ("levelno" : Text) then some (.number r.level.number)
  else none

structure Layout where
  left : Bool
  plus : Bool
  blank : Bool
  alternate : Bool
  zeros : Bool
  width : Nat
  precision : Option Nat

def numberOfDigits (digits : Text) : Nat :=
  digits.foldl (fun n c => 10 * n + (c.toNat - '0'.toNat)) 0

def readLayout (t : Text) : Layout × Text :=
  let flags := t.takeWhile isFlag
  let afterFlags := t.dropWhile isFlag
  let width := numberOfDigits (afterFlags.takeWhile Char.isDigit)
  let afterWidth := afterFlags.dropWhile Char.isDigit
  let layout (precision : Option Nat) : Layout :=
    ⟨'-' ∈ flags, '+' ∈ flags, ' ' ∈ flags, '#' ∈ flags, '0' ∈ flags, width, precision⟩
  match afterWidth with
  | '.' :: rest =>
    (layout (some (numberOfDigits (rest.takeWhile Char.isDigit))), rest.dropWhile Char.isDigit)
  | rest => (layout none, rest)

def Layout.fill (l : Layout) (t : Text) : Text :=
  let missing := List.replicate (l.width - t.length) ' '
  if l.left then t ++ missing else missing ++ t

def Layout.text (l : Layout) (t : Text) : Text :=
  l.fill (match l.precision with
    | some n => t.take n
    | none => t)

def Layout.sign (l : Layout) : Text :=
  if l.plus then ['+'] else if l.blank then [' '] else []

/-- A number behind its sign and the mark of its base, filled with zeros or blanks. -/
def Layout.signed (l : Layout) (mark digits : Text) : Text :=
  let head := l.sign ++ mark
  if l.zeros && !l.left then
    head ++ List.replicate (l.width - head.length - digits.length) '0' ++ digits
  else l.fill (head ++ digits)

/-- A natural number in a base, with at least as many digits as the precision asks for. -/
def Layout.integer (l : Layout) (mark digits : Text) : Text :=
  let least := l.precision.getD 1
  l.signed (if l.alternate then mark else [])
    (List.replicate (least - digits.length) '0' ++ digits)

def asciiQuoted (t : Text) : Text :=
  (Text.quoted t).flatMap fun c => if c.toNat < 0x80 then [c] else Text.escapedCodePoint c

def Layout.places (l : Layout) (n : Nat) : Text :=
  let count := l.precision.getD 6
  l.signed [] (Text.ofNat n ++
    (if count = 0 then (if l.alternate then ['.'] else []) else '.' :: List.replicate count '0'))

/-- The number of a level, a multiple of ten below a hundred, with an exponent. -/
def Layout.exponent (l : Layout) (letter : Char) (n : Nat) : Text :=
  let count := l.precision.getD 6
  l.signed [] (Text.ofNat (n / 10) ++
    (if count = 0 then (if l.alternate then ['.'] else []) else '.' :: List.replicate count '0') ++
    letter :: ("+01" : Text))

def Layout.general (l : Layout) (letter : Char) (n : Nat) : Text :=
  let count := max 1 (l.precision.getD 6)
  if count < 2 then
    l.signed []
      (Text.ofNat (n / 10) ++ (if l.alternate then ['.'] else []) ++ letter :: ("+01" : Text))
  else
    l.signed [] (Text.ofNat n ++
      (if l.alternate then '.' :: List.replicate (count - 2) '0' else []))

def Layout.write (l : Layout) (conversion : Char) : Property → Option Text
  | .text t =>
    if conversion = 's' then some (l.text t)
    else if conversion = 'r' then some (l.text (Text.quoted t))
    else if conversion = 'a' then some (l.text (asciiQuoted t))
    else if conversion = 'c' ∧ t.length = 1 then some (l.fill t)
    else none
  | .number n =>
    let digits := Text.ofNat n
    if conversion ∈ ("sra" : Text) then some (l.text digits)
    else if conversion ∈ ("diu" : Text) then some (l.integer [] digits)
    else if conversion = 'o' then some (l.integer ['0', 'o'] (Nat.toDigits 8 n))
    else if conversion = 'x' then some (l.integer ['0', 'x'] (Nat.toDigits 16 n))
    else if conversion = 'X' then
      some (l.integer ['0', 'X'] ((Nat.toDigits 16 n).map Char.toUpper))
    else if conversion = 'c' then some (l.fill [Char.ofNat n])
    else if conversion ∈ ("fF" : Text) then some (l.places n)
    else if conversion = 'e' then some (l.exponent 'e' n)
    else if conversion = 'E' then some (l.exponent 'E' n)
    else if conversion = 'g' then some (l.general 'e' n)
    else if conversion = 'G' then some (l.general 'E' n)
    else none

/-- The letter of a size in front of the conversion means nothing. -/
def dropSize : Text → Text
  | 'h' :: rest | 'l' :: rest | 'L' :: rest => rest
  | t => t

def writeDirective (property : Property) (t : Text) : Option (Text × Text) :=
  let (layout, rest) := readLayout t
  match dropSize rest with
  | conversion :: rest => (layout.write conversion property).map (·, rest)
  | [] => none

/-- The text of a record in a format, unless a directive cannot be written out. Every directive is
shorter than what is left of the format. -/
def render (r : Record) : Nat → Text → Option Text
  | _, [] => some []
  | 0, _ :: _ => none
  | _ + 1, ['%'] => none
  | bound + 1, '%' :: '%' :: rest => (render r bound rest).map ('%' :: ·)
  | bound + 1, '%' :: '(' :: rest =>
    match rest.dropWhile (· ≠ ')'), r.property? (rest.takeWhile (· ≠ ')')) with
    | _ :: after, some property => do
      let (written, rest) ← writeDirective property after
      let others ← render r bound rest
      return written ++ others
    | _, _ => none
  | _ + 1, '%' :: _ => none
  | bound + 1, c :: rest => (render r bound rest).map (c :: ·)

/-- The line that a record is in a format; nothing is written if the format does not fit it. -/
def Record.line (r : Record) (format : Text) : Text :=
  match render r format.length format with
  | some written => written ++ ['\n']
  | none => []

end Log

end ScopedShell
