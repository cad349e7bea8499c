import ScopedShell.Data
import ScopedShell.Fault

/-!
# Plain scalars

What a scalar means that is written without quotes: nothing, a truth value, a number, a date or a
text, told apart by its form alone. Integers may be written in four bases and in base sixty, with
low lines between the digits; numbers with a point may have an exponent, which needs a sign.
-/

namespace ScopedShell

namespace Document

def nullWords : List Text := ["", "~", "null", "Null", "NULL"]

def trueWords : List Text :=
  ["yes", "Yes", "YES", "true", "True", "TRUE", "on", "On", "ON"]
def falseWords : List Text :=
  ["no", "No", "NO", "false", "False", "FALSE", "off", "Off", "OFF"]

/-- The forms that have a meaning only as keys of a mapping. -/
def mergeKey : Text := "<<"
def valueKey : Text := "="

def digitValue (c : Char) : Nat :=
  if c.isDigit then c.toNat - '0'.toNat else c.toLower.toNat - 'a'.toNat + 10

/-- The natural number that digits spell in a base; low lines do not count. -/
def natOfDigits (base : Nat) (digits : Text) : Nat :=
  (digits.filter (· ≠ '_')).foldl (fun n c => base * n + digitValue c) 0

def isBinary (c : Char) : Bool := c == '0' || c == '1' || c == '_'
def isOctal (c : Char) : Bool := ('0' ≤ c && c ≤ '7') || c == '_'
def isDecimal (c : Char) : Bool := c.isDigit || c == '_'
def isHexadecimal (c : Char) : Bool :=
  c.isDigit || ('a' ≤ c && c ≤ 'f') || ('A' ≤ c && c ≤ 'F') || c == '_'

def takeSign : Text → Bool × Text
  | '-' :: rest => (true, rest)
  | '+' :: rest => (false, rest)
  | t => (false, t)

/-- One or two digits, the first of two at most five. -/
def isSixtieth : Text → Bool
  | [a] => a.isDigit
  | [a, b] => '0' ≤ a && a ≤ '5' && b.isDigit
  | _ => false

/-- A number without its sign that starts with a digit other than zero. -/
def startsNumber : Text → Bool
  | c :: rest => '1' ≤ c && c ≤ '9' && rest.all isDecimal
  | [] => false

def limitedNat (digits : Text) : Except ScalarFault Nat :=
  let count := (digits.filter (· ≠ '_')).length
  if Number.digitLimit < count then .error (.tooManyDigits count) else .ok (natOfDigits 10 digits)

def sixtieths (parts : List Text) : Except ScalarFault Nat :=
  parts.foldlM (fun n part => do
    let digit ← limitedNat part
    return 60 * n + digit) 0

def readNat? : Text → Option (Except ScalarFault Nat)
  | '0' :: 'b' :: digits =>
    if digits ≠ [] ∧ digits.all isBinary then
      some (if digits.all (· == '_') then .error (.noDigits 2) else .ok (natOfDigits 2 digits))
    else none
  | '0' :: 'x' :: digits =>
    if digits ≠ [] ∧ digits.all isHexadecimal then
      some (if digits.all (· == '_') then .error (.noDigits 16) else .ok (natOfDigits 16 digits))
    else none
  | '0' :: digits => if digits.all isOctal then some (.ok (natOfDigits 8 digits)) else none
  | t =>
    match Text.split (· == ':') t with
    | [digits] => if startsNumber digits then some (limitedNat digits) else none
    | first :: rest =>
      if startsNumber first ∧ rest.all isSixtieth then some (sixtieths (first :: rest))
      else none
    | [] => none

def readInteger? (t : Text) : Option (Except ScalarFault Int) :=
  let (negative, rest) := takeSign t
  (readNat? rest).map fun outcome =>
    outcome.map fun n => if negative then -Int.ofNat n else Int.ofNat n

def readExponent? : Text → Option Int
  | [] => some 0
  | e :: sign :: digits =>
    if (e == 'e' || e == 'E') && digits ≠ [] && digits.all Char.isDigit then
      if sign = '-' then some (-Int.ofNat (natOfDigits 10 digits))
      else if sign = '+' then some (Int.ofNat (natOfDigits 10 digits))
      else none
    else none
  | _ => none

def realOf (whole part : Text) (exponent : Int) : Float :=
  Number.nearestReal (natOfDigits 10 (whole ++ part))
    (exponent - Int.ofNat (part.filter (· ≠ '_')).length)

/-- The sum of the places of a number in base sixty, the last place first. Every place is rounded
when it is read, weighted and added, and the weight has to be a double. -/
def sumOfPlaces : Nat → Float → List Float → Except ScalarFault Float
  | _, sum, [] => .ok sum
  | weight, sum, place :: higher =>
    if Decimal.nearestBits weight 0 = Decimal.infinityBits then .error .tooManyPlaces
    else sumOfPlaces (60 * weight) (sum + place * Number.nearestReal weight 0) higher

def startsDigits : Text → Bool
  | c :: rest => c.isDigit && rest.all isDecimal
  | [] => false

def readFraction? (signed : Bool) (t : Text) : Option (Except ScalarFault Float) :=
  let whole := t.takeWhile (· ≠ '.')
  match t.dropWhile (· ≠ '.') with
  | '.' :: after =>
    let part := after.takeWhile isDecimal
    match readExponent? (after.dropWhile isDecimal) with
    | some exponent =>
      if whole = [] then
        if !signed && startsDigits part then some (.ok (realOf [] part exponent)) else none
      else if startsDigits whole then some (.ok (realOf whole part exponent))
      else
        match (Text.split (· == ':') whole).reverse with
        | last :: higher =>
          if startsDigits (higher.getLast?.getD []) ∧ (last :: higher.dropLast).all isSixtieth ∧
              after.all isDecimal then
            some (sumOfPlaces 1 0.0
              (realOf last part 0 :: higher.map fun place => realOf place [] 0))
          else none
        | [] => none
    | none => none
  | _ => none

def infinityWords : List Text := [".inf", ".Inf", ".INF"]
def noNumberWords : List Text := [".nan", ".NaN", ".NAN"]

def readReal? (t : Text) : Option (Except ScalarFault Float) :=
  if t ∈ noNumberWords then some (.ok (0.0 / 0.0))
  else
    let (negative, rest) := takeSign t
    let size :=
      if rest ∈ infinityWords then some (.ok (1.0 / 0.0))
      else readFraction? (t.length ≠ rest.length) rest
    size.map fun outcome => outcome.map fun x => if negative then -x else x

/-- Digits at the beginning of a text, between the given numbers of them, and the rest. -/
def takeDigits (least most : Nat) (t : Text) : Option (Nat × Text) :=
  let digits := (t.take most).takeWhile Char.isDigit
  if least ≤ digits.length then some (natOfDigits 10 digits, t.drop digits.length) else none

def behind (c : Char) : Text → Option Text
  | d :: rest => if d = c then some rest else none
  | [] => none

def isDateBlank (c : Char) : Bool := c == ' ' || c == '\t'

def microseconds (digits : Text) : Nat :=
  natOfDigits 10 (digits.take 6 ++ List.replicate (6 - digits.length) '0')

def readOffset? (t : Text) : Option (Option Int) :=
  match t.dropWhile isDateBlank with
  | [] => if t = [] then some none else none
  | ['Z'] => some (some 0)
  | sign :: rest =>
    if sign = '+' ∨ sign = '-' then
      match takeDigits 1 2 rest with
      | none => none
      | some (hours, rest) =>
        let minutes? := match rest with
          | [] => some 0
          | ':' :: rest =>
            match takeDigits 2 2 rest with
            | some (minutes, []) => some minutes
            | _ => none
          | _ => none
        minutes?.map fun minutes =>
          let size := Int.ofNat (60 * hours + minutes)
          some (if sign = '-' then -size else size)
    else none

def readClock? (t : Text) : Option Clock := do
  let (hour, rest) ← takeDigits 1 2 t
  let rest ← behind ':' rest
  let (minute, rest) ← takeDigits 2 2 rest
  let rest ← behind ':' rest
  let (second, rest) ← takeDigits 2 2 rest
  let (fraction, rest) := match rest with
    | '.' :: rest => (rest.takeWhile Char.isDigit, rest.dropWhile Char.isDigit)
    | rest => ([], rest)
  let offset ← readOffset? rest
  return ⟨hour, minute, second, microseconds fraction, offset⟩

def readMoment? (t : Text) : Option Moment := do
  let (year, rest) ← takeDigits 4 4 t
  let rest ← behind '-' rest
  let (month, afterMonth) ← takeDigits 1 2 rest
  let rest' ← behind '-' afterMonth
  let (day, afterDay) ← takeDigits 1 2 rest'
  match afterDay with
  | [] => if t.length = 10 then some ⟨year, month, day, none⟩ else none
  | c :: after =>
    let start ←
      if c = 'T' ∨ c = 't' then some after
      else if isDateBlank c then some (after.dropWhile isDateBlank)
      else none
    let clock ← readClock? start
    return ⟨year, month, day, some clock⟩

/-- A clock that is less than a day away from universal time. -/
def checkOffset (m : Moment) : Except ScalarFault Unit :=
  match m.clock.bind Clock.offset with
  | none => .ok ()
  | some minutes =>
    if minutes.natAbs < 1440 then .ok () else .error (.offsetOutOfRange minutes)

def checkDate (m : Moment) : Except ScalarFault Unit :=
  if m.year = 0 then .error (.yearOutOfRange m.year)
  else if m.month = 0 ∨ 12 < m.month then .error .monthOutOfRange
  else if m.day = 0 ∨ Moment.daysIn m.year m.month < m.day then .error .dayOutOfRange
  else .ok ()

def checkClock (c : Clock) : Except ScalarFault Unit :=
  if 23 < c.hour then .error .hourOutOfRange
  else if 59 < c.minute then .error .minuteOutOfRange
  else if 59 < c.second then .error .secondOutOfRange
  else .ok ()

def checkMoment (m : Moment) : Except ScalarFault Moment := do
  checkOffset m
  checkDate m
  match m.clock with
  | some clock => checkClock clock
  | none => pure ()
  return m

/-- The value of a plain scalar. The forms that only keys may have are no values. -/
def readScalar (t : Text) : Except Fault Data :=
  if t ∈ nullWords then .ok .null
  else if t ∈ trueWords then .ok (.flag true)
  else if t ∈ falseWords then .ok (.flag false)
  else if t = mergeKey ∨ t = valueKey then .error .malformedDocument
  else
    match readReal? t, readInteger? t, readMoment? t with
    | some outcome, _, _ => (outcome.mapError .unreadableScalar).map fun x => .number (.real x)
    | none, some outcome, _ =>
      (outcome.mapError .unreadableScalar).map fun n => .number (.integer n)
    | none, none, some m => ((checkMoment m).mapError .unreadableScalar).map .moment
    | none, none, none => .ok (.text t)

end Document

end ScopedShell
