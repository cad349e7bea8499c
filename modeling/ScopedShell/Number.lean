import ScopedShell.Decimal.Nearest
import ScopedShell.Decimal.Shortest
import ScopedShell.Text

/-!
# Numbers

Integers of any size and double-precision numbers, and the text in which they are written. A double
has the fewest digits that read back. It is written positionally while its decimal point falls from
three places before the first digit to sixteen places after it, always with at least one digit
behind the point, and otherwise with an exponent of at least two digits and a sign.
-/

namespace ScopedShell

inductive Number
  | integer (value : Int)
  | real (value : Float)

namespace Number

/-- The number of decimal digits that an integer may have where it is read or written as a text. -/
def digitLimit : Nat := 4300

def nearestReal (digits : Nat) (exponent : Int) : Float :=
  Float.ofBits (Decimal.nearestBits digits exponent).toUInt64

/-- The finite positive double with the given bits, sign aside. -/
def binaryOfBits (bits : Nat) : Decimal.Binary :=
  let field : Nat := bits / Nat.pow 2 52 % Nat.pow 2 11
  let fraction : Nat := bits % Nat.pow 2 52
  if field = 0 then ⟨fraction, -1074, false⟩
  else ⟨Nat.pow 2 52 + fraction, Int.ofNat field - 1075, fraction == 0 && 1 < field⟩

/-- Zeros at the end of the digits move into the exponent. -/
def dropZeros (digits : Text) : Text :=
  Text.stripEnd (· == '0') digits

/-- The digits with the decimal point after `point` of them. -/
def positional (digits : Text) (point : Int) : Text :=
  if point ≤ 0 then '0' :: '.' :: List.replicate point.natAbs '0' ++ digits
  else
    let whole := digits.take point.toNat
    let rest := digits.drop point.toNat
    whole ++ List.replicate (point.toNat - whole.length) '0' ++
      '.' :: (if rest.isEmpty then ['0'] else rest)

/-- The digits with the decimal point after the first of them, and an exponent. -/
def exponential (digits : Text) (exponent : Int) : Text :=
  let size := Text.ofNat exponent.natAbs
  digits.take 1 ++ (if digits.length ≤ 1 then [] else '.' :: digits.drop 1) ++
    'e' :: (if exponent < 0 then '-' else '+') ::
      (List.replicate (2 - size.length) '0' ++ size)

def decimalText (d : Decimal.Scientific) : Text :=
  let all := Text.ofNat d.digits
  let point : Int := d.exponent + all.length
  let digits := dropZeros all
  if -4 < point ∧ point ≤ 16 then positional digits point else exponential digits (point - 1)

def realText (bits : Nat) : Text :=
  let sign : Text := if bits / Nat.pow 2 63 % 2 = 1 then ['-'] else []
  let magnitude := bits % Nat.pow 2 63
  if magnitude = 0 then sign ++ ("0.0" : Text)
  else if magnitude = Decimal.infinityBits then sign ++ ("inf" : Text)
  else if Decimal.infinityBits < magnitude then "nan"
  else sign ++ decimalText (Decimal.shortest (binaryOfBits magnitude))

def text : Number → Text
  | integer n => Text.ofInt n
  | real x => realText x.toBits.toNat

end Number

end ScopedShell
