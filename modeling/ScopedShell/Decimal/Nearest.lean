import ScopedShell.Decimal.Ratio

/-!
# Nearest doubles

The double-precision number that is nearest to a decimal. Its significand is the decimal divided by
a power of two, rounded exactly; the power is the one that leaves fifty-three bits, or the least one
where the decimal is too small for that. Numbers are given by their bits, which increase with the
number, so a significand that rounds up to one bit more carries over into the exponent by itself.
-/

namespace ScopedShell.Decimal

def infinityBits : Nat := 0x7ff * Nat.pow 2 52

/-- The exponent of the greatest power of two that is not above a positive ratio. -/
def Ratio.binaryMagnitude (r : Ratio) : Int :=
  let estimate := Int.ofNat r.numerator.log2 - Int.ofNat r.denominator.log2
  if (r.scale 2 (-estimate)).floor = 0 then estimate - 1 else estimate

def Ratio.nearestBits (r : Ratio) : Nat :=
  let exponent := max (r.binaryMagnitude - 52) (-1074)
  let bits := (exponent + 1074).toNat * Nat.pow 2 52 + (r.scale 2 (-exponent)).round
  min bits infinityBits

/-- No double is as great as a decimal with this exponent, and none but zero as small as one whose
point stands this far before its first digit. -/
def exponentLimit : Int := 400

/-- The bits of the double next to `digits · 10 ^ exponent`. -/
def nearestBits (digits : Nat) (exponent : Int) : Nat :=
  if digits = 0 then 0
  else if exponentLimit < exponent then infinityBits
  else if exponent + Int.ofNat (Nat.toDigits 10 digits).length < -exponentLimit then 0
  else (Ratio.scale ⟨digits, 1⟩ 10 exponent).nearestBits

end ScopedShell.Decimal
