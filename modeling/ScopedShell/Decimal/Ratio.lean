/-!
# Ratios

Ratios of natural numbers, scaled by powers of a base and rounded to natural numbers. Rounding goes
to the nearest number, and to the even one of two that are equally near.
-/

namespace ScopedShell.Decimal

structure Ratio where
  numerator : Nat
  denominator : Nat

namespace Ratio

def scale (r : Ratio) (base : Nat) : Int → Ratio
  | .ofNat n => ⟨r.numerator * base.pow n, r.denominator⟩
  | .negSucc n => ⟨r.numerator, r.denominator * base.pow (n + 1)⟩

def floor (r : Ratio) : Nat := r.numerator / r.denominator

def less (r s : Ratio) : Bool := r.numerator * s.denominator < s.numerator * r.denominator

def atMost (r s : Ratio) : Bool := !s.less r

/-- The nearest natural number; of two that are equally near, the even one. -/
def round (r : Ratio) : Nat :=
  let below := r.numerator / r.denominator
  let excess := 2 * (r.numerator % r.denominator)
  if excess < r.denominator then below
  else if r.denominator < excess then below + 1
  else if below % 2 = 0 then below
  else below + 1

end Ratio

end ScopedShell.Decimal
