import ScopedShell.Decimal.Ratio

/-!
# Shortest decimals

The shortest decimal that reads back as a given binary fraction. A positive value `m · 2 ^ q` is
read back from every decimal of an interval around it, which reaches half way to its neighbours and
holds its ends exactly when `m` is even. The grids of one, two, … significant digits are tried in
turn; on each of them only the two points next to the value can lie in the interval, and the nearer
one is taken. All arithmetic is exact and on natural numbers.
-/

namespace ScopedShell.Decimal

/-- A positive value `significand · 2 ^ exponent`, and whether its lower neighbour is only half as
far away as the upper one. -/
structure Binary where
  significand : Nat
  exponent : Int
  narrowBelow : Bool
deriving Repr, DecidableEq

/-- The decimal `digits · 10 ^ exponent`. -/
structure Scientific where
  digits : Nat
  exponent : Int
deriving Repr, DecidableEq

/-- The decimals that read back as a value lie between `lower` and `upper`. -/
structure Interval where
  lower : Ratio
  value : Ratio
  upper : Ratio
  closed : Bool

def Binary.interval (b : Binary) : Interval where
  lower := Ratio.scale ⟨4 * b.significand - (if b.narrowBelow then 1 else 2), 4⟩ 2 b.exponent
  value := Ratio.scale ⟨4 * b.significand, 4⟩ 2 b.exponent
  upper := Ratio.scale ⟨4 * b.significand + 2, 4⟩ 2 b.exponent
  closed := b.significand % 2 == 0

def Interval.contains (i : Interval) (r : Ratio) : Bool :=
  if i.closed then i.lower.atMost r && r.atMost i.upper else i.lower.less r && r.less i.upper

/-- The number of digits in front of the decimal point: `10 ^ (magnitude - 1) ≤ r`, and `r` is below
`10 ^ magnitude`. The exponents of double precision stay within the range searched. -/
def Ratio.magnitude (r : Ratio) : Int :=
  if 1 ≤ r.floor then (Nat.toDigits 10 r.floor).length
  else
    match (List.range 400).find? fun n => 1 ≤ (r.scale 10 (Int.ofNat n + 1)).floor with
    | some n => -Int.ofNat n
    | none => -400

/-- The point of the grid `10 ^ exponent` next to the value that reads back, if there is one; of two
such points the nearer, and at equal distance the even one. -/
def Interval.onGrid? (i : Interval) (exponent : Int) : Option Nat :=
  let below := (i.value.scale 10 (-exponent)).floor
  let point (n : Nat) : Ratio := Ratio.scale ⟨n, 1⟩ 10 exponent
  match i.contains (point below), i.contains (point (below + 1)) with
  | false, false => none
  | true, false => some below
  | false, true => some (below + 1)
  | true, true =>
    let middle := Ratio.scale ⟨2 * below + 1, 2⟩ 10 exponent
    if i.value.less middle then some below
    else if middle.less i.value then some (below + 1)
    else if below % 2 == 0 then some below
    else some (below + 1)

/-- The shortest decimal that reads back as the value; seventeen digits are enough for double
precision. -/
def shortest (b : Binary) : Scientific :=
  let i := b.interval
  let magnitude := i.value.magnitude
  let found := (List.range 17).findSome? fun n =>
    let exponent := magnitude - (Int.ofNat n + 1)
    (i.onGrid? exponent).map fun digits => (⟨digits, exponent⟩ : Scientific)
  found.getD ⟨i.value.floor, 0⟩

end ScopedShell.Decimal
