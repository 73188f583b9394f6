set_option autoImplicit false

namespace Inquiry

inductive Tie where
  | up
  | toEven
deriving DecidableEq, Repr

-- A positive decimal: the digits, the first of them not zero, and the place of the point counted
-- from the first digit. `⟨['1', '5'], 1⟩` is 1.5 and `⟨['1', '5'], -1⟩` is 0.015.
structure Decimal where
  digits : List Char
  point : Int
deriving DecidableEq, Repr

namespace Decimal

-- The interval of a positive double: the reals from `low` to `high` round to `mid`, all three in
-- units of `2 ^ unit`, and the ends count when `closed`.
structure Interval where
  low : Nat
  mid : Nat
  high : Nat
  unit : Int
  closed : Bool

def intervalOf (significand : Nat) (exponent : Int) (narrowBelow : Bool) : Interval where
  low := 4 * significand - (if narrowBelow then 1 else 2)
  mid := 4 * significand
  high := 4 * significand + 2
  unit := exponent - 2
  closed := significand % 2 = 0

def intervalOfBits (bits : UInt64) : Interval :=
  let biased := ((bits >>> 52) &&& 0x7FF).toNat
  let fraction := (bits &&& 0xFFFFFFFFFFFFF).toNat
  if biased = 0 then intervalOf fraction (-1074) false
  else intervalOf ((1 <<< 52) + fraction) (biased - 1075) (fraction = 0 && biased > 1)

def scales (i : Interval) (place : Int) : Nat × Nat :=
  (Nat.pow 2 i.unit.toNat * Nat.pow 10 (-place).toNat,
    Nat.pow 2 (-i.unit).toNat * Nat.pow 10 place.toNat)

-- The coefficient of the nearest multiple of `10 ^ place` inside the interval, if one of the two
-- neighbours of the value is inside.
def onGrid (i : Interval) (tie : Tie) (place : Int) : Option Nat :=
  let (unit, step) := scales i place
  let below := i.mid * unit / step
  let inside (n : Nat) : Bool :=
    if i.closed then i.low * unit ≤ n * step && n * step ≤ i.high * unit
    else i.low * unit < n * step && n * step < i.high * unit
  match inside below, inside (below + 1) with
  | true, false => some below
  | false, true => some (below + 1)
  | false, false => none
  | true, true =>
      match compare (2 * (i.mid * unit)) ((2 * below + 1) * step), tie with
      | .lt, _ => some below
      | .gt, _ => some (below + 1)
      | .eq, .up => some (below + 1)
      | .eq, .toEven => some (if below % 2 = 0 then below else below + 1)

def belowPower (i : Interval) (place : Int) : Bool :=
  let (unit, step) := scales i place
  i.mid * unit < step

-- The least power of ten above the value: within two of the estimate from the binary logarithm.
def leastPower (i : Interval) : Int :=
  let estimate := (i.mid.log2 + i.unit) * 30103 / 100000
  if belowPower i estimate then estimate
  else if belowPower i (estimate + 1) then estimate + 1
  else estimate + 2

def ofCoefficient (coefficient : Nat) (place : Int) : Decimal :=
  let written := Nat.toDigits 10 coefficient
  ⟨(written.reverse.dropWhile (· = '0')).reverse, written.length + place⟩

def exact (i : Interval) : Decimal :=
  ofCoefficient (i.mid * Nat.pow 2 i.unit.toNat * Nat.pow 5 (-i.unit).toNat) (-(-i.unit).toNat)

-- The coarsest grid with a point inside the interval gives the fewest digits, and `onGrid` the
-- nearest of its points. Seventeen digits identify every double.
def shortest (i : Interval) (tie : Tie) : Decimal :=
  let top := leastPower i
  let found := (List.range 17).findSome? fun (n : Nat) =>
    let place := top - (n + 1)
    (onGrid i tie place).map fun coefficient => ofCoefficient coefficient place
  found.getD (exact i)

end Decimal

end Inquiry
