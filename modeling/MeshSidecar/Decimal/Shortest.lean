/-!
# The shortest decimal numeral of a binary fraction

A number of the form `m · 2 ^ q` that stands for all the reals which round to it has many
decimal numerals. `Decimal.shortest` is the one with the fewest digits among those in that
interval, of two such the one nearer to the number, and of two that are equally near the one
whose last digit is even. All arithmetic is exact.
-/

namespace MeshSidecar.Decimal

/-- The number `digits · 10 ^ exponent`. -/
structure Numeral where
  digits : Nat
  exponent : Int
deriving DecidableEq

/-- How many decimal digits a number has. -/
def digitCount (n : Nat) : Nat := (Nat.toDigits 10 n).length

/-- The exponent of the greatest power of ten that is at most `num / den`. -/
def order (num den : Nat) : Int :=
  if den ≤ num then (digitCount (num / den) : Int) - 1
  else -(digitCount ((den + num - 1) / num - 1) : Int)

/-- A fraction divided by a power of ten, as numerator and denominator. -/
def shifted (num den : Nat) (exponent : Int) : Nat × Nat :=
  if 0 ≤ exponent then (num, den * Nat.pow 10 exponent.toNat)
  else (num * Nat.pow 10 (-exponent).toNat, den)

/-- The interval of the reals that stand for the same number: its ends and the number
    itself over one denominator, and whether the ends belong to it. -/
structure Interval where
  low : Nat
  value : Nat
  high : Nat
  den : Nat
  closed : Bool

/-- Whether `digits · 10 ^ exponent` lies in the interval. -/
def Interval.holds (i : Interval) (digits : Nat) (exponent : Int) : Bool :=
  let (low, lowDen) := shifted i.low i.den exponent
  let (high, highDen) := shifted i.high i.den exponent
  if i.closed then low ≤ digits * lowDen && digits * highDen ≤ high
  else low < digits * lowDen && digits * highDen < high

/-- The two integers next to a fraction, the nearer one first; of two that are equally near
    the even one. -/
def neighbours (num den : Nat) : List Nat :=
  let below := num / den
  let rest := 2 * (num % den)
  if rest < den || rest = den && below % 2 = 0 then [below, below + 1] else [below + 1, below]

/-- The better of the two numerals with the given number of digits next to the value, if one
    of them lies in the interval. -/
def Interval.numeral? (i : Interval) (count : Nat) : Option Numeral :=
  let exponent := order i.value i.den - (count : Int) + 1
  let (num, den) := shifted i.value i.den exponent
  ((neighbours num den).find? fun digits => i.holds digits exponent).map fun digits =>
    ⟨digits, exponent⟩

/-- The reals that round to `m · 2 ^ q`. Below a power of two the numbers lie twice as
    close, which `lowerHalf` tells. -/
def Interval.around (m : Nat) (q : Int) (lowerHalf : Bool) : Interval :=
  let power := Nat.pow 2 (q - 2).natAbs
  let up := if 0 ≤ q - 2 then power else 1
  let down := if 0 ≤ q - 2 then 1 else power
  { low := (4 * m - if lowerHalf then 1 else 2) * up
    value := 4 * m * up
    high := (4 * m + 2) * up
    den := down
    closed := m % 2 == 0 }

/-- A numeral without trailing zeros. -/
def Numeral.trim (n : Numeral) : Numeral :=
  let zeros := ((Nat.toDigits 10 n.digits).reverse.takeWhile (· == '0')).length
  if n.digits = 0 then ⟨0, 0⟩ else ⟨n.digits / Nat.pow 10 zeros, n.exponent + zeros⟩

/-- The numeral with the fewest digits, at most seventeen, that stands for the interval's
    number. -/
def shortest (i : Interval) : Numeral :=
  (((List.range 17).findSome? fun n => i.numeral? (n + 1)).getD ⟨0, 0⟩).trim

end MeshSidecar.Decimal
