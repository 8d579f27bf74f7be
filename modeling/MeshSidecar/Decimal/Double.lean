import MeshSidecar.Decimal.Shortest

/-!
# Texts of double-precision numbers

A finite binary64 number is written with the fewest digits that read back. The number is
positional while its leading digit stands between the fifth place after the point and the
sixteenth before it, and always shows a point; outside that it is written with an exponent
that has a sign.
-/

namespace MeshSidecar.Decimal

/-- How a number is written. -/
structure DoubleFormat where
  /-- The least exponent of the leading digit that is written positionally. -/
  leastPositional : Int
  /-- The greatest exponent of the leading digit that is written positionally. -/
  greatestPositional : Int

/-- The format of the numbers in messages. -/
def DoubleFormat.messages : DoubleFormat := ⟨-5, 15⟩

/-- A positive numeral in a format. -/
def DoubleFormat.write (format : DoubleFormat) (n : Numeral) : List Char :=
  let digits := Nat.toDigits 10 n.digits
  let lead := n.exponent + digits.length - 1
  if lead < format.leastPositional || format.greatestPositional < lead then
    let fraction := if digits.length = 1 then [] else '.' :: digits.drop 1
    digits.take 1 ++ fraction ++ 'e' :: (if lead < 0 then '-' else '+') ::
      Nat.toDigits 10 lead.natAbs
  else if lead < 0 then
    '0' :: '.' :: (List.replicate (lead.natAbs - 1) '0' ++ digits)
  else
    let whole := lead.toNat + 1
    if digits.length ≤ whole then
      digits ++ List.replicate (whole - digits.length) '0' ++ ['.', '0']
    else digits.take whole ++ '.' :: digits.drop whole

/-- A finite binary64 number, given by its bits. -/
structure Double where
  bits : UInt64
deriving DecidableEq

namespace Double

/-- The number of a floating point value. -/
def ofFloat (x : Float) : Double := ⟨x.toBits⟩

/-- Whether the sign bit is set. -/
def negative (x : Double) : Bool := x.bits.toNat / Nat.pow 2 63 == 1

/-- The reals that round to the magnitude of the number. -/
def interval (x : Double) : Interval :=
  let fraction : Nat := x.bits.toNat % Nat.pow 2 52
  let exponent : Nat := x.bits.toNat / Nat.pow 2 52 % Nat.pow 2 11
  if exponent = 0 then .around fraction (-1074) false
  else .around (Nat.pow 2 52 + fraction) ((exponent : Int) - 1075)
    (fraction == 0 && exponent != 1)

/-- The text of the number. -/
def text (x : Double) : String :=
  let sign := if x.negative then ['-'] else []
  let magnitude :=
    if x.bits.toNat % Nat.pow 2 63 = 0 then ['0', '.', '0']
    else DoubleFormat.messages.write (shortest x.interval)
  String.ofList (sign ++ magnitude)

end Double

end MeshSidecar.Decimal
