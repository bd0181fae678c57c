/-!
# The shortest decimal that reads back

A finite binary fraction is the nearest one to every real in some interval
around it.  `ofFloat` finds a decimal with the fewest significant digits
inside that interval and, of those, the nearest to the fraction itself.  All
comparisons are made between natural numbers, by cross multiplication.
-/

namespace VoxelRelay

/-- The number `digits * 10 ^ exponent`. -/
structure Decimal where
  digits : Nat
  exponent : Int
deriving DecidableEq, Repr, Inhabited

namespace Decimal

/-- A non-negative rational as numerator and denominator. -/
structure Ratio where
  num : Nat
  den : Nat

/-- The rational `factor * base ^ exponent`. -/
def Ratio.scaled (factor base : Nat) (exponent : Int) : Ratio :=
  if 0 ≤ exponent then ⟨factor * base.pow exponent.toNat, 1⟩
  else ⟨factor, base.pow (-exponent).toNat⟩

/-- Comparison by cross multiplication. -/
def Ratio.lt (left right : Ratio) : Bool :=
  left.num * right.den < right.num * left.den

/-- The number of decimal digits of a natural number. -/
def digitCount (value : Nat) : Nat := (Nat.toDigits 10 value).length

/-- The power of ten at or just below a positive rational. -/
def Ratio.magnitude (value : Ratio) : Int :=
  let guess : Int :=
    (digitCount value.num : Int) - (digitCount value.den : Int)
  if value.lt (.scaled 1 10 guess) then guess - 1 else guess

/-- The reals that round to a binary fraction, with the fraction itself. -/
structure Rounding where
  low : Ratio
  value : Ratio
  high : Ratio
  /-- Whether the two ends round to the fraction as well. -/
  closed : Bool

/-- The rounding interval of the positive finite number with the given bits. -/
def Rounding.ofBits (bits : UInt64) : Rounding :=
  let exponentBits := ((bits >>> 52) &&& 0x7ff).toNat
  let fraction := (bits &&& 0xfffffffffffff).toNat
  let significand :=
    if exponentBits = 0 then fraction else fraction + (1 <<< 52)
  let exponent : Int :=
    (if exponentBits = 0 then 1 else exponentBits : Nat) - 1077
  let below := if fraction = 0 ∧ 1 < exponentBits then 1 else 2
  { low := .scaled (4 * significand - below) 2 exponent
    value := .scaled (4 * significand) 2 exponent
    high := .scaled (4 * significand + 2) 2 exponent
    closed := significand % 2 = 0 }

/-- Whether a rational rounds to the fraction. -/
def Rounding.holds (rounding : Rounding) (candidate : Ratio) : Bool :=
  if rounding.closed then
    !candidate.lt rounding.low && !rounding.high.lt candidate
  else
    rounding.low.lt candidate && candidate.lt rounding.high

/--
The decimals next to the fraction, below and above, among the multiples of a
power of ten.
-/
def Rounding.onGrid (rounding : Rounding) (exponent : Int) : Option Decimal :=
  let unit : Ratio := .scaled 1 10 exponent
  let below := rounding.value.num * unit.den / (rounding.value.den * unit.num)
  let fits := fun digits => rounding.holds (.scaled digits 10 exponent)
  let twice : Ratio := ⟨2 * rounding.value.num, rounding.value.den⟩
  let middle : Ratio := .scaled (2 * below + 1) 10 exponent
  let preferAbove := middle.lt twice || (!twice.lt middle && below % 2 = 1)
  if fits below && !(fits (below + 1) && preferAbove) then
    some ⟨below, exponent⟩
  else if fits (below + 1) then some ⟨below + 1, exponent⟩
  else none

/-- Tries ever finer grids until one has a hit. -/
def Rounding.search
    (rounding : Rounding)
    (exponent : Int) : Nat → Decimal
  | 0 => ⟨0, 0⟩
  | tries + 1 =>
      (rounding.onGrid exponent).getD (rounding.search (exponent - 1) tries)

/-- Moves trailing zero digits into the exponent. -/
def trim
    (digits : Nat)
    (exponent : Int) : Nat → Decimal
  | 0 => ⟨digits, exponent⟩
  | steps + 1 =>
      if digits ≠ 0 ∧ digits % 10 = 0 then
        trim (digits / 10) (exponent + 1) steps
      else ⟨digits, exponent⟩

/--
The shortest decimal that rounds to a positive finite number; seventeen digits
always suffice.
-/
def ofFloat (value : Float) : Decimal :=
  let rounding := Rounding.ofBits value.toBits
  let found := rounding.search rounding.value.magnitude 17
  trim found.digits found.exponent 20

end Decimal

end VoxelRelay
