import DiagTrace.Decimal.Binary

/-!
The shortest decimal text of a binary number: the fewest digits that lie in the interval of numbers
rounding to it, and of those the nearest to it. Digits are written positionally, never with an exponent.
-/
namespace DiagTrace.Decimal

/-- A positive number and the interval around it whose members round to it, over one denominator. -/
structure Interval where
  value : Nat
  low : Nat
  high : Nat
  denominator : Nat
  closed : Bool

namespace Interval

/-- The interval of `fraction * 2 ^ scale`; below a power of two the neighbours are twice as dense. -/
def ofFinite (format : BinaryFormat) (fraction : Nat) (scale : Int) : Interval :=
  let up := Nat.pow 2 scale.toNat
  let down := Nat.pow 2 (-scale).toNat
  let below := if fraction == Nat.pow 2 format.fractionBits then 1 else 2
  { value := 4 * fraction * up, low := (4 * fraction - below) * up, high := (4 * fraction + 2) * up,
    denominator := 4 * down, closed := fraction % 2 == 0 }

/-- Whether `n` units of `unit / scale` lie in the interval. -/
def contains (interval : Interval) (n unit scale : Nat) : Bool :=
  let point := n * unit * interval.denominator
  let low := interval.low * scale
  let high := interval.high * scale
  if interval.closed then low ≤ point && point ≤ high else low < point && point < high

end Interval

/-- Digits of a number and the power of ten that its last digit counts. -/
structure Digits where
  number : Nat
  exponent : Int
deriving DecidableEq

/-- The least power of ten above a positive quotient, searched upward from an estimate below it. -/
def magnitudeFrom (numerator denominator : Nat) (start : Int) : Nat → Int
  | 0 => start
  | steps + 1 =>
    if numerator * Nat.pow 10 (-start).toNat < denominator * Nat.pow 10 start.toNat then start
    else magnitudeFrom numerator denominator (start + 1) steps

/-- The number of digits before the point, counted down below one: the least power of ten above the
quotient. Decimal lengths of both terms bound it from two sides. -/
def magnitude (numerator denominator : Nat) : Int :=
  let estimate := ((numerator.log2 : Int) - denominator.log2 - 1) * 1233 / 4096 - 1
  magnitudeFrom numerator denominator estimate 400

/-- The member of the interval with `count` digits that is nearest to its value, a tie going up. -/
def candidate (interval : Interval) (magnitude : Int) (count : Nat) : Option Digits :=
  let exponent := magnitude - count
  let unit := Nat.pow 10 exponent.toNat
  let scale := Nat.pow 10 (-exponent).toNat
  let numerator := interval.value * scale
  let denominator := interval.denominator * unit
  let floor := numerator / denominator
  let remainder := numerator % denominator
  let downFits := interval.contains floor unit scale
  let upFits := interval.contains (floor + 1) unit scale
  if upFits && (!downFits || denominator ≤ 2 * remainder) then some ⟨floor + 1, exponent⟩
  else if downFits then some ⟨floor, exponent⟩
  else none

/-- Seventeen digits always suffice for the formats in use. -/
def shortestDigits (format : BinaryFormat) (fraction : Nat) (scale : Int) : Digits :=
  let interval := Interval.ofFinite format fraction scale
  let top := magnitude interval.value interval.denominator
  ((List.range 17).findSome? fun k => candidate interval top (k + 1)).getD
    ⟨interval.value / interval.denominator, 0⟩

/-- The digits without trailing zeros after the point, and a leading zero where nothing precedes it. -/
def Digits.positional (digits : Digits) : String :=
  let plain := Nat.toDigits 10 digits.number
  if 0 ≤ digits.exponent then
    String.ofList (plain ++ List.replicate digits.exponent.toNat '0')
  else
    let places := (-digits.exponent).toNat
    let filled := List.replicate (places + 1 - plain.length) '0' ++ plain
    let whole := filled.take (filled.length - places)
    let decimals := ((filled.drop (filled.length - places)).reverse.dropWhile (· == '0')).reverse
    String.ofList (if decimals.isEmpty then whole else whole ++ '.' :: decimals)

/-- The text of a number from its bits: shortest digits, `inf` and `NaN` in words, a sign before zero. -/
def shortest (format : BinaryFormat) (bits : Nat) : String :=
  match BinaryValue.ofBits format bits with
  | .notANumber => "NaN"
  | .infinite negative => if negative then "-inf" else "inf"
  | .finite negative fraction scale =>
    let magnitude := if fraction == 0 then "0" else (shortestDigits format fraction scale).positional
    if negative then "-" ++ magnitude else magnitude

end DiagTrace.Decimal
