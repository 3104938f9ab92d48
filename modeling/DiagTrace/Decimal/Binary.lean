/-!
Binary floating-point numbers as their bits, read exactly: a finite number is its sign and
`fraction * 2 ^ scale`. The format says how wide the parts are, so 32 and 64 bits share one reading.
-/
namespace DiagTrace.Decimal

/-- Widths of a binary format: stored fraction bits and exponent bits. -/
structure BinaryFormat where
  fractionBits : Nat
  exponentBits : Nat
deriving DecidableEq

namespace BinaryFormat

def single : BinaryFormat := ⟨23, 8⟩

def double : BinaryFormat := ⟨52, 11⟩

/-- The exponent of the last place of the smallest numbers. -/
def leastScale (format : BinaryFormat) : Int :=
  2 - Nat.pow 2 (format.exponentBits - 1) - format.fractionBits

end BinaryFormat

inductive BinaryValue where
  | notANumber
  | infinite (negative : Bool)
  | finite (negative : Bool) (fraction : Nat) (scale : Int)
deriving DecidableEq

namespace BinaryValue

/-- Reads the bits of a number; a number below the smallest normal one has no hidden leading bit. -/
def ofBits (format : BinaryFormat) (bits : Nat) : BinaryValue :=
  let stored := bits % Nat.pow 2 format.fractionBits
  let exponent := bits / Nat.pow 2 format.fractionBits % Nat.pow 2 format.exponentBits
  let negative := bits / Nat.pow 2 (format.fractionBits + format.exponentBits) % 2 == 1
  if exponent == Nat.pow 2 format.exponentBits - 1 then
    if stored == 0 then .infinite negative else .notANumber
  else if exponent == 0 then .finite negative stored format.leastScale
  else
    .finite negative (Nat.pow 2 format.fractionBits + stored) (format.leastScale + (exponent - 1 : Nat))

/-- The equality of numbers: no number equals one that is not a number, and the zeros are equal. -/
def equals (format : BinaryFormat) (a b : Nat) : Bool :=
  match ofBits format a, ofBits format b with
  | .notANumber, _ | _, .notANumber => false
  | .infinite s, .infinite t => s == t
  | .finite s m e, .finite t n f => (m == 0 && n == 0) || (s == t && m == n && e == f)
  | _, _ => false

end BinaryValue

/-- The bits of the 64-bit number nearest to an integer, a tie going to the even neighbour. -/
def doubleOfInt (x : Int) : UInt64 :=
  let n := x.natAbs
  let sign : Nat := if x < 0 then Nat.pow 2 63 else 0
  if n == 0 then 0
  else
    let top := n.log2
    let hidden := Nat.pow 2 52
    if top ≤ 52 then UInt64.ofNat (sign + (top + 1023) * hidden + (n * Nat.pow 2 (52 - top) - hidden))
    else
      let unit := Nat.pow 2 (top - 52)
      let floor := n / unit
      let remainder := n % unit
      let up := 2 * remainder > unit || (2 * remainder == unit && floor % 2 == 1)
      UInt64.ofNat (sign + (top + 1023) * hidden + (floor + (if up then 1 else 0) - hidden))

end DiagTrace.Decimal
