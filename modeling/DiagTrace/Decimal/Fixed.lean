import DiagTrace.Decimal.Binary
import DiagTrace.Text.Hex

/-! Numbers with a fixed count of decimal places, rounded to the nearest and a tie to the even neighbour. -/
namespace DiagTrace.Decimal

/-- The nearest integer to a quotient, a tie going to the even one. -/
def roundHalfEven (numerator denominator : Nat) : Nat :=
  let floor := numerator / denominator
  let remainder := numerator % denominator
  if 2 * remainder > denominator || (2 * remainder == denominator && floor % 2 == 1) then floor + 1 else floor

def fixedQuotient (places numerator denominator : Nat) : String :=
  let units := roundHalfEven (numerator * Nat.pow 10 places) denominator
  toString (units / Nat.pow 10 places) ++ "."
    ++ String.ofList (Hex.padded 10 places (units % Nat.pow 10 places))

def fixedDouble (places : Nat) (bits : UInt64) : String :=
  match BinaryValue.ofBits .double bits.toNat with
  | .finite _ fraction scale =>
    fixedQuotient places (fraction * Nat.pow 2 scale.toNat) (Nat.pow 2 (-scale).toNat)
  | .infinite _ => "inf"
  | .notANumber => "NaN"

end DiagTrace.Decimal
