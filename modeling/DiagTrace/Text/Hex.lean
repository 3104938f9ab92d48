import DiagTrace.Bytes.Order

/-! Bytes and numbers in base sixteen and base two, lowercase. -/
namespace DiagTrace.Hex

def digit (n : Nat) : Char := (Nat.digitChar n)

def pair (b : UInt8) : List Char := [digit (b.toNat / 16), digit (b.toNat % 16)]

def spaced : Bytes → List Char
  | [] => []
  | [b] => pair b
  | b :: bs => pair b ++ ' ' :: spaced bs

def nibble (n : Nat) : List Char :=
  [digit (n / 8 % 2), digit (n / 4 % 2), digit (n / 2 % 2), digit (n % 2)]

/-- The digits of a number, filled up with zeros on the left to a least width. -/
def padded (base width n : Nat) : List Char :=
  let digits := Nat.toDigits base n
  List.replicate (width - digits.length) '0' ++ digits

/-- The digits of a number in base sixteen, at least `width` of them. -/
def number (width n : Nat) : String := String.ofList (padded 16 width n)

end DiagTrace.Hex
