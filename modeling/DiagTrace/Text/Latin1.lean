import DiagTrace.Bytes.Order

/-!
Eight-bit text, one byte a character. Every byte string has a text; a character above U+00FF has no byte
and is written as a question mark.
-/
namespace DiagTrace.Latin1

def decode (bs : Bytes) : String := String.ofList (bs.map fun b => Char.ofNat b.toNat)

def encodeChar (c : Char) : UInt8 := if c.toNat ≤ 0xFF then UInt8.ofNat c.toNat else 0x3F

def encode (text : String) : Bytes := text.toList.map encodeChar

/-- Control characters of the lower and the upper half. -/
def isControl (c : Char) : Bool := c.toNat ≤ 0x1F || (0x7F ≤ c.toNat && c.toNat ≤ 0x9F)

/-- The text with a point in place of each control character. -/
def printable (text : String) : String :=
  String.ofList (text.toList.map fun c => if isControl c then '.' else c)

end DiagTrace.Latin1
