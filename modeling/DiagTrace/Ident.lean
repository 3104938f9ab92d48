import DiagTrace.Bytes.Order

/-!
Identifiers of four 7-bit characters, as devices, applications and contexts carry them. On the wire an
identifier is four bytes, first character first, whatever the byte order of the payload; unused places
are zero.
-/
namespace DiagTrace.Ident

/-- The four wire bytes of a text: its first four characters cut to 7 bits, then zeros. -/
def bytes (text : String) : Bytes :=
  let front := (text.toList.take 4).map fun c => UInt8.ofNat (c.toNat % 128)
  front ++ List.replicate (4 - front.length) 0

def packed (text : String) : UInt32 := UInt32.ofNat (ByteOrder.big.decode (bytes text))

/-- The characters of four wire bytes, cut to 7 bits and ended by the first zero. -/
def charsOf (wire : Bytes) : List Char :=
  ((wire.map (· &&& 0x7F)).takeWhile (· != 0)).map fun b => Char.ofNat b.toNat

def text (id : UInt32) : String := String.ofList (charsOf (ByteOrder.big.encode 4 id.toNat))

/-- An identifier as it reads after a trip over the wire. -/
def normal (id : String) : String := text (packed id)

@[simp] theorem length_bytes (text : String) : (bytes text).length = 4 := by
  simp only [bytes, List.length_append, List.length_map, List.length_replicate, List.length_take]
  omega

end DiagTrace.Ident
