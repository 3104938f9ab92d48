import DiagTrace.Argument.Basic
import DiagTrace.Decimal.Shortest
import DiagTrace.Text.Hex
import DiagTrace.Text.Latin1

/-!
Arguments as a reader of a trace sees them. Numbers in base two and sixteen show every byte of their
width, so that two values of one width never share a text.
-/
namespace DiagTrace

/-- The physical value of a fixed-point integer, rounded after the product and after the sum. -/
def Scaling.physical (scaling : Scaling) (raw : Int) : UInt64 :=
  let product := Float.ofBits (Decimal.doubleOfInt raw)
    * (Float32.ofBits scaling.quantization).toFloat
  (product + Float.ofBits (Decimal.doubleOfInt scaling.offset)).toBits

namespace Argument

def scaledText (value : Int) : Option Scaling → String
  | none => toString value
  | some scaling => Decimal.shortest .double (scaling.physical value).toNat

/-- Bytes from the lowest one up to the highest that is not zero. -/
def significantBytes (value : Nat) : Nat := if value == 0 then 0 else value.log2 / 8 + 1

def binaryText (value : UInt64) (width : Width) : String :=
  let shown := max (min width.bytes 8) (significantBytes value.toNat)
  let groups := (ByteOrder.big.encode shown value.toNat).flatMap fun b =>
    [Hex.nibble (b.toNat / 16), Hex.nibble (b.toNat % 16)]
  "0b" ++ " ".intercalate (groups.map String.ofList)

def hexText (value : UInt64) (width : Width) : String :=
  "0x" ++ Hex.number (min width.bytes 8 * 2) value.toNat

def bytesText (data : Bytes) : String := String.ofList (Hex.spaced data)

/-- A byte as the character it stands for, or a dash where it stands for none that can be seen. -/
def visible (b : UInt8) : Char := if 32 ≤ b && b ≤ 126 then Char.ofNat b.toNat else '-'

/-- Visible characters and digits of an undecoded payload with a bar between them. -/
def payloadText (data : Bytes) : String :=
  if data.isEmpty then "" else String.ofList (data.map visible) ++ "|" ++ bytesText data

def unknownText (info : Option UInt32) (data : Bytes) : String :=
  let heading := match info with
    | some info => "Type Info: 0x" ++ Hex.number 8 info.toNat ++ " "
    | none => ""
  heading ++ "Data: " ++ bytesText data

mutual
def text : Argument → String
  | bool value => if value then "True" else "False"
  | signed value _ scaling => scaledText value scaling
  | unsigned value _ scaling => scaledText value scaling
  | float32 bits => Decimal.shortest .single bits.toNat
  | float64 bits => Decimal.shortest .double bits.toNat
  | string value coding => match coding with
    | .eightBit => Latin1.printable value
    | .utf8 => value
  | raw data => bytesText data
  | array _ _ items _ => "[" ++ " ".intercalate (texts items) ++ "]"
  | record fields => "\x7b" ++ " ".intercalate (texts fields) ++ "\x7d"
  | traceInfo value => Latin1.printable value
  | hex value width => hexText value width
  | binary value width => binaryText value width
  | payload data => payloadText data
  | unknown info data => unknownText info data
  | failure message => message
  | named name unit value =>
    let labelled := name ++ ": " ++ text value
    match unit with
    | some unit => if unit.isEmpty then labelled else labelled ++ " " ++ unit
    | none => labelled

def texts : List Argument → List String
  | [] => []
  | argument :: rest => text argument :: texts rest
end

end Argument

end DiagTrace
