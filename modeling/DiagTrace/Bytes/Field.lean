import DiagTrace.Bytes.Cursor

/-!
Single payload fields: numbers, identifiers and byte strings, each with a type that says how to read it
back. Numbers follow the byte order of the payload; identifiers and byte strings do not.
-/
namespace DiagTrace

inductive FieldType where
  | unsigned (width : Width)
  | signed (width : Width)
  | float32
  | float64
  | ident
  | bytes (length : Nat)
deriving DecidableEq

inductive Field where
  | unsigned (width : Width) (value : Nat)
  | signed (width : Width) (value : Int)
  | float32 (bits : UInt32)
  | float64 (bits : UInt64)
  | ident (text : String)
  | bytes (data : Bytes)
deriving DecidableEq

namespace Field

def type : Field → FieldType
  | unsigned width _ => .unsigned width
  | signed width _ => .signed width
  | float32 _ => .float32
  | float64 _ => .float64
  | ident _ => .ident
  | bytes data => .bytes data.length

def encode (order : ByteOrder) : Field → Bytes
  | unsigned width value => order.encode width.bytes value
  | signed width value => order.encode width.bytes (TwosComplement.encode width.bytes value)
  | float32 bits => order.encode 4 bits.toNat
  | float64 bits => order.encode 8 bits.toNat
  | ident text => Ident.bytes text
  | bytes data => data

end Field

namespace FieldType

def read (order : ByteOrder) : FieldType → Read Field
  | unsigned width => do return .unsigned width (← Read.unsigned order width)
  | signed width => do return .signed width (← Read.signed order width)
  | float32 => do return .float32 (← Read.float32 order)
  | float64 => do return .float64 (← Read.float64 order)
  | ident => do return .ident (← Read.ident)
  | bytes length => do return .bytes (← Read.take length)

end FieldType

structure Writer where
  order : ByteOrder
  written : Bytes
deriving DecidableEq

namespace Writer

def start (order : ByteOrder) : Writer := ⟨order, []⟩

def put (writer : Writer) (field : Field) : Writer :=
  { writer with written := writer.written ++ field.encode writer.order }

def patch16 (writer : Writer) (offset value : Nat) : Writer :=
  { writer with
    written := writer.written.take offset
      ++ Bytes.overwrite (writer.written.drop offset) (writer.order.encode 2 value) }

end Writer

end DiagTrace
