import DiagTrace.Bytes.Order
import DiagTrace.Width

/-!
Arguments of a trace line. Verbose and non-verbose messages share one type, although arrays and records
come only from verbose payloads and undecoded payloads only from non-verbose ones.
-/
namespace DiagTrace

inductive TextCoding where
  /-- One byte a character. -/
  | eightBit
  | utf8
deriving DecidableEq

/-- Scaling of a fixed-point integer: its physical value is `raw * quantization + offset`. -/
structure Scaling where
  quantization : UInt32
  offset : Int
deriving DecidableEq

inductive ScalarKind where
  | bool
  | signed (width : Width)
  | unsigned (width : Width)
  | float32
  | float64
deriving DecidableEq

inductive Argument where
  | bool (value : Bool)
  | signed (value : Int) (width : Width) (scaling : Option Scaling)
  | unsigned (value : Nat) (width : Width) (scaling : Option Scaling)
  /-- The bits of a 32-bit floating-point number. -/
  | float32 (bits : UInt32)
  | float64 (bits : UInt64)
  | string (value : String) (coding : TextCoding)
  | raw (data : Bytes)
  /-- Items in the order of the payload, the last dimension varying fastest. -/
  | array (element : ScalarKind) (dimensions : List UInt16) (items : List Argument)
      (scaling : Option Scaling)
  | record (fields : List Argument)
  | traceInfo (value : String)
  | hex (value : UInt64) (width : Width)
  | binary (value : UInt64) (width : Width)
  /-- The part of a non-verbose payload after its message number, not decoded. -/
  | payload (data : Bytes)
  /-- A value of a type that could not be interpreted. -/
  | unknown (info : Option UInt32) (data : Bytes)
  /-- Stands where an argument could not be read. -/
  | failure (message : String)
  | named (name : String) (unit : Option String) (value : Argument)
deriving Inhabited

namespace ScalarKind

def bytes : ScalarKind → Nat
  | bool => 1
  | signed width | unsigned width => width.bytes
  | float32 => 4
  | float64 => 8

def integerWidth? : ScalarKind → Option Width
  | signed width | unsigned width => some width
  | _ => none

end ScalarKind

namespace Argument

/-- Bytes that a value of a fixed-size type takes; a name does not count. -/
def fixedWidth? : Argument → Option Nat
  | bool _ => some 1
  | signed _ width _ | unsigned _ width _ | hex _ width | binary _ width => some width.bytes
  | float32 _ => some 4
  | float64 _ => some 8
  | named _ _ value => value.fixedWidth?
  | _ => none

def isFailure : Argument → Bool
  | failure _ => true
  | _ => false

def withName (name : Option (String × Option String)) (value : Argument) : Argument :=
  match name with
  | some (name, unit) => named name unit value
  | none => value

end Argument

/-- The greatest count that a product of dimensions can report. -/
def itemLimit : Nat := Bytes.capacity 8 - 1

/-- The product of dimensions, or the limit where it is larger. -/
def itemCount (dimensions : List UInt16) : Nat :=
  dimensions.foldl (fun n dimension => min (n * dimension.toNat) itemLimit) 1

end DiagTrace
