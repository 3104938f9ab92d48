import DiagTrace.Argument.Basic

/-!
The word in front of each verbose argument. It selects one kind of value by a single bit, a length for
numbers, and modifiers: a name before the value, a scaling before an integer, and a coding for text and
for the display of integers.
-/
namespace DiagTrace.TypeInfo

def lengthMask : UInt32 := 0xF
def bool : UInt32 := 0x10
def signed : UInt32 := 0x20
def unsigned : UInt32 := 0x40
def float : UInt32 := 0x80
def array : UInt32 := 0x100
def string : UInt32 := 0x200
def raw : UInt32 := 0x400
def named : UInt32 := 0x800
def scaled : UInt32 := 0x1000
def traceInfo : UInt32 := 0x2000
def record : UInt32 := 0x4000

def kindMask : UInt32 := 0x67F0

def scalarMask : UInt32 := 0xF0

def codingMask : UInt32 := 0x38000

def kind (info : UInt32) : UInt32 := info &&& kindMask

def scalar (info : UInt32) : UInt32 := info &&& scalarMask

def length (info : UInt32) : Nat := (info &&& lengthMask).toNat

def coding (info : UInt32) : Nat := ((info &&& codingMask) >>> 15).toNat

def isNamed (info : UInt32) : Bool := info &&& named != 0

def isScaled (info : UInt32) : Bool := info &&& scaled != 0

def isArray (info : UInt32) : Bool := info &&& array != 0

def utf8Coding : Nat := 1

def hexCoding : Nat := 2

def binaryCoding : Nat := 3

def codingBits (coding : Nat) : UInt32 := UInt32.ofNat coding <<< 15

def widthOfCode? : Nat → Option Width
  | 1 => some .w8
  | 2 => some .w16
  | 3 => some .w32
  | 4 => some .w64
  | 5 => some .w128
  | _ => none

def codeOfWidth : Width → UInt32
  | .w8 => 1
  | .w16 => 2
  | .w32 => 3
  | .w64 => 4
  | .w128 => 5

def flag (bit : UInt32) (present : Bool) : UInt32 := if present then bit else 0

def ofScalar : ScalarKind → UInt32
  | .bool => bool ||| codeOfWidth .w8
  | .signed width => signed ||| codeOfWidth width
  | .unsigned width => unsigned ||| codeOfWidth width
  | .float32 => float ||| codeOfWidth .w32
  | .float64 => float ||| codeOfWidth .w64

end DiagTrace.TypeInfo
