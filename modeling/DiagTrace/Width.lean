/-! Widths of integers: a power of two of bytes from one to sixteen. -/
namespace DiagTrace

inductive Width where
  | w8 | w16 | w32 | w64 | w128
deriving DecidableEq

namespace Width

def bytes : Width → Nat
  | w8 => 1
  | w16 => 2
  | w32 => 4
  | w64 => 8
  | w128 => 16

def bits (width : Width) : Nat := 8 * width.bytes

def ofBytes? : Nat → Option Width
  | 1 => some w8
  | 2 => some w16
  | 4 => some w32
  | 8 => some w64
  | 16 => some w128
  | _ => none

theorem ofBytes?_bytes (width : Width) : ofBytes? width.bytes = some width := by
  cases width <;> rfl

end Width

end DiagTrace
