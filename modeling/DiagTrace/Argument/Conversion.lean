import DiagTrace.Argument.Basic

/-! Arguments from plain values. -/
namespace DiagTrace.Argument

def ofInt (value : Int) (width : Width) : Argument := .signed value width none

def ofNat (value : Nat) (width : Width) : Argument := .unsigned value width none

def ofString (value : String) : Argument := .string value .eightBit

end DiagTrace.Argument
