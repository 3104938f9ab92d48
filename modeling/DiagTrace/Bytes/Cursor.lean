import DiagTrace.Fault
import DiagTrace.Ident
import DiagTrace.Width

/-!
Reading fields from the front of a payload. A cursor holds the bytes still unread and how many were read
before them; a failed read returns no cursor, so a caller who goes on reads from the old one.
-/
namespace DiagTrace

structure Cursor where
  rest : Bytes
  position : Nat
deriving DecidableEq

/-- A step that consumes bytes from the front of a cursor or fails. -/
abbrev Read := StateT Cursor (Except Fault)

namespace Cursor

def ofBytes (bs : Bytes) : Cursor := ⟨bs, 0⟩

def remaining (cursor : Cursor) : Nat := cursor.rest.length

def advance (cursor : Cursor) (n : Nat) : Cursor := ⟨cursor.rest.drop n, cursor.position + n⟩

end Cursor

namespace Read

def take (n : Nat) : Read Bytes := fun cursor =>
  if cursor.rest.hasAtLeast n then .ok (cursor.rest.take n, cursor.advance n)
  else .error (.truncated n cursor.remaining)

def skip (n : Nat) : Read Unit := do
  let _ ← take n

def nat (order : ByteOrder) (n : Nat) : Read Nat := do
  return order.decode (← take n)

def byte : Read UInt8 := do
  return UInt8.ofNat (← nat .little 1)

def u16 (order : ByteOrder) : Read Nat := nat order 2

def u32 (order : ByteOrder) : Read UInt32 := do
  return UInt32.ofNat (← nat order 4)

def unsigned (order : ByteOrder) (width : Width) : Read Nat := nat order width.bytes

def signed (order : ByteOrder) (width : Width) : Read Int := do
  return TwosComplement.decode width.bytes (← nat order width.bytes)

/-- The bits of a 32-bit floating-point number. -/
def float32 (order : ByteOrder) : Read UInt32 := u32 order

def float64 (order : ByteOrder) : Read UInt64 := do
  return UInt64.ofNat (← nat order 8)

/-- A packed identifier, first character first in either byte order. -/
def ident : Read String := do
  return String.ofList (Ident.charsOf (← take 4))

/-- Runs a step `n` times and puts the results behind those already read, newest first. -/
def timesOnto {α : Type} (step : Read α) : Nat → List α → Read (List α)
  | 0, done => fun cursor => .ok (done.reverse, cursor)
  | n + 1, done => fun cursor =>
    match step cursor with
    | .ok (value, rest) => timesOnto step n (value :: done) rest
    | .error fault => .error fault

def times {α : Type} (step : Read α) (n : Nat) : Read (List α) := timesOnto step n []

def eachOnto {α β : Type} (step : α → Read β) : List α → List β → Read (List β)
  | [], done => fun cursor => .ok (done.reverse, cursor)
  | item :: items, done => fun cursor =>
    match step item cursor with
    | .ok (value, rest) => eachOnto step items (value :: done) rest
    | .error fault => .error fault

def each {α β : Type} (step : α → Read β) (items : List α) : Read (List β) := eachOnto step items []

end Read

end DiagTrace
