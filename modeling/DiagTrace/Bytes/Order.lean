/-!
Fixed-width integers as bytes, least or most significant byte first. Signed values are kept in two's
complement. `decode_encode` and `encode_decode` say that the two directions are inverse on values that
fit and on byte strings of the right length.
-/
namespace DiagTrace

abbrev Bytes := List UInt8

namespace Bytes

/-- Whether at least `n` bytes are present; stops after `n` of them. -/
def hasAtLeast : Bytes → Nat → Bool
  | _, 0 => true
  | [], _ + 1 => false
  | _ :: bs, n + 1 => hasAtLeast bs n

theorem hasAtLeast_iff (bs : Bytes) (n : Nat) : hasAtLeast bs n = true ↔ n ≤ bs.length := by
  induction bs generalizing n with
  | nil => cases n <;> simp [hasAtLeast]
  | cons b bs ih => cases n <;> simp [hasAtLeast, ih]

/-- How many values `n` bytes can tell apart. -/
def capacity : Nat → Nat
  | 0 => 1
  | n + 1 => 256 * capacity n

theorem capacity_pos (n : Nat) : 0 < capacity n := by
  induction n with
  | zero => exact Nat.one_pos
  | succ n ih => exact Nat.mul_pos (by decide) ih

def overwrite (buffer front : Bytes) : Bytes := front ++ buffer.drop front.length

end Bytes

inductive ByteOrder where
  | little
  | big
deriving DecidableEq, Inhabited

namespace ByteOrder

/-- The low `n` bytes of a value, least significant first. -/
def littleBytes : Nat → Nat → Bytes
  | 0, _ => []
  | n + 1, v => UInt8.ofNat v :: littleBytes n (v / 256)

def littleValue : Bytes → Nat
  | [] => 0
  | b :: bs => b.toNat + 256 * littleValue bs

/-- The low `n` bytes of a value in the given order. -/
def encode (order : ByteOrder) (n value : Nat) : Bytes :=
  match order with
  | .little => littleBytes n value
  | .big => (littleBytes n value).reverse

def decode (order : ByteOrder) (bs : Bytes) : Nat :=
  match order with
  | .little => littleValue bs
  | .big => littleValue bs.reverse

def ofFlag (big : Bool) : ByteOrder := if big then .big else .little

@[simp] theorem length_littleBytes (n v : Nat) : (littleBytes n v).length = n := by
  induction n generalizing v with
  | zero => rfl
  | succ n ih => simp [littleBytes, ih]

@[simp] theorem length_encode (order : ByteOrder) (n v : Nat) : (order.encode n v).length = n := by
  cases order <;> simp [encode]

theorem littleValue_lt (bs : Bytes) : littleValue bs < Bytes.capacity bs.length := by
  induction bs with
  | nil => exact Nat.one_pos
  | cons b bs ih =>
    have := b.toNat_lt
    simp only [littleValue, List.length_cons, Bytes.capacity]
    omega

theorem littleValue_littleBytes (n v : Nat) : littleValue (littleBytes n v) = v % Bytes.capacity n := by
  induction n generalizing v with
  | zero => exact (Nat.mod_one v).symm
  | succ n ih =>
    have low : (UInt8.ofNat v).toNat = v % 256 := by simp
    rw [littleBytes, littleValue, ih, low, Bytes.capacity, Nat.mod_mul]

theorem littleBytes_littleValue (bs : Bytes) : littleBytes bs.length (littleValue bs) = bs := by
  induction bs with
  | nil => rfl
  | cons b bs ih =>
    have := b.toNat_lt
    have quotient : (b.toNat + 256 * littleValue bs) / 256 = littleValue bs := by omega
    have low : UInt8.ofNat (b.toNat + 256 * littleValue bs) = b := by
      apply UInt8.toNat_inj.mp
      simp only [UInt8.toNat_ofNat']
      omega
    simp only [List.length_cons, littleBytes, littleValue, quotient, ih, low]

theorem decode_lt (order : ByteOrder) (bs : Bytes) : order.decode bs < Bytes.capacity bs.length := by
  cases order with
  | little => exact littleValue_lt bs
  | big =>
    have reversed := littleValue_lt bs.reverse
    rw [List.length_reverse] at reversed
    exact reversed

theorem decode_encode (order : ByteOrder) (n v : Nat) :
    order.decode (order.encode n v) = v % Bytes.capacity n := by
  cases order <;> simp [encode, decode, littleValue_littleBytes]

theorem encode_decode (order : ByteOrder) (bs : Bytes) :
    order.encode bs.length (order.decode bs) = bs := by
  cases order with
  | little => exact littleBytes_littleValue bs
  | big =>
    have := littleBytes_littleValue bs.reverse
    rw [List.length_reverse] at this
    simp [encode, decode, this]

end ByteOrder

namespace TwosComplement

/-- The unsigned value of `n` bytes that stands for `x`, cut to that width. -/
def encode (n : Nat) (x : Int) : Nat := (x % Bytes.capacity n).toNat

/-- The signed value that an unsigned one of `n` bytes stands for. -/
def decode (n value : Nat) : Int := Int.bmod value (Bytes.capacity n)

theorem encode_lt (n : Nat) (x : Int) : encode n x < Bytes.capacity n := by
  have positive : (0 : Int) < Bytes.capacity n := Int.natCast_pos.mpr (Bytes.capacity_pos n)
  have upper := Int.emod_lt_of_pos x positive
  have lower := Int.emod_nonneg x (Int.ne_of_gt positive)
  simp only [encode]
  omega

theorem encode_decode (n value : Nat) (fits : value < Bytes.capacity n) :
    encode n (decode n value) = value := by
  simp only [encode, decode, Int.bmod_emod]
  rw [← Int.natCast_emod, Int.toNat_natCast, Nat.mod_eq_of_lt fits]

end TwosComplement

end DiagTrace
