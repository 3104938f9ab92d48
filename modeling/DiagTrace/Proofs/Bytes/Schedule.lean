import DiagTrace.Bytes.Field
import DiagTrace.Proofs.Bytes.Delimiting
import DiagTrace.Proofs.Text.RoundTrip

/-!
Fields written and read one after the other. What was written comes back if it is read in the same byte order, and with
its numbers reversed if it is read in the other one.
-/
namespace DiagTrace

namespace ByteOrder

def other : ByteOrder → ByteOrder
  | little => big
  | big => little

/-- A number of `n` bytes with its bytes the other way round: the lowest one becomes the highest. -/
def reversed : Nat → Nat → Nat
  | 0, _ => 0
  | n + 1, v => v % 256 * Bytes.capacity n + reversed n (v / 256)

theorem littleValue_append (front back : Bytes) :
    littleValue (front ++ back) = littleValue front + Bytes.capacity front.length * littleValue back := by
  induction front with
  | nil => rw [List.nil_append, littleValue, List.length_nil, Bytes.capacity, Nat.one_mul, Nat.zero_add]
  | cons b front ih =>
    rw [List.cons_append, littleValue, littleValue, ih, List.length_cons, Bytes.capacity, Nat.mul_add, Nat.mul_assoc,
      Nat.add_assoc]

theorem littleValue_reverse (n v : Nat) : littleValue (littleBytes n v).reverse = reversed n v := by
  induction n generalizing v with
  | zero => rfl
  | succ n ih =>
    have low : littleValue [UInt8.ofNat v] = v % 256 := by
      rw [littleValue, littleValue, UInt8.toNat_ofNat']
      rfl
    rw [littleBytes, List.reverse_cons, littleValue_append, ih, List.length_reverse, length_littleBytes, low,
      reversed, Nat.mul_comm, Nat.add_comm]

theorem other_decode_encode (order : ByteOrder) (n v : Nat) :
    order.other.decode (order.encode n v) = reversed n v := by
  cases order <;> exact littleValue_reverse n v

end ByteOrder

namespace FieldType

def size : FieldType → Nat
  | unsigned width | signed width => width.bytes
  | float32 | ident => 4
  | float64 => 8
  | bytes length => length

def ofBytes (order : ByteOrder) : FieldType → Bytes → Field
  | unsigned width, bs => .unsigned width (order.decode bs)
  | signed width, bs => .signed width (TwosComplement.decode width.bytes (order.decode bs))
  | float32, bs => .float32 (UInt32.ofNat (order.decode bs))
  | float64, bs => .float64 (UInt64.ofNat (order.decode bs))
  | ident, bs => .ident (String.ofList (Ident.charsOf bs))
  | bytes _, bs => .bytes bs

theorem read_eq (order : ByteOrder) (type : FieldType) :
    type.read order = Read.take type.size >>= fun bs => pure (type.ofBytes order bs) := by
  cases type with
  | bytes length => rfl
  | unsigned width | signed width | float32 | float64 | ident =>
    simp only [read, Read.unsigned, Read.signed, Read.float32, Read.u32, Read.float64, Read.ident, Read.nat, bind_assoc,
      pure_bind]
    rfl

theorem gives_read {type : FieldType} {bs : Bytes} (order : ByteOrder) (length : bs.length = type.size) :
    Read.Gives (type.read order) bs (type.ofBytes order bs) := by
  rw [read_eq]
  exact Read.gives_last (Read.gives_take length) (type.ofBytes order)

end FieldType

namespace Field

def Fits : Field → Prop
  | unsigned width value => value < Bytes.capacity width.bytes
  | signed width value => TwosComplement.Fits width.bytes value
  | ident text => Ident.Plain text
  | float32 _ | float64 _ | bytes _ => True

def reversed : Field → Field
  | unsigned width value => .unsigned width (ByteOrder.reversed width.bytes value)
  | signed width value =>
    .signed width (TwosComplement.decode width.bytes
      (ByteOrder.reversed width.bytes (TwosComplement.encode width.bytes value)))
  | float32 bits => .float32 (UInt32.ofNat (ByteOrder.reversed 4 bits.toNat))
  | float64 bits => .float64 (UInt64.ofNat (ByteOrder.reversed 8 bits.toNat))
  | ident text => .ident text
  | bytes data => .bytes data

theorem length_encode (order : ByteOrder) (field : Field) : (field.encode order).length = field.type.size := by
  cases field with
  | ident text => exact Ident.length_bytes text
  | bytes data => rfl
  | unsigned width value | signed width value | float32 bits | float64 bits => exact ByteOrder.length_encode ..

theorem ofBytes_encode {field : Field} (fits : field.Fits) (order : ByteOrder) :
    field.type.ofBytes order (field.encode order) = field := by
  cases field with
  | unsigned width value => rw [type, encode, FieldType.ofBytes, ByteOrder.decode_encode, Nat.mod_eq_of_lt fits]
  | signed width value =>
    rw [type, encode, FieldType.ofBytes, ByteOrder.decode_encode, Nat.mod_eq_of_lt (TwosComplement.encode_lt ..),
      TwosComplement.decode_encode fits]
  | float32 bits =>
    have small : bits.toNat < Bytes.capacity 4 := bits.toNat_lt
    rw [type, encode, FieldType.ofBytes, ByteOrder.decode_encode, Nat.mod_eq_of_lt small, UInt32.ofNat_toNat]
  | float64 bits =>
    have small : bits.toNat < Bytes.capacity 8 := bits.toNat_lt
    rw [type, encode, FieldType.ofBytes, ByteOrder.decode_encode, Nat.mod_eq_of_lt small, UInt64.ofNat_toNat]
  | ident text => rw [type, encode, FieldType.ofBytes, Ident.charsOf_bytes fits, String.ofList_toList]
  | bytes data => rfl

theorem ofBytes_other_encode {field : Field} (fits : field.Fits) (order : ByteOrder) :
    field.type.ofBytes order.other (field.encode order) = field.reversed := by
  cases field with
  | unsigned width value | signed width value | float32 bits | float64 bits =>
    simp only [type, encode, FieldType.ofBytes, ByteOrder.other_decode_encode, reversed]
  | ident text => rw [type, encode, FieldType.ofBytes, Ident.charsOf_bytes fits, String.ofList_toList, reversed]
  | bytes data => rfl

end Field

namespace Writer

def putAll (order : ByteOrder) (fields : List Field) : Bytes := (fields.foldl put (start order)).written

theorem putAll_eq (order : ByteOrder) (fields : List Field) :
    putAll order fields = (fields.map (Field.encode order)).flatten := by
  have behind : ∀ (fields : List Field) (written : Bytes),
      (fields.foldl put ⟨order, written⟩).written = written ++ (fields.map (Field.encode order)).flatten := by
    intro fields
    induction fields with
    | nil => exact fun written => (List.append_nil written).symm
    | cons field fields ih =>
      intro written
      rw [List.foldl_cons, put, ih, List.map_cons, List.flatten_cons, List.append_assoc]
  exact behind fields []

variable {order readOrder : ByteOrder} {fields : List Field} {view : Field → Field}

theorem pieces_of_views (seen : ∀ field ∈ fields, field.type.ofBytes readOrder (field.encode order) = view field) :
    Read.InPieces (FieldType.read readOrder) (fields.map Field.type) (fields.map (Field.encode order))
      (fields.map view) := by
  induction fields with
  | nil => exact .nil
  | cons field fields ih =>
    have given := FieldType.gives_read readOrder (field.length_encode order)
    rw [seen field List.mem_cons_self] at given
    exact .cons given (ih fun other present => seen other (List.mem_cons_of_mem _ present))

/-- What is read in the place of fields that were written, if each by itself is seen in its way. -/
theorem each_putAll (seen : ∀ field ∈ fields, field.type.ofBytes readOrder (field.encode order) = view field) :
    Read.each (FieldType.read readOrder) (fields.map Field.type) (Cursor.ofBytes (putAll order fields)) =
      .ok (fields.map view, ⟨[], (putAll order fields).length⟩) := by
  have read := Read.gives_each (pieces_of_views seen) [] 0
  rw [List.append_nil, Nat.zero_add, ← putAll_eq] at read
  exact read

end Writer

end DiagTrace
