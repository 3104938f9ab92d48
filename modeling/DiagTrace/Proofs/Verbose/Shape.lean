import DiagTrace.Proofs.Verbose.Extent
import DiagTrace.Proofs.Verbose.Rewriting

/-!
The shape of an argument that was read, from whatever bytes: all numbers fit, arrays are full, records are nested to a
limited depth, and there are no more parts than bytes. It can be written again, in either byte order, unless a text has
grown too long for its length or a floating-point number of 16 or 128 bits has a name.
-/
namespace DiagTrace.Verbose

open Read
open Argument (nodesOf)

def Nameable : Argument → Prop
  | .named .. | .traceInfo _ => False
  | _ => True

def Measurable : Argument → Prop
  | .unknown .. => True
  | value => takesUnit value = true

/-- Arguments in which records are nested at most to a depth, and arrays have as many items as their dimensions come to
in this way of counting. -/
inductive Shaped (count : List UInt16 → Nat) : Nat → Argument → Prop where
  | bool {depth : Nat} (value : Bool) : Shaped count depth (.bool value)
  | signed {depth : Nat} {value : Int} {width : Width} {scaling : Option Scaling}
      (fits : TwosComplement.Fits width.bytes value) (scaled : ScalingFits width scaling) :
      Shaped count depth (.signed value width scaling)
  | unsigned {depth : Nat} {value : Nat} {width : Width} {scaling : Option Scaling}
      (fits : value < Bytes.capacity width.bytes) (scaled : ScalingFits width scaling) :
      Shaped count depth (.unsigned value width scaling)
  | hex {depth : Nat} {value : UInt64} {width : Width} (narrow : width ≠ .w128)
      (fits : value.toNat < Bytes.capacity width.bytes) : Shaped count depth (.hex value width)
  | binary {depth : Nat} {value : UInt64} {width : Width} (narrow : width ≠ .w128)
      (fits : value.toNat < Bytes.capacity width.bytes) : Shaped count depth (.binary value width)
  | float32 {depth : Nat} (bits : UInt32) : Shaped count depth (.float32 bits)
  | float64 {depth : Nat} (bits : UInt64) : Shaped count depth (.float64 bits)
  | wideFloat {depth : Nat} {info : UInt32} {data : Bytes} (wide : WideFloat info data) :
      Shaped count depth (.unknown (some info) data)
  | string {depth : Nat} {text : String} {coding : TextCoding} (plain : coding = .eightBit → Latin1.Plain text) :
      Shaped count depth (.string text coding)
  | raw {depth : Nat} (data : Bytes) : Shaped count depth (.raw data)
  | traceInfo {depth : Nat} {text : String} (plain : Latin1.Plain text) : Shaped count depth (.traceInfo text)
  | array {depth : Nat} {element : ScalarKind} {dimensions : List UInt16} {items : List Argument}
      {scaling : Option Scaling} (counted : items.length = count dimensions)
      (each : ∀ item ∈ items, ItemFits element item) (scaled : ArrayScalingFits element scaling) :
      Shaped count depth (.array element dimensions items scaling)
  | record {depth : Nat} {fields : List Argument} (each : ∀ field ∈ fields, Shaped count depth field) :
      Shaped count (depth + 1) (.record fields)
  | named {depth : Nat} {name : String} {unit : Option String} {value : Argument} (shaped : Shaped count depth value)
      (nameable : Nameable value) (measured : unit.isSome = true → Measurable value) :
      Shaped count depth (.named name unit value)

variable {order : ByteOrder} {depth : Nat} {value argument : Argument}

section Shapes

theorem measurable_of_takesUnit (takes : takesUnit value = true) : Measurable value := by
  unfold Measurable
  split
  · trivial
  · exact takes

theorem argumentRead_of_fits (fits : ArgumentFits depth argument) : ArgumentRead depth argument := by
  cases fits with
  | unnamed fits => exact .unnamed (.fitting fits)
  | named fits called measured =>
    refine .named (.fitting fits) ?_
    intro given
    obtain ⟨text, there⟩ := Option.isSome_iff_exists.mp given
    exact (measured text there).1
  | traceInfo fits => exact .traceInfo fits.1
  | unknown kind unnamed length => exact .wideFloat ⟨kind, length⟩ unnamed

theorem shaped_record {members : List Argument}
    (fields : ∀ field, ArgumentRead depth field → Shaped itemCount depth field)
    (each : ∀ field ∈ members, ArgumentRead depth field) : Shaped itemCount (depth + 1) (.record members) := by
  constructor
  intro field present
  exact fields field (each field present)

theorem shaped_of_value
    (fields : ∀ inner, depth = inner + 1 → ∀ field, ArgumentRead inner field → Shaped itemCount inner field)
    (read : ValueRead depth value) : Shaped itemCount depth value ∧ Nameable value := by
  cases read with
  | utf8 text => exact ⟨.string (fun other => nomatch other), trivial⟩
  | eightBit plain => exact ⟨.string fun _ => plain, trivial⟩
  | record few each => exact ⟨shaped_record (fields _ rfl) each, trivial⟩
  | fitting fits =>
    cases fits with
    | bool value => exact ⟨.bool value, trivial⟩
    | signed fits scaled => exact ⟨.signed fits scaled, trivial⟩
    | unsigned fits scaled => exact ⟨.unsigned fits scaled, trivial⟩
    | hex narrow fits => exact ⟨.hex narrow fits, trivial⟩
    | binary narrow fits => exact ⟨.binary narrow fits, trivial⟩
    | float32 bits => exact ⟨.float32 bits, trivial⟩
    | float64 bits => exact ⟨.float64 bits, trivial⟩
    | utf8 fits => exact ⟨.string (fun other => nomatch other), trivial⟩
    | eightBit fits => exact ⟨.string fun _ => fits.1, trivial⟩
    | raw fits => exact ⟨.raw _, trivial⟩
    | array few count each scaled => exact ⟨.array count.symm each scaled, trivial⟩
    | record few each =>
      have members := fun field present => argumentRead_of_fits (each field present)
      exact ⟨shaped_record (fields _ rfl) members, trivial⟩

theorem shaped_of_argument
    (values : ∀ value, ValueRead depth value → Shaped itemCount depth value ∧ Nameable value)
    (read : ArgumentRead depth argument) : Shaped itemCount depth argument := by
  cases read with
  | unnamed read => exact (values _ read).1
  | named read measured =>
    obtain ⟨shaped, nameable⟩ := values _ read
    exact .named shaped nameable fun given => measurable_of_takesUnit (measured given)
  | traceInfo plain => exact .traceInfo plain
  | wideFloat wide unnamed => exact .wideFloat wide
  | namedWideFloat wide => exact .named (.wideFloat wide) trivial fun _ => trivial

theorem shaped_of_read (read : ArgumentRead depth argument) : Shaped itemCount depth argument := by
  -- The induction is on the depth, which goes down inside a record only.
  induction depth generalizing argument with
  | zero =>
    refine shaped_of_argument (fun value read => ?_) read
    exact shaped_of_value (fun inner deeper => nomatch deeper) read
  | succ depth ih =>
    refine shaped_of_argument (fun value read => ?_) read
    apply shaped_of_value _ read
    intro inner deeper field read
    cases deeper
    exact ih read

/-- Items are counted up to a limit; an argument with fewer parts has the product of the dimensions in each array. -/
theorem Shaped.exact (shaped : Shaped itemCount depth argument) (few : argument.nodes < itemLimit) :
    Shaped product depth argument := by
  induction shaped with
  | bool value => exact .bool value
  | signed fits scaled => exact .signed fits scaled
  | unsigned fits scaled => exact .unsigned fits scaled
  | hex narrow fits => exact .hex narrow fits
  | binary narrow fits => exact .binary narrow fits
  | float32 bits => exact .float32 bits
  | float64 bits => exact .float64 bits
  | wideFloat wide => exact .wideFloat wide
  | string plain => exact .string plain
  | raw data => exact .raw data
  | traceInfo plain => exact .traceInfo plain
  | @array _ _ dimensions items _ counted each scaled =>
    rw [Argument.nodes, nodesOf_items each] at few
    rw [itemCount_eq] at counted
    have whole : items.length = product dimensions := by omega
    exact .array whole each scaled
  | record each ih =>
    constructor
    intro field present
    have inside := Argument.nodes_le_nodesOf present
    rw [Argument.nodes] at few
    exact ih field present (by omega)
  | named shaped nameable measured ih =>
    rw [Argument.nodes] at few
    exact .named (ih (by omega)) nameable measured

end Shapes

section Written

theorem comes_back_or_unwritable (read : ArgumentRead maxDepth argument) (order : ByteOrder) :
    (Unwritable argument ∧ ∃ fault, encodeArgument order argument = .error fault) ∨
    ∃ bs, encodeArgument order argument = .ok bs ∧ ∀ tail position,
      readArgument order ⟨bs ++ tail, position⟩ = .ok (argument, ⟨tail, position + bs.length⟩) := by
  rcases fits_or_unwritable read with fits | unwritable
  · have trips : ArgumentTrips order maxDepth argument := argument_roundTrips fits
    obtain ⟨written, given⟩ := trips
    exact .inr ⟨_, written, given⟩
  · left
    refine ⟨unwritable, ?_⟩
    cases written : encodeArgument order argument with
    | error fault => exact ⟨fault, rfl⟩
    | ok bs => exact absurd written (unwritable_refused unwritable order none bs)

end Written

/-- An argument read from any bytes, `n` of them, has at most `n` parts. It is shaped as an argument has to be. The
items of arrays are counted in 64 bits, and so few bytes leave the products of dimensions exact. In either byte order
the argument is refused for what cannot be written of it, or its bytes are read as the same argument. -/
theorem read_argument_is_shaped {bs : Bytes} {position : Nat} {next : Cursor}
    (read : readArgument order ⟨bs, position⟩ = .ok (argument, next)) :
    ∃ n ≤ bs.length, next = ⟨bs.drop n, position + n⟩ ∧ argument.nodes ≤ n ∧
      Shaped itemCount maxDepth argument ∧ (n < itemLimit → Shaped product maxDepth argument) ∧
      ∀ other, (Unwritable argument ∧ ∃ fault, encodeArgument other argument = .error fault) ∨
        ∃ out, encodeArgument other argument = .ok out ∧ ∀ tail start,
          readArgument other ⟨out ++ tail, start⟩ = .ok (argument, ⟨tail, start + out.length⟩) := by
  obtain ⟨n, present, same, few, _⟩ := (delimits_nested order maxDepth).extent read
  have found := yields_nested order maxDepth _ _ _ read
  have shaped := shaped_of_read found
  refine ⟨n, present, same, few, shaped, ?_, ?_⟩
  · intro countable
    exact shaped.exact (Nat.lt_of_le_of_lt few countable)
  · intro other
    exact comes_back_or_unwritable found other

def tableBytes : Bytes := [0x00, 0x40, 0, 0, 1, 0, 0x41, 0x01, 0, 0, 1, 0, 2, 0, 5, 6]

def table : Argument := .record [.array (.unsigned .w8) [2] [.unsigned 5 .w8 none, .unsigned 6 .w8 none] none]

theorem table_is_shaped :
    readArgument .little ⟨tableBytes, 0⟩ = .ok (table, ⟨[], 16⟩) ∧
    ∃ n ≤ tableBytes.length, (⟨[], 16⟩ : Cursor) = ⟨tableBytes.drop n, 0 + n⟩ ∧ table.nodes ≤ n ∧
      Shaped itemCount maxDepth table ∧ (n < itemLimit → Shaped product maxDepth table) ∧
      ∀ other, (Unwritable table ∧ ∃ fault, encodeArgument other table = .error fault) ∨
        ∃ out, encodeArgument other table = .ok out ∧ ∀ tail start,
          readArgument other ⟨out ++ tail, start⟩ = .ok (table, ⟨tail, start + out.length⟩) := by
  have read : readArgument .little ⟨tableBytes, 0⟩ = .ok (table, ⟨[], 16⟩) := rfl
  exact ⟨read, read_argument_is_shaped read⟩

end DiagTrace.Verbose
