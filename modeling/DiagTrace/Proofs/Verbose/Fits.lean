import DiagTrace.Proofs.Text.RoundTrip
import DiagTrace.Verbose.Encode

/-!
The arguments that have a place on the wire: those whose parts fit the fields that they are written into. Records
may be nested to a depth, which goes down by one inside each.
-/
namespace DiagTrace.Verbose

/-- A UTF-8 text whose length, with its closing zero, fits 16 bits. -/
def TextFits (text : String) : Prop := (Utf8.encode text).length ≤ 65534

def PlainFits (text : String) : Prop := Latin1.Plain text ∧ text.toList.length ≤ 65534

def ScalingFits (width : Width) (scaling : Option Scaling) : Prop :=
  ∀ offset ∈ scaling.map Scaling.offset, TwosComplement.Fits (offsetWidth width).bytes offset

def ArrayScalingFits (element : ScalarKind) (scaling : Option Scaling) : Prop :=
  ∀ scale ∈ scaling, ∃ width, element.integerWidth? = some width ∧ ScalingFits width (some scale)

inductive ItemFits : ScalarKind → Argument → Prop where
  | bool (value : Bool) : ItemFits .bool (.bool value)
  | signed {width : Width} {value : Int} (fits : TwosComplement.Fits width.bytes value) :
      ItemFits (.signed width) (.signed value width none)
  | unsigned {width : Width} {value : Nat} (fits : value < Bytes.capacity width.bytes) :
      ItemFits (.unsigned width) (.unsigned value width none)
  | float32 (bits : UInt32) : ItemFits .float32 (.float32 bits)
  | float64 (bits : UInt64) : ItemFits .float64 (.float64 bits)

def takesUnit : Argument → Bool
  | .signed .. | .unsigned .. | .hex .. | .binary .. | .float32 _ | .float64 _ | .array .. => true
  | _ => false

mutual
inductive ValueFits : Nat → Argument → Prop where
  | bool {depth : Nat} (value : Bool) : ValueFits depth (.bool value)
  | signed {depth : Nat} {value : Int} {width : Width} {scaling : Option Scaling}
      (fits : TwosComplement.Fits width.bytes value) (scaled : ScalingFits width scaling) :
      ValueFits depth (.signed value width scaling)
  | unsigned {depth : Nat} {value : Nat} {width : Width} {scaling : Option Scaling}
      (fits : value < Bytes.capacity width.bytes) (scaled : ScalingFits width scaling) :
      ValueFits depth (.unsigned value width scaling)
  | hex {depth : Nat} {value : UInt64} {width : Width} (narrow : width ≠ .w128)
      (fits : value.toNat < Bytes.capacity width.bytes) : ValueFits depth (.hex value width)
  | binary {depth : Nat} {value : UInt64} {width : Width} (narrow : width ≠ .w128)
      (fits : value.toNat < Bytes.capacity width.bytes) : ValueFits depth (.binary value width)
  | float32 {depth : Nat} (bits : UInt32) : ValueFits depth (.float32 bits)
  | float64 {depth : Nat} (bits : UInt64) : ValueFits depth (.float64 bits)
  | utf8 {depth : Nat} {text : String} (fits : TextFits text) : ValueFits depth (.string text .utf8)
  | eightBit {depth : Nat} {text : String} (fits : PlainFits text) :
      ValueFits depth (.string text .eightBit)
  | raw {depth : Nat} {data : Bytes} (fits : data.length ≤ 65535) : ValueFits depth (.raw data)
  | array {depth : Nat} {element : ScalarKind} {dimensions : List UInt16} {items : List Argument}
      {scaling : Option Scaling} (few : dimensions.length ≤ 65535)
      (count : itemCount dimensions = items.length) (each : ∀ item ∈ items, ItemFits element item)
      (scaled : ArrayScalingFits element scaling) : ValueFits depth (.array element dimensions items scaling)
  | record {depth : Nat} {fields : List Argument} (few : fields.length ≤ 65535)
      (each : ∀ field ∈ fields, ArgumentFits depth field) : ValueFits (depth + 1) (.record fields)

inductive ArgumentFits : Nat → Argument → Prop where
  | unnamed {depth : Nat} {value : Argument} (fits : ValueFits depth value) : ArgumentFits depth value
  | named {depth : Nat} {value : Argument} {name : String} {unit : Option String}
      (fits : ValueFits depth value) (called : TextFits name)
      (measured : ∀ text ∈ unit, takesUnit value = true ∧ TextFits text) :
      ArgumentFits depth (.named name unit value)
  | traceInfo {depth : Nat} {text : String} (fits : PlainFits text) : ArgumentFits depth (.traceInfo text)
  /-- A floating-point number of 16 or 128 bits, kept as bytes. -/
  | unknown {depth : Nat} {info : UInt32} {data : Bytes} (kind : TypeInfo.kind info = TypeInfo.float)
      (unnamed : TypeInfo.isNamed info = false)
      (length : TypeInfo.length info = 2 ∧ data.length = 2 ∨ TypeInfo.length info = 5 ∧ data.length = 16) :
      ArgumentFits depth (.unknown (some info) data)
end

section Counts

def product : List UInt16 → Nat
  | [] => 1
  | dimension :: rest => dimension.toNat * product rest

theorem itemCount_from (dimensions : List UInt16) (count : Nat) :
    dimensions.foldl (fun n dimension => min (n * dimension.toNat) itemLimit) (min count itemLimit) =
      min (count * product dimensions) itemLimit := by
  induction dimensions generalizing count with
  | nil =>
    rw [product, Nat.mul_one]
    rfl
  | cons dimension rest ih =>
    have step : min (min count itemLimit * dimension.toNat) itemLimit = min (count * dimension.toNat) itemLimit := by
      rcases Nat.eq_zero_or_pos dimension.toNat with zero | some
      · simp only [zero, Nat.mul_zero]
      · have limit : itemLimit ≤ itemLimit * dimension.toNat := Nat.le_mul_of_pos_right _ some
        rcases Nat.le_total count itemLimit with small | large
        · rw [Nat.min_eq_left small]
        · have more : itemLimit * dimension.toNat ≤ count * dimension.toNat := Nat.mul_le_mul_right _ large
          rw [Nat.min_eq_right large]
          omega
    rw [List.foldl_cons, step, ih, product, Nat.mul_assoc]

theorem itemCount_eq (dimensions : List UInt16) :
    itemCount dimensions = min (product dimensions) itemLimit := by
  have whole := itemCount_from dimensions 1
  rw [Nat.one_mul] at whole
  exact whole

theorem ValueFits.array_of_product {depth : Nat} {element : ScalarKind} {dimensions : List UInt16}
    {items : List Argument} {scaling : Option Scaling} (few : dimensions.length ≤ 65535)
    (whole : product dimensions = items.length) (countable : items.length ≤ itemLimit)
    (each : ∀ item ∈ items, ItemFits element item) (scaled : ArrayScalingFits element scaling) :
    ValueFits depth (.array element dimensions items scaling) := by
  refine .array few ?_ each scaled
  rw [itemCount_eq, whole, Nat.min_eq_left countable]

end Counts

end DiagTrace.Verbose
