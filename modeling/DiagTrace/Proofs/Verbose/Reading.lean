import DiagTrace.Proofs.Bytes.Yielding
import DiagTrace.Proofs.Verbose.Values

/-!
The arguments that can be read, from whatever bytes. They have a place on the wire but for two reasons: a text may
have grown on the way, and a floating-point number of 16 or 128 bits may have a name.
-/
namespace DiagTrace

theorem Latin1.plain_decode (bs : Bytes) : Plain (decode bs) := by
  intro c present
  rw [decode, String.toList_ofList] at present
  obtain ⟨b, _, rfl⟩ := List.mem_map.mp present
  have small := b.toNat_lt
  rw [UInt8.toNat_charOf]
  omega

namespace Verbose

open Read

def WideFloat (info : UInt32) (data : Bytes) : Prop :=
  TypeInfo.kind info = TypeInfo.float ∧
    (TypeInfo.length info = 2 ∧ data.length = 2 ∨ TypeInfo.length info = 5 ∧ data.length = 16)

mutual
inductive ValueRead : Nat → Argument → Prop where
  | fitting {depth : Nat} {value : Argument} (fits : ValueFits depth value) : ValueRead depth value
  | utf8 {depth : Nat} (text : String) : ValueRead depth (.string text .utf8)
  | eightBit {depth : Nat} {text : String} (plain : Latin1.Plain text) : ValueRead depth (.string text .eightBit)
  | record {depth : Nat} {fields : List Argument} (few : fields.length ≤ 65535)
      (each : ∀ field ∈ fields, ArgumentRead depth field) : ValueRead (depth + 1) (.record fields)

inductive ArgumentRead : Nat → Argument → Prop where
  | unnamed {depth : Nat} {value : Argument} (read : ValueRead depth value) : ArgumentRead depth value
  | named {depth : Nat} {value : Argument} {name : String} {unit : Option String} (read : ValueRead depth value)
      (measured : unit.isSome = true → takesUnit value = true) : ArgumentRead depth (.named name unit value)
  | traceInfo {depth : Nat} {text : String} (plain : Latin1.Plain text) : ArgumentRead depth (.traceInfo text)
  | wideFloat {depth : Nat} {info : UInt32} {data : Bytes} (wide : WideFloat info data)
      (unnamed : TypeInfo.isNamed info = false) : ArgumentRead depth (.unknown (some info) data)
  | namedWideFloat {depth : Nat} {info : UInt32} {data : Bytes} {name : String} {unit : Option String}
      (wide : WideFloat info data) : ArgumentRead depth (.named name unit (.unknown (some info) data))
end

variable {order : ByteOrder} {depth : Nat} {info : UInt32}

section Parts

theorem yields_optionally {α : Type} {step : Read α} {P : α → Prop} (yields : Yields step P) (present : Bool) :
    Yields (optionally present step) fun found => found.isSome = present ∧ ∀ value ∈ found, P value := by
  cases present with
  | false => exact yields_pure ⟨rfl, fun value there => nomatch there⟩
  | true =>
    refine yields_map yields fun value held => ⟨rfl, fun found there => ?_⟩
    cases there
    exact held

theorem yields_name (order : ByteOrder) : Yields (readName order) fun label => label.2 = none :=
  yields_bind (yields_any _) fun _ _ => yields_last (yields_any _) fun _ _ => rfl

theorem yields_scaling (order : ByteOrder) (width : Width) :
    Yields (readScaling order width) fun scale => TwosComplement.Fits (offsetWidth width).bytes scale.offset :=
  yields_bind (yields_any _) fun _ _ => yields_last (yields_signed order (offsetWidth width)) fun _ fits => fits

theorem yields_scaled (order : ByteOrder) (width : Width) (scaled : Bool) :
    Yields (optionally scaled (readScaling order width)) (ScalingFits width) := by
  intro cursor scaling last read
  obtain ⟨_, each⟩ := yields_optionally (yields_scaling order width) scaled cursor scaling last read
  intro offset present
  obtain ⟨scale, there, rfl⟩ := Option.map_eq_some_iff.mp present
  exact each scale there

theorem argumentRead_withName {value : Argument} {name : Option (String × Option String)} (read : ValueRead depth value)
    (measured : ∀ label ∈ name, label.2.isSome = true → takesUnit value = true) :
    ArgumentRead depth (value.withName name) := by
  cases name with
  | none => exact .unnamed read
  | some label => exact .named read (measured label rfl)

theorem called_of_unitless {value : Argument} {name : Option (String × Option String)}
    (unitless : ∀ label ∈ name, label.2 = none) :
    ∀ label ∈ name, label.2.isSome = true → takesUnit value = true := by
  intro label there given
  rw [unitless label there] at given
  cases given

end Parts

section Values

theorem yields_boolArgument (order : ByteOrder) (info : UInt32) :
    Yields (readBoolArgument order info) (ArgumentRead depth) := by
  refine yields_bind (yields_optionally (yields_name order) _) fun name called => ?_
  split
  · exact yields_last (yields_any _) fun value _ =>
      argumentRead_withName (.fitting (.bool value)) (called_of_unitless called.2)
  · exact yields_throw _

theorem integerValue_fits {width : Width} {scaling : Option Scaling} {number : Nat}
    (small : number < Bytes.capacity width.bytes) (scaled : ScalingFits width scaling) :
    ValueFits depth (integerValue info width scaling number) ∧
      takesUnit (integerValue info width scaling number) = true := by
  have low : (UInt64.ofNat number).toNat < Bytes.capacity width.bytes :=
    Nat.lt_of_le_of_lt (by rw [UInt64.toNat_ofNat']; exact Nat.mod_le _ _) small
  have plain : ValueFits depth (if TypeInfo.kind info == TypeInfo.signed then
        .signed (TwosComplement.decode width.bytes number) width scaling
      else .unsigned number width scaling) ∧
      takesUnit (if TypeInfo.kind info == TypeInfo.signed then
        .signed (TwosComplement.decode width.bytes number) width scaling
      else .unsigned number width scaling) = true := by
    split
    · exact ⟨.signed (TwosComplement.fits_decode ..) scaled, rfl⟩
    · exact ⟨.unsigned small scaled, rfl⟩
  unfold integerValue
  simp only
  split
  · exact plain
  · rename_i narrow
    have other : width ≠ .w128 := by
      rintro rfl
      simp at narrow
    split
    · exact ⟨.hex other low, rfl⟩
    · split
      · exact ⟨.binary other low, rfl⟩
      · exact plain

theorem yields_integer (order : ByteOrder) (info : UInt32) : Yields (readInteger order info) (ArgumentRead depth) := by
  unfold readInteger
  split
  · exact yields_throw _
  · rename_i width _
    refine yields_bind (yields_any _) fun name _ => yields_bind (yields_scaled order width _) fun scaling scaled => ?_
    refine yields_last (yields_nat order width.bytes) fun number small => ?_
    obtain ⟨fits, takes⟩ := integerValue_fits small scaled
    exact argumentRead_withName (.fitting fits) fun _ _ _ => takes

theorem yields_floatValue (order : ByteOrder) (depth : Nat) (kind : TypeInfo.kind info = TypeInfo.float) :
    Yields (readFloatValue order info) fun value =>
      ValueFits depth value ∧ takesUnit value = true ∨
        ∃ data, value = .unknown (some info) data ∧ WideFloat info data := by
  have code : ∀ width, TypeInfo.widthOfCode? (TypeInfo.length info) = some width →
      TypeInfo.length info = (TypeInfo.codeOfWidth width).toNat := by
    intro width known
    unfold TypeInfo.widthOfCode? at known
    split at known <;> cases known <;> assumption
  unfold readFloatValue
  split
  · exact yields_last (yields_any _) fun bits _ => .inl ⟨.float32 bits, rfl⟩
  · exact yields_last (yields_any _) fun bits _ => .inl ⟨.float64 bits, rfl⟩
  · rename_i known
    exact yields_last (yields_take 2) fun data length => .inr ⟨data, rfl, kind, .inl ⟨code _ known, length⟩⟩
  · rename_i known
    exact yields_last (yields_take 16) fun data length => .inr ⟨data, rfl, kind, .inr ⟨code _ known, length⟩⟩
  · exact yields_throw _

theorem yields_float (order : ByteOrder) (kind : TypeInfo.kind info = TypeInfo.float) :
    Yields (readFloat order info) (ArgumentRead depth) := by
  refine yields_bind (yields_optionally (yields_any _) _) fun name named => ?_
  refine yields_last (yields_floatValue order depth kind) fun value shape => ?_
  rcases shape with ⟨fits, takes⟩ | ⟨data, rfl, wide⟩
  · exact argumentRead_withName (.fitting fits) fun _ _ _ => takes
  · cases name with
    | none => exact .wideFloat wide named.1.symm
    | some label => exact .namedWideFloat wide

theorem yields_string (order : ByteOrder) (info : UInt32) : Yields (readString order info) (ArgumentRead depth) := by
  refine yields_bind (yields_any _) fun length _ => ?_
  refine yields_bind (yields_optionally (yields_name order) _) fun name called => ?_
  refine yields_last (yields_any _) fun data _ => argumentRead_withName ?_ (called_of_unitless called.2)
  unfold stringValue
  split
  · exact .utf8 _
  · exact .eightBit (Latin1.plain_decode _)

theorem yields_raw (order : ByteOrder) (info : UInt32) : Yields (readRaw order info) (ArgumentRead depth) := by
  refine yields_bind (yields_u16 order) fun length short => ?_
  refine yields_bind (yields_optionally (yields_name order) _) fun name called => ?_
  refine yields_last (yields_take length) fun data same => argumentRead_withName ?_ (called_of_unitless called.2)
  subst same
  exact .fitting (.raw short)

theorem yields_traceInfo (order : ByteOrder) : Yields (readTraceInfo order) (ArgumentRead depth) :=
  yields_bind (yields_any _) fun _ _ => yields_last (yields_any _) fun _ _ => .traceInfo (Latin1.plain_decode _)

theorem yields_scalar (order : ByteOrder) (element : ScalarKind) :
    Yields (readScalar order element) (ItemFits element) := by
  cases element with
  | bool => exact yields_last (yields_any _) fun value _ => .bool value
  | signed width => exact yields_last (yields_signed order width) fun _ fits => .signed fits
  | unsigned width => exact yields_last (yields_nat order width.bytes) fun _ small => .unsigned small
  | float32 => exact yields_last (yields_any _) fun bits _ => .float32 bits
  | float64 => exact yields_last (yields_any _) fun bits _ => .float64 bits

theorem yields_items (order : ByteOrder) (element : ScalarKind) (count : Nat) :
    Yields (readItems order element count) fun items =>
      items.length = count ∧ ∀ item ∈ items, ItemFits element item := by
  intro cursor items last read
  unfold readItems at read
  split at read
  · exact yields_times (yields_scalar order element) count cursor items last read
  · cases read

theorem yields_arrayScaling {element : ScalarKind} {scaled : Bool} {next : Option Scaling → Read Argument}
    {P : Argument → Prop} (rest : ∀ scaling, ArrayScalingFits element scaling → Yields (next scaling) P) :
    Yields (match element.integerWidth? with
      | some width => optionally scaled (readScaling order width) >>= next
      | none => pure none >>= next) P := by
  cases integer : element.integerWidth? with
  | none => exact rest none fun scale there => nomatch there
  | some width =>
    refine yields_bind (yields_scaled order width scaled) fun scaling fits => rest scaling fun scale there => ?_
    cases there
    exact ⟨width, integer, fits⟩

theorem yields_array (order : ByteOrder) (info : UInt32) : Yields (readArray order info) (ArgumentRead depth) := by
  refine yields_bind (yields_any _) fun element _ => yields_bind (yields_u16 order) fun count few => ?_
  refine yields_bind (yields_times (yields_any _) count) fun dimensions all => ?_
  refine yields_bind (yields_any _) fun name _ => ?_
  refine yields_arrayScaling fun scaling scaled => ?_
  refine yields_last (yields_items order element _) fun items each => ?_
  exact argumentRead_withName (.fitting (.array (all.1 ▸ few) each.1.symm each.2 scaled)) fun _ _ _ => rfl

theorem yields_record (order : ByteOrder) (info : UInt32) {field : Read Argument}
    (each : Yields field (ArgumentRead depth)) : Yields (readRecord order info field) (ArgumentRead (depth + 1)) := by
  refine yields_bind (yields_u16 order) fun count few => ?_
  refine yields_bind (yields_optionally (yields_name order) _) fun name called => ?_
  refine yields_last (yields_times each count) fun fields all => ?_
  exact argumentRead_withName (.record (all.1 ▸ few) all.2) (called_of_unitless called.2)

theorem yields_value {record : UInt32 → Read Argument} (info : UInt32)
    (records : ∀ info, Yields (record info) (ArgumentRead depth)) :
    Yields (readValue order record info) (ArgumentRead depth) := by
  unfold readValue
  simp only
  split
  · exact yields_boolArgument order info
  split
  · exact yields_integer order info
  split
  · rename_i kind
    exact yields_float order (eq_of_beq kind)
  split
  · exact yields_string order info
  split
  · exact yields_raw order info
  split
  · exact yields_traceInfo order
  split
  · exact records info
  split
  · exact yields_array order info
  · exact yields_throw _

/-- Whatever bytes an argument is read from, it has the shape of one that was written. -/
theorem yields_nested (order : ByteOrder) (depth : Nat) : Yields (readNested order depth) (ArgumentRead depth) := by
  induction depth with
  | zero => exact yields_bind (yields_any _) fun info _ => yields_value info fun _ => yields_throw _
  | succ depth ih =>
    exact yields_bind (yields_any _) fun info _ => yields_value info fun info => yields_record order info ih

end Values

end Verbose

end DiagTrace
