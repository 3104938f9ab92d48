import DiagTrace.Proofs.Verbose.Fits

/-! Single values come back from their bytes, with their names. -/
namespace DiagTrace.Verbose

open Read

variable {order : ByteOrder} {name : Option (String × Option String)} {width : Width}

section Fields

theorem withoutTerminator_append (data : Bytes) : withoutTerminator (data ++ [0]) = data := by
  have ends : ((data ++ [0]).getLast? == some 0) = true := by
    rw [List.getLast?_concat, beq_self_eq_true]
  rw [withoutTerminator, if_pos ends, List.dropLast_concat]

theorem length16_of_le {what : String} {length : Nat} (small : length ≤ 65535) :
    length16 order what length = .ok (order.encode 2 length) := by
  rw [length16, if_pos (Nat.lt_succ_of_le small)]

theorem length_terminated (text : String) : (terminated text).length = (Utf8.encode text).length + 1 :=
  List.length_append

theorem gives_text (text : String) : Gives (readText (terminated text).length) (terminated text) text := by
  have read := gives_last (gives_take (rfl : (terminated text).length = _))
    fun data => Utf8.decode (withoutTerminator data)
  simp only [terminated, withoutTerminator_append, Utf8.decode_encode] at read
  exact read

theorem gives_absent {α : Type} (step : Read α) : Gives (optionally false step) [] none :=
  gives_pure none

theorem gives_present {α : Type} {step : Read α} {bs : Bytes} {value : α} (read : Gives step bs value) :
    Gives (optionally true step) bs (some value) :=
  gives_map read some

def Called (name : Option (String × Option String)) : Prop :=
  ∀ label ∈ name, TextFits label.1 ∧ label.2 = none

def Measured (name : Option (String × Option String)) : Prop :=
  ∀ label ∈ name, TextFits label.1 ∧ ∀ unit ∈ label.2, TextFits unit

theorem name_fits (order : ByteOrder) (called : Called name) : ∃ bs, nameField order name = .ok bs ∧
    Gives (optionally name.isSome (readName order)) bs name := by
  cases name with
  | none => exact ⟨[], rfl, gives_absent _⟩
  | some label =>
    obtain ⟨text, unit⟩ := label
    obtain ⟨fits, unitless⟩ := called (text, unit) rfl
    simp only [TextFits] at fits
    cases unitless
    have short : (terminated text).length ≤ 65535 := by
      rw [length_terminated]
      omega
    refine ⟨order.encode 2 (terminated text).length ++ terminated text, ?_, ?_⟩
    · simp only [nameField, length16_of_le short, bind, Except.bind, pure, Except.pure]
    · refine gives_present (gives_bind (gives_u16 order (by omega)) ?_)
      exact gives_last (gives_text text) fun read => (read, none)

theorem nameAndUnit_fits (order : ByteOrder) (measured : Measured name) : ∃ bs, nameAndUnitField order name = .ok bs ∧
    Gives (optionally name.isSome (readNameAndUnit order)) bs name := by
  cases name with
  | none => exact ⟨[], rfl, gives_absent _⟩
  | some label =>
    obtain ⟨text, unit⟩ := label
    obtain ⟨fits, unit_fits⟩ := measured (text, unit) rfl
    simp only [TextFits] at fits
    have short : (terminated text).length ≤ 65535 := by
      rw [length_terminated]
      omega
    cases unit with
    | none =>
      refine ⟨order.encode 2 (terminated text).length ++ order.encode 2 0 ++ terminated text ++ [], ?_, ?_⟩
      · simp only [nameAndUnitField, length16_of_le short, List.length_nil, length16_of_le (Nat.zero_le _),
          bind, Except.bind, pure, Except.pure]
      · rw [List.append_nil, List.append_assoc]
        refine gives_present (gives_bind (gives_u16 order (by omega)) (gives_bind (gives_u16 order (by omega)) ?_))
        exact gives_last (gives_text text) fun read => (read, none)
    | some unit =>
      have unit_short : (terminated unit).length ≤ 65535 := by
        have bound := unit_fits unit rfl
        simp only [TextFits] at bound
        rw [length_terminated]
        omega
      have unit_there : ((terminated unit).length == 0) = false := by
        rw [length_terminated]
        rfl
      refine ⟨order.encode 2 (terminated text).length ++ order.encode 2 (terminated unit).length
        ++ terminated text ++ terminated unit, ?_, ?_⟩
      · simp only [nameAndUnitField, length16_of_le short, length16_of_le unit_short, bind, Except.bind, pure,
          Except.pure]
      · rw [List.append_assoc, List.append_assoc]
        refine gives_present (gives_bind (gives_u16 order (by omega)) (gives_bind (gives_u16 order (by omega))
          (gives_bind (gives_text text) ?_)))
        rw [unit_there]
        exact gives_last (gives_text unit) fun read => (text, some read)

theorem gives_scaling {scaling : Option Scaling} (scaled : ScalingFits width scaling) :
    Gives (optionally scaling.isSome (readScaling order width)) (scalingField order width scaling) scaling := by
  cases scaling with
  | none => exact gives_absent _
  | some scaling =>
    have fits := scaled scaling.offset rfl
    refine gives_present (gives_bind (gives_u32 order scaling.quantization) ?_)
    exact gives_last (gives_signed order (offsetWidth width) fits) fun offset =>
      (⟨scaling.quantization, offset⟩ : Scaling)

theorem gives_bool (value : Bool) : Gives readBool (boolField value) value := by
  have read := gives_last (gives_byte (if value then 1 else 0)) (· != 0)
  cases value
  · exact read
  · exact read

end Fields

def recordReader (order : ByteOrder) : Nat → UInt32 → Read Argument
  | 0 => fun _ => throw .nestingTooDeep
  | depth + 1 => fun info => readRecord order info (readNested order depth)

theorem readNested_eq (order : ByteOrder) (depth : Nat) :
    readNested order depth = u32 order >>= readValue order (recordReader order depth) := by
  cases depth <;> rfl

/-- What an argument is written as, and that it is read back as itself. -/
def RoundTrips (order : ByteOrder) (depth : Nat) (name : Option (String × Option String))
    (value : Argument) : Prop :=
  ∃ bs, valueField order name value = .ok bs ∧ Gives (readNested order depth) bs (value.withName name)

theorem gives_nested {depth : Nat} {word : UInt32} {bs : Bytes} {value : Argument}
    (read : Gives (readValue order (recordReader order depth) word) bs value) :
    Gives (readNested order depth) (wordField order word ++ bs) value := by
  rw [readNested_eq]
  exact gives_bind (gives_u32 order word) read

section Dispatch

variable {record : UInt32 → Read Argument} {word : UInt32}

theorem readValue_bool (kind : TypeInfo.kind word = TypeInfo.bool) :
    readValue order record word = readBoolArgument order word := by
  simp [readValue, kind]

theorem readValue_integer (kind : TypeInfo.kind word = TypeInfo.signed ∨ TypeInfo.kind word = TypeInfo.unsigned) :
    readValue order record word = readInteger order word := by
  rcases kind with kind | kind <;> simp [readValue, kind, TypeInfo.signed, TypeInfo.unsigned, TypeInfo.bool]

theorem readValue_float (kind : TypeInfo.kind word = TypeInfo.float) :
    readValue order record word = readFloat order word := by
  simp [readValue, kind, TypeInfo.signed, TypeInfo.unsigned, TypeInfo.bool, TypeInfo.float]

theorem readValue_string (kind : TypeInfo.kind word = TypeInfo.string) :
    readValue order record word = readString order word := by
  simp [readValue, kind, TypeInfo.signed, TypeInfo.unsigned, TypeInfo.bool, TypeInfo.float, TypeInfo.string]

theorem readValue_raw (kind : TypeInfo.kind word = TypeInfo.raw) :
    readValue order record word = readRaw order word := by
  simp [readValue, kind, TypeInfo.signed, TypeInfo.unsigned, TypeInfo.bool, TypeInfo.float, TypeInfo.string,
    TypeInfo.raw]

theorem readValue_traceInfo (kind : TypeInfo.kind word = TypeInfo.traceInfo) :
    readValue order record word = readTraceInfo order := by
  simp [readValue, kind, TypeInfo.signed, TypeInfo.unsigned, TypeInfo.bool, TypeInfo.float, TypeInfo.string,
    TypeInfo.raw, TypeInfo.traceInfo]

theorem readValue_record (kind : TypeInfo.kind word = TypeInfo.record) :
    readValue order record word = record word := by
  simp [readValue, kind, TypeInfo.signed, TypeInfo.unsigned, TypeInfo.bool, TypeInfo.float, TypeInfo.string,
    TypeInfo.raw, TypeInfo.traceInfo, TypeInfo.record]

end Dispatch

section Numbers

variable {depth : Nat} {names : Bytes}

theorem bool_word (named : Bool) :
    let word := TypeInfo.ofScalar .bool ||| TypeInfo.flag TypeInfo.named named
    TypeInfo.kind word = TypeInfo.bool ∧ TypeInfo.isNamed word = named ∧ TypeInfo.length word ≤ 1 := by
  cases named <;> decide

theorem bool_roundTrips (called : Called name) (value : Bool) : RoundTrips order depth name (.bool value) := by
  obtain ⟨names, written, read⟩ := name_fits order called
  obtain ⟨kind, named, length⟩ := bool_word name.isSome
  have whole : valueField order name (.bool value) =
      .ok (wordField order (TypeInfo.ofScalar .bool ||| TypeInfo.flag TypeInfo.named name.isSome)
        ++ names ++ boolField value) := by
    simp only [valueField, written, bind, Except.bind, pure, Except.pure]
  refine ⟨_, whole, ?_⟩
  rw [List.append_assoc]
  refine gives_nested ?_
  rw [readValue_bool kind, readBoolArgument, named]
  simp only [length, ↓reduceIte]
  exact gives_bind read (gives_last (gives_bool value) fun value => (Argument.bool value).withName name)

theorem numberArgument_eq (written : nameAndUnitField order name = .ok names) (word : UInt32)
    (scaling value : Bytes) :
    numberArgument order name word scaling value =
      .ok (wordField order (word ||| TypeInfo.flag TypeInfo.named name.isSome) ++ names ++ scaling ++ value) := by
  simp only [numberArgument, written, bind, Except.bind, pure, Except.pure]

theorem gives_integer {word : UInt32} {scaling : Option Scaling} {number : Nat} {value : Argument}
    (read : Gives (optionally name.isSome (readNameAndUnit order)) names name)
    (kind : TypeInfo.kind word = TypeInfo.signed ∨ TypeInfo.kind word = TypeInfo.unsigned)
    (wide : TypeInfo.widthOfCode? (TypeInfo.length word) = some width)
    (named : TypeInfo.isNamed word = name.isSome) (is_scaled : TypeInfo.isScaled word = scaling.isSome)
    (scaled : ScalingFits width scaling) (fits : number < Bytes.capacity width.bytes)
    (shown : integerValue word width scaling number = value) :
    Gives (readNested order depth)
      (wordField order word ++ names ++ scalingField order width scaling ++ order.encode width.bytes number)
      (value.withName name) := by
  rw [List.append_assoc, List.append_assoc]
  refine gives_nested ?_
  rw [readValue_integer kind, readInteger, wide]
  simp only [named, is_scaled]
  refine gives_bind read (gives_bind (gives_scaling scaled) ?_)
  rw [← shown]
  exact gives_last (gives_nat order fits) fun number =>
    (integerValue word width scaling number).withName name

theorem signed_word (width : Width) (scaled named : Bool) :
    let word := TypeInfo.ofScalar (.signed width) ||| TypeInfo.flag TypeInfo.scaled scaled
      ||| TypeInfo.flag TypeInfo.named named
    TypeInfo.kind word = TypeInfo.signed ∧ TypeInfo.widthOfCode? (TypeInfo.length word) = some width ∧
      TypeInfo.isNamed word = named ∧ TypeInfo.isScaled word = scaled ∧ TypeInfo.coding word = 0 := by
  cases width <;> cases scaled <;> cases named <;> decide

theorem unsigned_word (width : Width) (scaled named : Bool) :
    let word := TypeInfo.ofScalar (.unsigned width) ||| TypeInfo.flag TypeInfo.scaled scaled
      ||| TypeInfo.flag TypeInfo.named named
    TypeInfo.kind word = TypeInfo.unsigned ∧ TypeInfo.widthOfCode? (TypeInfo.length word) = some width ∧
      TypeInfo.isNamed word = named ∧ TypeInfo.isScaled word = scaled ∧ TypeInfo.coding word = 0 := by
  cases width <;> cases scaled <;> cases named <;> decide

theorem integerValue_plain {word : UInt32} (coding : TypeInfo.coding word = 0) (scaling : Option Scaling)
    (number : Nat) :
    integerValue word width scaling number =
      if TypeInfo.kind word == TypeInfo.signed then
        .signed (TwosComplement.decode width.bytes number) width scaling
      else .unsigned number width scaling := by
  simp [integerValue, coding, TypeInfo.hexCoding, TypeInfo.binaryCoding]

theorem signed_roundTrips (measured : Measured name) {value : Int} {scaling : Option Scaling}
    (fits : TwosComplement.Fits width.bytes value) (scaled : ScalingFits width scaling) :
    RoundTrips order depth name (.signed value width scaling) := by
  obtain ⟨names, written, read⟩ := nameAndUnit_fits order measured
  obtain ⟨kind, wide, named, is_scaled, coding⟩ := signed_word width scaling.isSome name.isSome
  have whole := numberArgument_eq written
    (TypeInfo.ofScalar (.signed width) ||| TypeInfo.flag TypeInfo.scaled scaling.isSome)
    (scalingField order width scaling) (signedField order width value)
  refine ⟨_, whole, gives_integer read (.inl kind) wide named is_scaled scaled
    (TwosComplement.encode_lt width.bytes value) ?_⟩
  rw [integerValue_plain coding, kind, beq_self_eq_true, if_pos rfl, TwosComplement.decode_encode fits]

theorem unsigned_roundTrips (measured : Measured name) {value : Nat} {scaling : Option Scaling}
    (fits : value < Bytes.capacity width.bytes) (scaled : ScalingFits width scaling) :
    RoundTrips order depth name (.unsigned value width scaling) := by
  obtain ⟨names, written, read⟩ := nameAndUnit_fits order measured
  obtain ⟨kind, wide, named, is_scaled, coding⟩ := unsigned_word width scaling.isSome name.isSome
  have whole := numberArgument_eq written
    (TypeInfo.ofScalar (.unsigned width) ||| TypeInfo.flag TypeInfo.scaled scaling.isSome)
    (scalingField order width scaling) (order.encode width.bytes value)
  refine ⟨_, whole, gives_integer read (.inr kind) wide named is_scaled scaled fits ?_⟩
  have other : (TypeInfo.unsigned == TypeInfo.signed) = false := by decide
  rw [integerValue_plain coding, kind, other, if_neg Bool.false_ne_true]

theorem coded_word (width : Width) (hex named : Bool) :
    let coding := if hex then TypeInfo.hexCoding else TypeInfo.binaryCoding
    let word := TypeInfo.unsigned ||| TypeInfo.codeOfWidth width ||| TypeInfo.codingBits coding
      ||| TypeInfo.flag TypeInfo.named named
    TypeInfo.kind word = TypeInfo.unsigned ∧ TypeInfo.widthOfCode? (TypeInfo.length word) = some width ∧
      TypeInfo.isNamed word = named ∧ TypeInfo.isScaled word = false ∧ TypeInfo.coding word = coding := by
  cases width <;> cases hex <;> cases named <;> decide

theorem integerValue_coded {word : UInt32} {hex : Bool} (narrow : width ≠ .w128)
    (coding : TypeInfo.coding word = if hex then TypeInfo.hexCoding else TypeInfo.binaryCoding)
    (value : UInt64) :
    integerValue word width none value.toNat = if hex then .hex value width else .binary value width := by
  have narrower : (width == .w128) = false := beq_false_of_ne narrow
  have other : (TypeInfo.binaryCoding == TypeInfo.hexCoding) = false := by decide
  cases hex with
  | true =>
    rw [if_pos rfl] at coding
    simp [integerValue, narrower, coding]
  | false =>
    rw [if_neg Bool.false_ne_true] at coding
    simp [integerValue, narrower, coding, other]

theorem coded_roundTrips (measured : Measured name) (hex : Bool) {value : UInt64} (narrow : width ≠ .w128)
    (fits : value.toNat < Bytes.capacity width.bytes) :
    ∃ bs, codedInteger order name (if hex then TypeInfo.hexCoding else TypeInfo.binaryCoding) value width
        = .ok bs ∧
      Gives (readNested order depth) bs
        ((if hex then Argument.hex value width else .binary value width).withName name) := by
  obtain ⟨names, written, read⟩ := nameAndUnit_fits order measured
  obtain ⟨kind, wide, named, is_scaled, coding⟩ := coded_word width hex name.isSome
  have narrower : (width == .w128) = false := beq_false_of_ne narrow
  have whole := numberArgument_eq written
    (TypeInfo.unsigned ||| TypeInfo.codeOfWidth width
      ||| TypeInfo.codingBits (if hex then TypeInfo.hexCoding else TypeInfo.binaryCoding)) []
    (order.encode width.bytes value.toNat)
  refine ⟨_, by rw [codedInteger, narrower, if_neg Bool.false_ne_true, whole], ?_⟩
  have unscaled : ScalingFits width none := fun offset present => nomatch present
  have is_unscaled : TypeInfo.isScaled _ = Option.isSome (none : Option Scaling) := is_scaled
  exact gives_integer read (.inr kind) wide named is_unscaled unscaled fits
    (integerValue_coded narrow coding value)

end Numbers

section Data

variable {depth : Nat} {names : Bytes}

theorem float_word {element : ScalarKind} {width : Width}
    (float : element = .float32 ∧ width = .w32 ∨ element = .float64 ∧ width = .w64) (named : Bool) :
    let word := TypeInfo.ofScalar element ||| TypeInfo.flag TypeInfo.named named
    TypeInfo.kind word = TypeInfo.float ∧ TypeInfo.isNamed word = named ∧
      TypeInfo.widthOfCode? (TypeInfo.length word) = some width := by
  rcases float with ⟨rfl, rfl⟩ | ⟨rfl, rfl⟩ <;> cases named <;> decide

theorem gives_float {word : UInt32} {bs : Bytes} {value : Argument}
    (read : Gives (optionally name.isSome (readNameAndUnit order)) names name)
    (kind : TypeInfo.kind word = TypeInfo.float) (named : TypeInfo.isNamed word = name.isSome)
    (shown : Gives (readFloatValue order word) bs value) :
    Gives (readNested order depth) (wordField order word ++ names ++ bs) (value.withName name) := by
  rw [List.append_assoc]
  refine gives_nested ?_
  rw [readValue_float kind, readFloat, named]
  exact gives_bind read (gives_last shown (Argument.withName name))

theorem float32_roundTrips (measured : Measured name) (bits : UInt32) :
    RoundTrips order depth name (.float32 bits) := by
  obtain ⟨names, written, read⟩ := nameAndUnit_fits order measured
  obtain ⟨kind, named, wide⟩ := float_word (.inl ⟨rfl, rfl⟩) name.isSome
  have whole := numberArgument_eq written (TypeInfo.ofScalar .float32) [] (order.encode 4 bits.toNat)
  rw [List.append_nil] at whole
  refine ⟨_, whole, gives_float read kind named ?_⟩
  simp only [readFloatValue, wide]
  exact gives_last (gives_u32 order bits) Argument.float32

theorem float64_roundTrips (measured : Measured name) (bits : UInt64) :
    RoundTrips order depth name (.float64 bits) := by
  obtain ⟨names, written, read⟩ := nameAndUnit_fits order measured
  obtain ⟨kind, named, wide⟩ := float_word (.inr ⟨rfl, rfl⟩) name.isSome
  have whole := numberArgument_eq written (TypeInfo.ofScalar .float64) [] (order.encode 8 bits.toNat)
  rw [List.append_nil] at whole
  refine ⟨_, whole, gives_float read kind named ?_⟩
  simp only [readFloatValue, wide]
  exact gives_last (gives_float64 order bits) Argument.float64

theorem unknown_roundTrips {info : UInt32} {data : Bytes} (kind : TypeInfo.kind info = TypeInfo.float)
    (unnamed : TypeInfo.isNamed info = false)
    (length : TypeInfo.length info = 2 ∧ data.length = 2 ∨ TypeInfo.length info = 5 ∧ data.length = 16) :
    RoundTrips order depth none (.unknown (some info) data) := by
  have shown : Gives (readFloatValue order info) data (.unknown (some info) data) := by
    rcases length with ⟨code, length⟩ | ⟨code, length⟩
    · simp only [readFloatValue, code, TypeInfo.widthOfCode?]
      exact gives_last (gives_take length) (Argument.unknown (some info))
    · simp only [readFloatValue, code, TypeInfo.widthOfCode?]
      exact gives_last (gives_take length) (Argument.unknown (some info))
  have nameless : Gives (optionally (none : Option (String × Option String)).isSome (readNameAndUnit order))
      [] none := gives_absent _
  have read : Gives (readNested order depth) (wordField order info ++ [] ++ data) _ :=
    gives_float nameless kind unnamed shown
  rw [List.append_nil] at read
  exact ⟨wordField order info ++ data, rfl, read⟩

theorem dataArgument_eq (what : String) (written : nameField order name = .ok names) (word : UInt32)
    {data : Bytes} (small : data.length ≤ 65535) :
    dataArgument order name word what data =
      .ok (wordField order (word ||| TypeInfo.flag TypeInfo.named name.isSome)
        ++ order.encode 2 data.length ++ names ++ data) := by
  simp only [dataArgument, written, length16_of_le small, bind, Except.bind, pure, Except.pure]

theorem string_word {bits : UInt32} (coded : bits = TypeInfo.codingBits TypeInfo.utf8Coding ∨ bits = 0)
    (named : Bool) :
    let word := TypeInfo.string ||| bits ||| TypeInfo.flag TypeInfo.named named
    TypeInfo.kind word = TypeInfo.string ∧ TypeInfo.isNamed word = named ∧
      (TypeInfo.coding word == TypeInfo.utf8Coding) = (bits != 0) := by
  rcases coded with rfl | rfl <;> cases named <;> decide

theorem gives_string {word : UInt32} {data : Bytes} {value : Argument} (small : data.length ≤ 65534)
    (read : Gives (optionally name.isSome (readName order)) names name)
    (kind : TypeInfo.kind word = TypeInfo.string) (named : TypeInfo.isNamed word = name.isSome)
    (shown : stringValue word data = value) :
    Gives (readNested order depth)
      (wordField order word ++ order.encode 2 (data ++ [0]).length ++ names ++ (data ++ [0]))
      (value.withName name) := by
  have fits : (data ++ [0]).length < 65536 := by
    rw [List.length_append, List.length_singleton]
    omega
  rw [List.append_assoc, List.append_assoc]
  refine gives_nested ?_
  rw [readValue_string kind, readString, named]
  refine gives_bind (gives_u16 order fits) (gives_bind read ?_)
  have taken := gives_last (gives_take (rfl : (data ++ [0]).length = _))
    fun data => (stringValue word (withoutTerminator data)).withName name
  rw [withoutTerminator_append, shown] at taken
  exact taken

theorem utf8_roundTrips (called : Called name) {text : String} (fits : TextFits text) :
    RoundTrips order depth name (.string text .utf8) := by
  obtain ⟨names, written, read⟩ := name_fits order called
  obtain ⟨kind, named, coding⟩ := string_word (.inl rfl) name.isSome
  have small : (Utf8.encode text ++ [0]).length ≤ 65535 := by
    rw [List.length_append, List.length_singleton]
    exact Nat.succ_le_succ fits
  have whole := dataArgument_eq "string" written
    (TypeInfo.string ||| TypeInfo.codingBits TypeInfo.utf8Coding) small
  refine ⟨_, whole, gives_string fits read kind named ?_⟩
  rw [stringValue, coding, if_pos (by decide), Utf8.decode_encode]

theorem eightBit_roundTrips (called : Called name) {text : String} (fits : PlainFits text) :
    RoundTrips order depth name (.string text .eightBit) := by
  obtain ⟨names, written, read⟩ := name_fits order called
  obtain ⟨kind, named, coding⟩ := string_word (.inr rfl) name.isSome
  have short : (Latin1.encode text).length ≤ 65534 := by
    rw [Latin1.length_encode]
    exact fits.2
  have small : (Latin1.encode text ++ [0]).length ≤ 65535 := by
    rw [List.length_append, List.length_singleton]
    omega
  refine ⟨_, dataArgument_eq "string" written (TypeInfo.string ||| 0) small, gives_string short read kind named ?_⟩
  rw [stringValue, coding, if_neg (by decide), codedBytes, Latin1.decode_encode fits.1]

theorem raw_word (named : Bool) :
    let word := TypeInfo.raw ||| TypeInfo.flag TypeInfo.named named
    TypeInfo.kind word = TypeInfo.raw ∧ TypeInfo.isNamed word = named := by
  cases named <;> decide

theorem raw_roundTrips (called : Called name) {data : Bytes} (fits : data.length ≤ 65535) :
    RoundTrips order depth name (.raw data) := by
  obtain ⟨names, written, read⟩ := name_fits order called
  obtain ⟨kind, named⟩ := raw_word name.isSome
  refine ⟨_, dataArgument_eq "raw data" written _ fits, ?_⟩
  rw [List.append_assoc, List.append_assoc]
  refine gives_nested ?_
  rw [readValue_raw kind, readRaw, named]
  refine gives_bind (gives_u16 order (Nat.lt_succ_of_le fits)) (gives_bind read ?_)
  exact gives_last (gives_take rfl) fun data => (Argument.raw data).withName name

theorem traceInfo_roundTrips {text : String} (fits : PlainFits text) :
    RoundTrips order depth none (.traceInfo text) := by
  have short : (Latin1.encode text).length ≤ 65534 := by
    rw [Latin1.length_encode]
    exact fits.2
  have small : (Latin1.encode text ++ [0]).length ≤ 65535 := by
    rw [List.length_append, List.length_singleton]
    omega
  have kind : TypeInfo.kind (TypeInfo.traceInfo ||| TypeInfo.flag TypeInfo.named
      (none : Option (String × Option String)).isSome) = TypeInfo.traceInfo := by decide
  have nameless : nameField order none = .ok [] := rfl
  refine ⟨_, dataArgument_eq "trace info" nameless TypeInfo.traceInfo small, ?_⟩
  rw [List.append_nil, List.append_assoc]
  refine gives_nested ?_
  rw [readValue_traceInfo kind, readTraceInfo]
  refine gives_bind (gives_u16 order (Nat.lt_succ_of_le small)) ?_
  have taken := gives_last (gives_take (rfl : (Latin1.encode text ++ [0]).length = _))
    fun data => Argument.traceInfo (Latin1.decode (withoutTerminator data))
  rw [withoutTerminator_append, Latin1.decode_encode fits.1] at taken
  exact taken

end Data

end DiagTrace.Verbose
