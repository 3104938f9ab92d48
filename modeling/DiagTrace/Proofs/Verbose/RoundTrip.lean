import DiagTrace.Proofs.Verbose.Values

/-! Verbose arguments come back from their bytes: arrays, nested records, and all arguments of a message. -/
namespace DiagTrace.Verbose

open Read

variable {order : ByteOrder} {name : Option (String × Option String)} {depth : Nat}

section Arrays

variable {element : ScalarKind} {items : List Argument} {dimensions : List UInt16}
variable {scaling : Option Scaling}

def itemBytes (order : ByteOrder) (element : ScalarKind) (item : Argument) : Bytes :=
  written (scalarField order element item)

theorem item_roundTrips (order : ByteOrder) {item : Argument} (fits : ItemFits element item) :
    scalarField order element item = .ok (itemBytes order element item) ∧
      (itemBytes order element item).length = element.bytes ∧
      Gives (readScalar order element) (itemBytes order element item) item := by
  cases fits with
  | bool value => exact ⟨rfl, rfl, gives_last (gives_bool value) Argument.bool⟩
  | signed fits =>
    exact ⟨rfl, ByteOrder.length_encode .., gives_last (gives_signed order _ fits) fun value =>
      Argument.signed value _ none⟩
  | unsigned fits =>
    exact ⟨rfl, ByteOrder.length_encode .., gives_last (gives_nat order fits) fun value =>
      Argument.unsigned value _ none⟩
  | float32 bits =>
    exact ⟨rfl, ByteOrder.length_encode .., gives_last (gives_u32 order bits) Argument.float32⟩
  | float64 bits =>
    exact ⟨rfl, ByteOrder.length_encode .., gives_last (gives_float64 order bits) Argument.float64⟩

theorem itemsOnto_eq (each : ∀ item ∈ items, ItemFits element item) (done : List Bytes) :
    itemsOnto order element items done = .ok ((items.map (itemBytes order element)).reverse ++ done) := by
  induction items generalizing done with
  | nil => rfl
  | cons item items ih =>
    have first := (item_roundTrips order (each item List.mem_cons_self)).1
    have rest := ih (fun other present => each other (List.mem_cons_of_mem _ present))
    simp only [itemsOnto, first, rest, List.map_cons, List.reverse_cons, List.append_assoc, List.cons_append,
      List.nil_append]

theorem itemFields_eq (each : ∀ item ∈ items, ItemFits element item) :
    itemFields order element items = .ok (items.flatMap (itemBytes order element)) := by
  simp only [itemFields, itemsOnto_eq each, bind, Except.bind, pure, Except.pure, List.append_nil,
    List.reverse_reverse, List.flatMap]

theorem length_items (each : ∀ item ∈ items, ItemFits element item) :
    (items.flatMap (itemBytes order element)).length = items.length * element.bytes := by
  induction items with
  | nil => simp
  | cons item items ih =>
    have first := (item_roundTrips order (each item List.mem_cons_self)).2.1
    have rest := ih (fun other present => each other (List.mem_cons_of_mem _ present))
    rw [List.flatMap_cons, List.length_append, first, rest, List.length_cons, Nat.succ_mul, Nat.add_comm]

theorem gives_items {count : Nat} (length : count = items.length)
    (each : ∀ item ∈ items, ItemFits element item) :
    Gives (readItems order element count) (items.flatMap (itemBytes order element)) items := by
  subst length
  intro tail position
  have present : Bytes.hasAtLeast (items.flatMap (itemBytes order element) ++ tail)
      (items.length * element.bytes) = true := by
    rw [Bytes.hasAtLeast_iff, List.length_append, length_items each]
    exact Nat.le_add_right _ _
  have read := gives_times items rfl
    (fun item there => (item_roundTrips order (each item there)).2.2) tail position
  simp only [readItems, present, ↓reduceIte]
  exact read

theorem gives_dimensions (dimensions : List UInt16) :
    Gives (times (readDimension order) dimensions.length)
      (dimensions.flatMap fun dimension => order.encode 2 dimension.toNat) dimensions := by
  refine gives_times dimensions rfl fun dimension _ => ?_
  have fits : dimension.toNat < 65536 := dimension.toNat_lt
  have read := gives_last (gives_u16 order fits) UInt16.ofNat
  rw [UInt16.ofNat_toNat] at read
  exact read

def otherKinds : List UInt32 :=
  [TypeInfo.bool, TypeInfo.signed, TypeInfo.unsigned, TypeInfo.float, TypeInfo.string, TypeInfo.raw,
    TypeInfo.traceInfo, TypeInfo.record]

theorem array_word (element : ScalarKind) (named scaled : Bool) :
    let word := TypeInfo.array ||| TypeInfo.ofScalar element ||| TypeInfo.flag TypeInfo.named named
      ||| TypeInfo.flag TypeInfo.scaled scaled
    TypeInfo.kind word ∉ otherKinds ∧
      TypeInfo.isArray word = true ∧ (elementKind word).toOption = some element ∧
      TypeInfo.isNamed word = named ∧ TypeInfo.isScaled word = scaled := by
  cases element with
  | signed width => cases width <;> cases named <;> cases scaled <;> decide
  | unsigned width => cases width <;> cases named <;> cases scaled <;> decide
  | _ => cases named <;> cases scaled <;> decide

theorem readValue_array {record : UInt32 → Read Argument} {word : UInt32}
    (other : TypeInfo.kind word ∉ otherKinds) (is_array : TypeInfo.isArray word = true) :
    readValue order record word = readArray order word := by
  simp only [otherKinds, List.mem_cons, List.not_mem_nil, or_false, not_or] at other
  simp [readValue, other, is_array]

theorem gives_checked {α : Type} {checked : Except Fault α} {value : α} (passed : checked = .ok value) :
    Gives (liftM checked : Read α) [] value := by
  subst passed
  intro tail position
  rfl

theorem elementKind_array (element : ScalarKind) (named scaled : Bool) :
    elementKind (TypeInfo.array ||| TypeInfo.ofScalar element ||| TypeInfo.flag TypeInfo.named named
      ||| TypeInfo.flag TypeInfo.scaled scaled) = .ok element := by
  obtain ⟨_, _, kind, _, _⟩ := array_word element named scaled
  cases given : elementKind (TypeInfo.array ||| TypeInfo.ofScalar element ||| TypeInfo.flag TypeInfo.named named
      ||| TypeInfo.flag TypeInfo.scaled scaled) with
  | error fault =>
    rw [given] at kind
    cases kind
  | ok found =>
    rw [given] at kind
    cases kind
    rfl

def arrayScalingField (order : ByteOrder) (element : ScalarKind) (scaling : Option Scaling) : Bytes :=
  match element.integerWidth? with
  | some width => scalingField order width scaling
  | none => []

theorem scalingFits_of_array {width : Width} (integer : element.integerWidth? = some width)
    (scaled : ArrayScalingFits element scaling) : ScalingFits width scaling := by
  cases scaling with
  | none =>
    intro offset present
    cases present
  | some scale =>
    obtain ⟨found, known, fits⟩ := scaled scale rfl
    rw [integer] at known
    cases known
    exact fits

theorem gives_arrayScaling (scaled : ArrayScalingFits element scaling) {next : Option Scaling → Read Argument}
    {bs : Bytes} {value : Argument} (rest : Gives (next scaling) bs value) :
    Gives (match element.integerWidth? with
      | some width => optionally scaling.isSome (readScaling order width) >>= next
      | none => pure none >>= next) (arrayScalingField order element scaling ++ bs) value := by
  unfold arrayScalingField
  cases integer : element.integerWidth? with
  | some width => exact gives_bind (gives_scaling (scalingFits_of_array integer scaled)) rest
  | none =>
    cases scaling with
    | none => exact rest
    | some scale =>
      obtain ⟨width, known, _⟩ := scaled scale rfl
      rw [integer] at known
      cases known

theorem arrayArgument_eq {names : Bytes} (written : nameAndUnitField order name = .ok names)
    (few : dimensions.length ≤ 65535) (count : itemCount dimensions = items.length)
    (each : ∀ item ∈ items, ItemFits element item) (scaled : ArrayScalingFits element scaling) :
    arrayArgument order name element dimensions items scaling =
      .ok (wordField order (TypeInfo.array ||| TypeInfo.ofScalar element
          ||| TypeInfo.flag TypeInfo.named name.isSome ||| TypeInfo.flag TypeInfo.scaled scaling.isSome)
        ++ order.encode 2 dimensions.length
        ++ (dimensions.flatMap fun dimension => order.encode 2 dimension.toNat) ++ names
        ++ arrayScalingField order element scaling ++ items.flatMap (itemBytes order element)) := by
  have matching : (itemCount dimensions != items.length) = false := by
    rw [count, bne_self_eq_false]
  unfold arrayScalingField
  cases integer : element.integerWidth? with
  | some width =>
    cases scaling <;>
      simp only [arrayArgument, matching, Bool.false_eq_true, ↓reduceIte, length16_of_le few, written,
        itemFields_eq each, integer, bind, Except.bind, pure, Except.pure]
  | none =>
    cases scaling with
    | none =>
      simp only [arrayArgument, matching, Bool.false_eq_true, ↓reduceIte, length16_of_le few, written,
        itemFields_eq each, integer, bind, Except.bind, pure, Except.pure]
    | some scale =>
      obtain ⟨width, known, _⟩ := scaled scale rfl
      rw [integer] at known
      cases known

theorem array_roundTrips (measured : Measured name) (few : dimensions.length ≤ 65535)
    (count : itemCount dimensions = items.length) (each : ∀ item ∈ items, ItemFits element item)
    (scaled : ArrayScalingFits element scaling) :
    RoundTrips order depth name (.array element dimensions items scaling) := by
  obtain ⟨names, written, read⟩ := nameAndUnit_fits order measured
  obtain ⟨other, is_array, _, named, is_scaled⟩ := array_word element name.isSome scaling.isSome
  have known := elementKind_array element name.isSome scaling.isSome
  refine ⟨_, arrayArgument_eq written few count each scaled, ?_⟩
  simp only [List.append_assoc]
  apply gives_nested
  rw [readValue_array other is_array, readArray]
  simp only [named, is_scaled]
  refine gives_nothing (gives_checked known) (gives_bind (gives_u16 order (Nat.lt_succ_of_le few))
    (gives_bind (gives_dimensions dimensions) (gives_bind read (gives_arrayScaling scaled ?_))))
  exact gives_last (gives_items count each) fun items =>
    (Argument.array element dimensions items scaling).withName name

end Arrays

section Records

def argumentBytes (order : ByteOrder) (argument : Argument) : Bytes :=
  written (valueField order none argument)

/-- An argument with its own name, or with none. -/
def ArgumentTrips (order : ByteOrder) (depth : Nat) (argument : Argument) : Prop :=
  valueField order none argument = .ok (argumentBytes order argument) ∧
    Gives (readNested order depth) (argumentBytes order argument) argument

theorem argumentTrips_of_roundTrips {argument : Argument} (trips : RoundTrips order depth none argument) :
    ArgumentTrips order depth argument := by
  obtain ⟨bs, whole, read⟩ := trips
  have same : argumentBytes order argument = bs := by
    rw [argumentBytes, whole]
    rfl
  rw [ArgumentTrips, same]
  exact ⟨whole, read⟩

theorem argumentFields_eq {arguments : List Argument}
    (each : ∀ argument ∈ arguments, ArgumentTrips order depth argument) :
    argumentFields order arguments = .ok (arguments.flatMap (argumentBytes order)) := by
  induction arguments with
  | nil => rfl
  | cons argument arguments ih =>
    have first := (each argument List.mem_cons_self).1
    have rest := ih (fun other present => each other (List.mem_cons_of_mem _ present))
    simp only [argumentFields, first, rest, bind, Except.bind, pure, Except.pure, List.flatMap_cons]

theorem record_word (named : Bool) :
    let word := TypeInfo.record ||| TypeInfo.flag TypeInfo.named named
    TypeInfo.kind word = TypeInfo.record ∧ TypeInfo.isNamed word = named := by
  cases named <;> decide

theorem record_roundTrips {fields : List Argument} (called : Called name) (few : fields.length ≤ 65535)
    (each : ∀ field ∈ fields, ArgumentTrips order depth field) :
    RoundTrips order (depth + 1) name (.record fields) := by
  obtain ⟨names, written, read⟩ := name_fits order called
  obtain ⟨kind, named⟩ := record_word name.isSome
  have whole : valueField order name (.record fields) =
      .ok (wordField order (TypeInfo.record ||| TypeInfo.flag TypeInfo.named name.isSome)
        ++ order.encode 2 fields.length ++ names ++ fields.flatMap (argumentBytes order)) := by
    simp only [valueField, length16_of_le few, written, argumentFields_eq each, bind, Except.bind, pure,
      Except.pure]
  refine ⟨_, whole, ?_⟩
  simp only [List.append_assoc]
  refine gives_nested ?_
  rw [readValue_record kind]
  simp only [recordReader, readRecord, named]
  refine gives_bind (gives_u16 order (Nat.lt_succ_of_le few)) (gives_bind read ?_)
  exact gives_last (gives_times fields rfl fun field present => (each field present).2) fun fields =>
    (Argument.record fields).withName name

end Records

section Depth

variable {value : Argument}

def NameFits (name : Option (String × Option String)) (value : Argument) : Prop :=
  ∀ label ∈ name, TextFits label.1 ∧ ∀ text ∈ label.2, takesUnit value = true ∧ TextFits text

theorem called_of_nameFits (named : NameFits name value) (unitless : takesUnit value = false) :
    Called name := by
  intro label present
  obtain ⟨fits, unit_fits⟩ := named label present
  refine ⟨fits, ?_⟩
  cases unit : label.2 with
  | none => rfl
  | some text =>
    have takes := (unit_fits text unit).1
    rw [unitless] at takes
    cases takes

theorem measured_of_nameFits (named : NameFits name value) : Measured name := by
  intro label present
  obtain ⟨fits, unit_fits⟩ := named label present
  exact ⟨fits, fun unit there => (unit_fits unit there).2⟩

theorem argument_of_value (values : ∀ name value, ValueFits depth value → NameFits name value →
    RoundTrips order depth name value) {argument : Argument} (fits : ArgumentFits depth argument) :
    ArgumentTrips order depth argument := by
  apply argumentTrips_of_roundTrips
  cases fits with
  | unnamed fits => exact values none argument fits (fun label present => nomatch present)
  | @named _ value name unit fits called measured =>
    have label_fits : NameFits (some (name, unit)) value := by
      intro label present
      cases present
      exact ⟨called, measured⟩
    obtain ⟨bs, written, read⟩ := values (some (name, unit)) value fits label_fits
    exact ⟨bs, written, read⟩
  | traceInfo fits => exact traceInfo_roundTrips fits
  | unknown kind unnamed length => exact unknown_roundTrips kind unnamed length

theorem value_of_fields (fields : ∀ inner, depth = inner + 1 → ∀ field, ArgumentFits inner field →
    ArgumentTrips order inner field) (fits : ValueFits depth value) (named : NameFits name value) :
    RoundTrips order depth name value := by
  have measured := measured_of_nameFits named
  have called := called_of_nameFits named
  cases fits with
  | bool value => exact bool_roundTrips (called rfl) value
  | signed fits scaled => exact signed_roundTrips measured fits scaled
  | unsigned fits scaled => exact unsigned_roundTrips measured fits scaled
  | hex narrow fits => exact coded_roundTrips measured true narrow fits
  | binary narrow fits => exact coded_roundTrips measured false narrow fits
  | float32 bits => exact float32_roundTrips measured bits
  | float64 bits => exact float64_roundTrips measured bits
  | utf8 fits => exact utf8_roundTrips (called rfl) fits
  | eightBit fits => exact eightBit_roundTrips (called rfl) fits
  | raw fits => exact raw_roundTrips (called rfl) fits
  | array few count each scaled => exact array_roundTrips measured few count each scaled
  | record few each =>
    exact record_roundTrips (called rfl) few fun field present => fields _ rfl field (each field present)

/-- A value comes back with its name. The induction is on the depth: only the fields of a record are read one
level further down. -/
theorem value_roundTrips (fits : ValueFits depth value) (named : NameFits name value) :
    RoundTrips order depth name value := by
  induction depth generalizing name value with
  | zero => exact value_of_fields (fun inner deeper => nomatch deeper) fits named
  | succ depth ih =>
    refine value_of_fields (fun inner deeper field fits => ?_) fits named
    cases deeper
    exact argument_of_value (fun name value fits named => ih fits named) fits

theorem argument_roundTrips {argument : Argument} (fits : ArgumentFits depth argument) :
    ArgumentTrips order depth argument :=
  argument_of_value (fun _ _ fits named => value_roundTrips fits named) fits

end Depth

section Payloads

variable {arguments : List Argument}

theorem decodeFrom_flatMap (count : Nat) (done : List Argument) (tail : Bytes) (position : Nat)
    (each : ∀ argument ∈ arguments, ArgumentTrips order maxDepth argument) :
    decodeFrom order count ⟨arguments.flatMap (argumentBytes order) ++ tail, position⟩ arguments.length done =
      (done.reverse ++ arguments, position + (arguments.flatMap (argumentBytes order)).length) := by
  induction arguments generalizing done position with
  | nil => simp [decodeFrom]
  | cons argument arguments ih =>
    have first := (each argument List.mem_cons_self).2 (arguments.flatMap (argumentBytes order) ++ tail) position
    have rest := ih (argument :: done) (position + (argumentBytes order argument).length)
      (fun other present => each other (List.mem_cons_of_mem _ present))
    simp only [List.length_cons, List.flatMap_cons, List.append_assoc, decodeFrom, readArgument, first, rest,
      List.reverse_cons, List.cons_append, List.nil_append, List.length_append, Nat.add_assoc]

theorem arguments_roundTrip (order : ByteOrder) (each : ∀ argument ∈ arguments, ArgumentFits maxDepth argument) :
    ∃ bs, argumentFields order arguments = .ok bs ∧
      decode order bs arguments.length = (arguments, bs.length) := by
  have trips : ∀ argument ∈ arguments, ArgumentTrips order maxDepth argument :=
    fun argument present => argument_roundTrips (each argument present)
  refine ⟨_, argumentFields_eq trips, ?_⟩
  have read := decodeFrom_flatMap arguments.length [] [] 0 trips
  rw [List.append_nil, List.reverse_nil, List.nil_append, Nat.zero_add] at read
  exact read

/-- What fits is written, and comes back from exactly its bytes, whatever follows them: a single argument, and
several one behind the other. -/
theorem encoded_arguments_come_back (order : ByteOrder)
    (each : ∀ argument ∈ arguments, ArgumentFits maxDepth argument) :
    (∀ argument ∈ arguments, ∃ bs, encodeArgument order argument = .ok bs ∧ ∀ tail position,
      readArgument order ⟨bs ++ tail, position⟩ = .ok (argument, ⟨tail, position + bs.length⟩)) ∧
    ∃ bs, argumentFields order arguments = .ok bs ∧ ∀ tail,
      decode order (bs ++ tail) arguments.length = (arguments, bs.length) := by
  have trips : ∀ argument ∈ arguments, ArgumentTrips order maxDepth argument :=
    fun argument present => argument_roundTrips (each argument present)
  refine ⟨fun argument present => ?_, _, argumentFields_eq trips, fun tail => ?_⟩
  · obtain ⟨whole, read⟩ := trips argument present
    exact ⟨_, whole, read⟩
  · have read := decodeFrom_flatMap arguments.length [] tail 0 trips
    rw [List.reverse_nil, List.nil_append, Nat.zero_add] at read
    exact read

def readings : List Argument :=
  [.record
      [.named "speed" (some "km/h") (.signed (-5) .w16 (some ⟨0x3F000000, -40⟩)),
        .array (.unsigned .w8) [2, 2] [.unsigned 1 .w8 none, .unsigned 2 .w8 none, .unsigned 3 .w8 none,
          .unsigned 255 .w8 none] none,
        .record [.string "\u00e9t\u00e9" .eightBit]],
    .named "mask" none (.hex 0xF0 .w8)]

theorem readings_fit : ∀ argument ∈ readings, ArgumentFits maxDepth argument := by
  have short : TextFits "speed" ∧ TextFits "km/h" ∧ TextFits "mask" := by
    unfold TextFits
    decide
  have plain : PlainFits "\u00e9t\u00e9" := by
    refine ⟨?_, by decide⟩
    have chars : "\u00e9t\u00e9".toList = ['\u00e9', 't', '\u00e9'] := rfl
    unfold Latin1.Plain
    rw [chars]
    simp only [List.mem_cons, List.not_mem_nil, or_false, forall_eq_or_imp, forall_eq]
    decide
  have scaled : ScalingFits .w16 (some ⟨0x3F000000, -40⟩) := by
    unfold ScalingFits TwosComplement.Fits
    decide
  have small : TwosComplement.Fits Width.w16.bytes (-5) := by
    unfold TwosComplement.Fits
    decide
  have unscaled : ArrayScalingFits (.unsigned .w8) none := fun scale present => nomatch present
  simp only [readings, List.mem_cons, List.not_mem_nil, or_false, forall_eq_or_imp, forall_eq]
  refine ⟨.unnamed (.record (by decide) ?_),
    .named (.hex (by decide) (by decide)) short.2.2 fun unit there => nomatch there⟩
  simp only [List.mem_cons, List.not_mem_nil, or_false, forall_eq_or_imp, forall_eq]
  refine ⟨.named (.signed small scaled) short.1 ?_,
    .unnamed (.array_of_product (by decide) (by decide) (by decide) ?_ unscaled),
    .unnamed (.record (by decide) ?_)⟩
  · intro unit there
    cases there
    exact ⟨rfl, short.2.1⟩
  · simp only [List.mem_cons, List.not_mem_nil, or_false, forall_eq_or_imp, forall_eq]
    exact ⟨.unsigned (by decide), .unsigned (by decide), .unsigned (by decide), .unsigned (by decide)⟩
  · simp only [List.mem_cons, List.not_mem_nil, or_false, forall_eq]
    exact .unnamed (.eightBit plain)

theorem readings_come_back :
    (∀ argument ∈ readings, ArgumentFits maxDepth argument) ∧
    (∀ argument ∈ readings, ∃ bs, encodeArgument .big argument = .ok bs ∧ ∀ tail position,
      readArgument .big ⟨bs ++ tail, position⟩ = .ok (argument, ⟨tail, position + bs.length⟩)) ∧
    ∃ bs, argumentFields .big readings = .ok bs ∧ ∀ tail,
      decode .big (bs ++ tail) readings.length = (readings, bs.length) :=
  ⟨readings_fit, encoded_arguments_come_back .big readings_fit⟩

end Payloads

end DiagTrace.Verbose
