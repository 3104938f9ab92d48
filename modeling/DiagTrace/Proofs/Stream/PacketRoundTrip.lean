import DiagTrace.Line.Equality
import DiagTrace.Proofs.Control.RoundTrip
import DiagTrace.Proofs.Stream.Applied
import DiagTrace.Proofs.Stream.Headers
import DiagTrace.Proofs.Verbose.RoundTrip

/-! A line that fits comes back from its packet. -/
namespace DiagTrace

/-- The same point in time with less than a second of nanoseconds. -/
def Timestamp.carried (time : Timestamp) : Timestamp :=
  ⟨time.seconds + (time.nanoseconds / 1000000000 : Nat), time.nanoseconds % 1000000000⟩

theorem Timestamp.carried_eq {time : Timestamp} (ordinary : time.nanoseconds < 1000000000) :
    time.carried = time := by
  rw [carried, Nat.div_eq_of_lt ordinary, Nat.mod_eq_of_lt ordinary, Int.natCast_zero, Int.add_zero]

theorem Timestamp.ofParts_ordinary (seconds microseconds : Nat) :
    (ofParts seconds microseconds).nanoseconds < 1000000000 := by
  simp only [ofParts]
  omega

namespace Stream

namespace Headers

theorem has_typeOf (header : LineHeader) (extended : Bool) :
    typeOf header extended &&& HeaderType.versionMask = HeaderType.version1 ∧
    HeaderType.has (typeOf header extended) HeaderType.extended = extended ∧
    HeaderType.has (typeOf header extended) HeaderType.bigEndian = header.isBigEndian ∧
    HeaderType.has (typeOf header extended) HeaderType.withEcuId = header.features.has .ecuId ∧
    HeaderType.has (typeOf header extended) HeaderType.withSession = header.features.has .sessionId ∧
    HeaderType.has (typeOf header extended) HeaderType.withTime = header.features.has .deviceTimestamp := by
  unfold typeOf
  generalize header.isBigEndian = bigEndian
  generalize header.features.has .ecuId = ecuId
  generalize header.features.has .sessionId = session
  generalize header.features.has .deviceTimestamp = ticks
  cases extended <;> cases bigEndian <;> cases ecuId <;> cases session <;> cases ticks <;> decide

variable {format : CaptureFormat} {line : Line} {header : LineHeader} {body : Body} {count : UInt8}

def headersOf (format : CaptureFormat) (count : UInt8) (line : Line) (body : Body) : Headers :=
  let header := line.header
  let extended := needsExtended line body
  let type := typeOf header extended
  { storage := if format = .file then some (storageOf header) else none
    standard := {
      type, count, length := UInt16.ofNat (packetLength type body)
      ecuId := written header .ecuId (Ident.packed header.ecuId)
      session := written header .sessionId header.session
      ticks := written header .deviceTimestamp (UInt32.ofNat (header.deviceTime.nanoseconds / 100000)) }
    extended := if extended then some (extendedOf header body) else none }

theorem isSome_written {α : Type} (header : LineHeader) (feature : Feature) (value : α) :
    (written header feature value).isSome = header.features.has feature := by
  unfold written
  cases header.features.has feature <;> rfl

theorem ticksOf_eq (fits : HeaderFits format header) : ticksOf header =
    .ok (written header .deviceTimestamp (UInt32.ofNat (header.deviceTime.nanoseconds / 100000))) := by
  unfold ticksOf written
  cases present : header.features.has .deviceTimestamp with
  | false => rfl
  | true =>
    obtain ⟨count, small, whole⟩ := fits.deviceTime present
    have ticks_eq : header.deviceTime.nanoseconds / (tickMicroseconds * 1000) = count := by
      simp only [tickMicroseconds]
      omega
    have short : header.deviceTime.nanoseconds / (tickMicroseconds * 1000) < Bytes.capacity 4 := by
      rw [ticks_eq]
      exact small
    simp only [↓reduceIte, ticks, short, Except.map]
    rfl

theorem ofLine_eq (fits : HeaderFits format line.header)
    (short : packetLength (typeOf line.header (needsExtended line body)) body ≤ 65535) :
    ofLine format count line body = .ok (headersOf format count line body) := by
  have within : ¬ 65535 < packetLength (typeOf line.header (needsExtended line body)) body :=
    Nat.not_lt_of_le short
  simp only [ofLine, ticksOf_eq fits, within, ↓reduceIte, bind, Except.bind, pure, Except.pure]
  rfl

theorem consistent_headersOf (format : CaptureFormat) (count : UInt8) (line : Line) (body : Body) :
    Consistent format (headersOf format count line body) := by
  obtain ⟨_, extended, _, ecuId, session, ticks⟩ := has_typeOf line.header (needsExtended line body)
  refine ⟨?_, ⟨?_, ?_, ?_⟩, ?_⟩
  · cases format <;> rfl
  · exact (isSome_written _ _ _).trans ecuId.symm
  · exact (isSome_written _ _ _).trans session.symm
  · exact (isSome_written _ _ _).trans ticks.symm
  · refine Eq.trans ?_ extended.symm
    simp only [headersOf]
    cases needsExtended line body <;> rfl

theorem extended_headersOf (format : CaptureFormat) (count : UInt8) (needed : needsExtended line body = true) :
    (headersOf format count line body).extended = some (extendedOf line.header body) := by
  simp only [headersOf, needed, ↓reduceIte]

theorem storage_time (fits : HeaderFits format header) (stamped : header.features.has .logTimestamp = true) :
    Timestamp.ofParts (storageOf header).seconds.toNat (storageOf header).microseconds.toNat =
      header.time.carried := by
  obtain ⟨low, high, whole, second⟩ := fits.time stamped
  have read : (written header .logTimestamp header.time).getD .epoch = header.time := by
    rw [written, if_pos stamped]
    rfl
  simp only [Bytes.capacity] at high
  have seconds : TwosComplement.encode 4 header.time.seconds < 2 ^ 32 := by
    simp only [TwosComplement.encode, Bytes.capacity]
    omega
  have same : (TwosComplement.encode 4 header.time.seconds : Int) = header.time.seconds := by
    simp only [TwosComplement.encode, Bytes.capacity]
    omega
  have micros : header.time.nanoseconds / 1000 < 2 ^ 32 := by omega
  simp only [storageOf, read, UInt32.toNat_ofNat_of_lt' seconds, UInt32.toNat_ofNat_of_lt' micros, Timestamp.ofParts,
    Timestamp.carried, same]
  rw [Timestamp.mk.injEq]
  constructor <;> omega

structure Agrees (header : LineHeader) (extended : Bool) (body : Body) : Prop where
  present : Extended header extended
  verbose : header.isVerbose = (extended && body.isVerbose)
  type : extended = true → MessageType.ofInfo body.info = header.type

theorem features_headersOf (count : UInt8) (fits : HeaderFits format line.header)
    (agrees : Agrees line.header (needsExtended line body) body) :
    ((headersOf format count line body).apply fresh).features = line.header.features := by
  refine Features.eq_of_has (proper_apply _) fits.proper fun feature => ?_
  obtain ⟨_, _, bigEndian, _⟩ := has_typeOf line.header (needsExtended line body)
  obtain ⟨appId, ctxId, type⟩ := agrees.present
  have verbose := agrees.verbose
  have extended : (headersOf format count line body).extended.isSome = needsExtended line body := by
    simp only [headersOf]
    cases needsExtended line body <;> rfl
  have marked : (headersOf format count line body).extended.any ExtendedHeader.isVerbose =
      (needsExtended line body && body.isVerbose) := by
    simp only [headersOf]
    cases needsExtended line body <;> rfl
  rw [has_apply]
  cases feature with
  | ecuId => exact isSome_written _ _ _
  | sessionId => exact isSome_written _ _ _
  | deviceTimestamp => exact isSome_written _ _ _
  | bigEndian => exact bigEndian
  | logTimestamp => exact (consistent_headersOf format count line body).storage.trans fits.stored.symm
  | appId => exact extended.trans appId.symm
  | ctxId => exact extended.trans ctxId.symm
  | messageType => exact extended.trans type.symm
  | verbose => exact marked.trans verbose.symm

theorem fieldEquals_of {α : Type} [DecidableEq α] {a : LineHeader} {feature : Feature} {x y : α}
    (same : a.features.has feature = true → x = y) : a.fieldEquals feature x y = true := by
  unfold LineHeader.fieldEquals
  cases present : a.features.has feature with
  | false => rfl
  | true =>
    rw [same present, beq_self_eq_true]
    rfl

theorem mem_written {α : Type} {header : LineHeader} {feature : Feature} (value : α)
    (present : header.features.has feature = true) : value ∈ written header feature value := by
  rw [written, if_pos present]
  exact rfl

def sentAs (header : LineHeader) (count : UInt8) : LineHeader :=
  { header with count := some count, time := header.time.carried }

theorem takeHeader_of_recorded {builder : Builder} (recorded : builder.clock = .recorded) :
    builder.takeHeader.1 =
      ⟨builder.features, builder.ecuId, builder.appId, builder.ctxId, builder.count, builder.deviceTime,
        builder.session, builder.time, builder.type, builder.nextNumber, builder.position⟩ := by
  unfold Builder.takeHeader
  rw [recorded]
  rfl

theorem deviceTime_eq (fits : HeaderFits format header) (timed : header.features.has .deviceTimestamp = true) :
    deviceTime (UInt32.ofNat (header.deviceTime.nanoseconds / 100000)) = header.deviceTime := by
  obtain ⟨ticks, small, whole⟩ := fits.deviceTime timed
  have count : header.deviceTime.nanoseconds / 100000 = ticks := by omega
  have short : ticks < 2 ^ 32 := by
    simp only [Bytes.capacity] at small
    omega
  rw [deviceTime, count, UInt32.toNat_ofNat_of_lt' short, tickMicroseconds, Nat.mul_assoc, ← whole]

theorem text_idOrZero {feature : Feature} {id : String} (set : header.features.has feature = true)
    (plain : Ident.Plain id) : Ident.text (idOrZero header feature id) = id := by
  rw [idOrZero, if_pos set, Ident.text_packed plain]

theorem header_apply (fits : HeaderFits format line.header)
    (agrees : Agrees line.header (needsExtended line body) body) :
    (sentAs line.header count).equals
      ((headersOf format count line body).apply fresh).takeHeader.1 = true := by
  have features := features_headersOf count fits agrees
  have filled := filled_apply (headersOf format count line body)
  have extended : ∀ feature ∈ [Feature.appId, .ctxId, .messageType], line.header.features.has feature = true →
      (headersOf format count line body).extended = some (extendedOf line.header body) ∧
        MessageType.ofInfo body.info = line.header.type := by
    intro feature listed set
    have needed : needsExtended line body = true := by
      obtain ⟨appId, ctxId, type⟩ := agrees.present
      simp only [List.mem_cons, List.not_mem_nil, or_false] at listed
      rcases listed with rfl | rfl | rfl
      · exact appId.symm.trans set
      · exact ctxId.symm.trans set
      · exact type.symm.trans set
    exact ⟨extended_headersOf format count needed, agrees.type needed⟩
  rw [takeHeader_of_recorded filled.clock]
  unfold LineHeader.equals
  simp only [Bool.and_eq_true, beq_iff_eq, sentAs]
  refine ⟨⟨⟨⟨⟨⟨⟨⟨features.symm, filled.count.symm⟩, ?_⟩, ?_⟩, ?_⟩, ?_⟩, ?_⟩, ?_⟩, ?_⟩
  · refine fieldEquals_of fun set => ?_
    rw [filled.ecuId _ (mem_written _ set), Ident.text_packed (fits.ecuId set)]
  · refine fieldEquals_of fun set => ?_
    rw [(filled.extended _ (extended .appId (by decide) set).1).2.2.1]
    exact (text_idOrZero set (fits.appId set)).symm
  · refine fieldEquals_of fun set => ?_
    rw [(filled.extended _ (extended .ctxId (by decide) set).1).2.2.2]
    exact (text_idOrZero set (fits.ctxId set)).symm
  · refine fieldEquals_of fun set => ?_
    rw [filled.deviceTime _ (mem_written _ set), deviceTime_eq fits set]
  · refine fieldEquals_of fun set => ?_
    rw [filled.session _ (mem_written _ set)]
  · refine fieldEquals_of fun set => ?_
    have file : format = .file := of_decide_eq_true (fits.stored.symm.trans set)
    have there : (headersOf format count line body).storage = some (storageOf line.header) := by
      simp only [headersOf, file, ↓reduceIte]
    rw [filled.time _ there, storage_time fits set]
  · refine fieldEquals_of fun set => ?_
    obtain ⟨there, type⟩ := extended .messageType (by decide) set
    rw [(filled.extended _ there).1]
    exact type.symm

end Headers

section Finish

open Headers Packet

variable {setting : Setting} {builder : Builder} {payload : Bytes}

theorem takeLine_ordinary (builder : Builder) (ordinary : builder.type.isControl = false) :
    (builder.takeLine.map Prod.fst) = .ok (.normal builder.takeHeader.1 builder.messageId builder.arguments) := by
  unfold Builder.takeLine
  rw [ordinary]
  rfl

theorem finish_eq {filled : Builder} (read : readPayload setting builder payload = .ok filled) :
    (finish setting builder payload).1 = filled.takeLine.map Prod.fst := by
  unfold finish
  rw [read]
  cases taken : filled.takeLine <;> simp only [taken, Except.map]

theorem finish_verbose (setting : Setting) {arguments : List Argument} (ordinary : builder.type.isControl = false)
    (marked : builder.isVerbose = true) (clear : builder.arguments = [])
    (read : Verbose.decode builder.order payload builder.argumentCount.toNat = (arguments, payload.length)) :
    (finish setting builder payload).1 = .ok (.normal builder.takeHeader.1 builder.messageId arguments) := by
  have filled : readPayload setting builder payload = .ok (builder.addArguments arguments) := by
    simp only [readPayload, ordinary, marked, readVerbose, read, Bool.false_eq_true, ↓reduceIte]
  have arguments_eq : (builder.addArguments arguments).arguments = arguments := by
    rw [Builder.addArguments, clear, List.nil_append]
  rw [finish_eq filled, takeLine_ordinary (builder.addArguments arguments) ordinary, arguments_eq]
  rfl

theorem finish_control {control : Control.Payload} (managed : builder.type.isControl = true)
    (read : setting.control.decode builder.type builder.order payload = .ok (control, payload.length)) :
    (finish setting builder payload).1 = .ok (.control builder.takeHeader.1 control) := by
  have within : ¬ payload.length > payload.length + maxPadding := by omega
  have filled : readPayload setting builder payload = .ok (builder.setPayload control) := by
    simp only [readPayload, managed, ↓reduceIte, readControl, read, within, bind, Except.bind, pure, Except.pure]
  have kept : (builder.setPayload control).type.isControl = true := managed
  rw [finish_eq filled, Builder.takeLine, kept]
  rfl

theorem finish_numbered (setting : Setting) (id : UInt32) (data : Bytes) (ordinary : builder.type.isControl = false)
    (unmarked : builder.isVerbose = false) (clear : builder.arguments = [])
    (frameless : setting.nonVerbose.frames = none) :
    (finish setting builder (builder.order.encode 4 id.toNat ++ data)).1 =
      .ok (.normal builder.takeHeader.1 (some id) [.payload data]) := by
  have short : id.toNat < Bytes.capacity 4 := id.toNat_lt
  have long : Bytes.hasAtLeast (builder.order.encode 4 id.toNat ++ data) 4 = true := by
    rw [Bytes.hasAtLeast_iff, List.length_append, ByteOrder.length_encode]
    exact Nat.le_add_right _ _
  have number : UInt32.ofNat (builder.order.decode ((builder.order.encode 4 id.toNat ++ data).take 4)) = id := by
    rw [List.take_left' (ByteOrder.length_encode _ _ _), ByteOrder.decode_encode, Nat.mod_eq_of_lt short,
      UInt32.ofNat_toNat]
  have behind : (builder.order.encode 4 id.toNat ++ data).drop 4 = data :=
    List.drop_left' (ByteOrder.length_encode _ _ _)
  have unknown : NonVerbose.decodeBody? setting.nonVerbose builder id data = none := by
    unfold NonVerbose.decodeBody? NonVerbose.findFrame?
    rw [frameless]
    rfl
  have filled : readPayload setting builder (builder.order.encode 4 id.toNat ++ data) =
      .ok ((builder.setMessageId id).addArgument (.payload data)) := by
    simp only [readPayload, ordinary, unmarked, Bool.false_eq_true, ↓reduceIte, NonVerbose.decode, long, number,
      behind, unknown]
  have arguments_eq : ((builder.setMessageId id).addArgument (.payload data)).arguments = [.payload data] := by
    have kept : (builder.setMessageId id).arguments = [] := clear
    rw [Builder.addArgument, kept, List.nil_append]
  rw [finish_eq filled, takeLine_ordinary ((builder.setMessageId id).addArgument (.payload data)) ordinary,
    arguments_eq]
  rfl

end Finish

section Bodies

open Headers Packet

variable {format : CaptureFormat} {line : Line} {header : LineHeader}

theorem marked_bits (type : MessageType) (known : type ≠ .unknown) :
    MessageType.ofInfo (type.bits ||| Body.verboseBit) = type ∧
    ((type.bits ||| Body.verboseBit) &&& Body.verboseBit != 0) = true ∧
    (type.bits &&& Body.verboseBit != 0) = false := by
  cases type with
  | log level => cases level <;> decide
  | appTrace event => cases event <;> decide
  | networkTrace bus =>
    cases bus with
    | userDefined index => revert index; decide
    | _ => decide
  | control kind => cases kind <;> decide
  | unknown => exact absurd rfl known

def plainSetting (format : CaptureFormat) : Setting :=
  ⟨format, .standard, NonVerbose.Codec.standard.withFrames none⟩

structure BodyTrips (format : CaptureFormat) (line : Line) (body : Body) : Prop where
  written : Body.ofLine .standard line = .ok body
  agrees : Agrees line.header (needsExtended line body) body
  read : ∀ (count : UInt8) (builder : Builder), Filled (headersOf format count line body) builder →
    builder.features = line.header.features →
    (finish (plainSetting format) builder body.payload).1 = .ok (line.withHeader builder.takeHeader.1)

theorem order_of_features {builder : Builder} (same : builder.features = header.features) :
    builder.order = header.order := by
  unfold Builder.order Builder.isBigEndian LineHeader.order LineHeader.isBigEndian
  rw [same]

theorem isVerbose_of_features {builder : Builder} (same : builder.features = header.features) :
    builder.isVerbose = header.isVerbose := by
  unfold Builder.isVerbose LineHeader.isVerbose
  rw [same]

theorem writtenType_eq (set : header.features.has .messageType = true) (known : header.type ≠ .unknown) :
    Body.writtenType header = header.type := by
  have named : (header.type != .unknown) = true := bne_iff_ne.mpr known
  rw [Body.writtenType, set, named]
  rfl

theorem verbose_trips {arguments : List Argument} (marked : header.isVerbose = true)
    (extended : Extended header true) (type : Ordinary header.type) (few : arguments.length ≤ 255)
    (each : ∀ argument ∈ arguments, Verbose.ArgumentFits Verbose.maxDepth argument) :
    ∃ body, BodyTrips format (.normal header none arguments) body := by
  obtain ⟨bs, written, read⟩ := Verbose.arguments_roundTrip header.order each
  obtain ⟨info, bit, _⟩ := marked_bits header.type type.1
  have within : ¬ 255 < arguments.length := Nat.not_lt_of_le few
  let body : Body := ⟨header.type.bits ||| Body.verboseBit, UInt8.ofNat arguments.length, bs⟩
  have needed : needsExtended (.normal header none arguments) body = true := by
    simp only [needsExtended, Body.isVerbose, body, bit, Bool.true_or]
  refine ⟨body, ?_, ?_, ?_⟩
  · simp only [Body.ofLine, Body.ofArguments, within, ↓reduceIte, marked, written,
      writtenType_eq extended.2.2 type.1, Except.map, body]
  · rw [needed]
    refine ⟨extended, ?_, fun _ => info⟩
    exact marked.trans bit.symm
  · intro count builder filled features
    obtain ⟨kind, announced, _, _⟩ := filled.extended _ (extended_headersOf format count needed)
    have type_eq : builder.type = header.type := kind.trans info
    have ordinary : builder.type.isControl = false := by
      rw [type_eq]
      exact type.2
    have read_back : Verbose.decode builder.order bs builder.argumentCount.toNat = (arguments, bs.length) := by
      have counted : (UInt8.ofNat arguments.length).toNat = arguments.length :=
        UInt8.toNat_ofNat_of_le few
      rw [order_of_features features, announced]
      simp only [extendedOf, body, counted]
      exact read
    have finished := finish_verbose (plainSetting format) ordinary
      ((isVerbose_of_features features).trans marked) filled.arguments read_back
    rw [filled.messageId] at finished
    exact finished

theorem writtenType_known (header : LineHeader) : Body.writtenType header ≠ .unknown := by
  unfold Body.writtenType
  split
  · rename_i named
    exact bne_iff_ne.mp (Bool.and_eq_true_iff.mp named).2
  · exact MessageType.noConfusion

theorem ordinary_of_filled {body : Body} {builder : Builder} {count : UInt8}
    (filled : Filled (headersOf format count line body) builder)
    (type : needsExtended line body = true → (MessageType.ofInfo body.info).isControl = false) :
    builder.type.isControl = false := by
  cases needed : needsExtended line body with
  | true =>
    rw [(filled.extended _ (extended_headersOf format count needed)).1]
    exact type needed
  | false =>
    have missing : (headersOf format count line body).extended = none := by
      simp only [headersOf, needed, Bool.false_eq_true, ↓reduceIte]
    rw [filled.plain missing]
    rfl

theorem needsExtended_unmarked {body : Body} {messageId : Option UInt32} {arguments : List Argument}
    {present : Bool} (unmarked : body.isVerbose = false) (extended : Extended header present) :
    needsExtended (.normal header messageId arguments) body = present := by
  obtain ⟨appId, ctxId, type⟩ := extended
  simp only [needsExtended, unmarked, appId, ctxId, type, Bool.false_or, Bool.or_self]

theorem numbered_trips {id : UInt32} {data : Bytes} (unmarked : header.isVerbose = false)
    (extended : (Extended header true ∧ Ordinary header.type) ∨ Extended header false) :
    ∃ body, BodyTrips format (.normal header (some id) [.payload data]) body := by
  obtain ⟨_, _, bit⟩ := marked_bits (Body.writtenType header) (writtenType_known header)
  let body : Body := ⟨(Body.writtenType header).bits, 1, header.order.encode 4 id.toNat ++ data⟩
  have unneeded : body.isVerbose = false := bit
  have present : Extended header (needsExtended (.normal header (some id) [.payload data]) body) := by
    rcases extended with ⟨extended, _⟩ | extended
    · rw [needsExtended_unmarked unneeded extended]
      exact extended
    · rw [needsExtended_unmarked unneeded extended]
      exact extended
  have info : needsExtended (.normal header (some id) [.payload data]) body = true →
      MessageType.ofInfo body.info = header.type ∧ header.type.isControl = false := by
    intro there
    rcases extended with ⟨extended, type⟩ | extended
    · have written := writtenType_eq extended.2.2 type.1
      refine ⟨?_, type.2⟩
      simp only [body, written]
      exact MessageType.ofInfo_bits header.type type.1
    · rw [needsExtended_unmarked unneeded extended] at there
      cases there
  refine ⟨body, ?_, ⟨present, ?_, fun there => (info there).1⟩, ?_⟩
  · simp only [Body.ofLine, Body.ofArguments, unmarked]
    rfl
  · rw [unneeded, Bool.and_false]
    exact unmarked
  · intro count builder filled features
    have ordinary := ordinary_of_filled filled fun there => by
      rw [(info there).1]
      exact (info there).2
    have finished := finish_numbered (plainSetting format) id data ordinary
      ((isVerbose_of_features features).trans unmarked) filled.arguments rfl
    rw [order_of_features features] at finished
    exact finished

theorem isControl_type (payload : Control.Payload) : payload.type.isControl = true := by
  cases payload <;> rfl

theorem control_trips {payload : Control.Payload} (unmarked : header.isVerbose = false)
    (extended : Extended header true) (type : header.type = payload.type) (fits : Control.PayloadFits payload)
    (short : Short (.control header payload)) : ∃ body, BodyTrips format (.control header payload) body := by
  obtain ⟨bs, written, read⟩ := Control.payload_roundTrips header.order fits
  have known : payload.type ≠ .unknown := by cases payload <;> exact MessageType.noConfusion
  have info := MessageType.ofInfo_bits payload.type known
  obtain ⟨_, _, bit⟩ := marked_bits payload.type known
  let body : Body := ⟨payload.type.bits, 0, bs⟩
  have whole : Body.ofLine .standard (.control header payload) = .ok body := by
    simp only [Body.ofLine, Body.ofControl, written, Except.map, body]
  have small : bs.length < Bytes.capacity 4 := by
    have bound := short body whole
    simp only [packetLength, body] at bound
    simp only [Bytes.capacity]
    omega
  have needed : needsExtended (.control header payload) body = true := rfl
  refine ⟨body, whole, ?_, ?_⟩
  · rw [needed]
    refine ⟨extended, ?_, fun _ => info.trans type.symm⟩
    exact unmarked.trans bit.symm
  · intro count builder filled features
    have kind := (filled.extended _ (extended_headersOf format count needed)).1
    have type_eq : builder.type = payload.type := kind.trans info
    have managed : builder.type.isControl = true := by
      rw [type_eq]
      exact isControl_type payload
    refine finish_control managed ?_
    rw [type_eq, order_of_features features]
    exact read small

theorem line_trips (fits : LineFits format line) : ∃ body, BodyTrips format line body := by
  cases fits with
  | verbose fits marked extended type few each short => exact verbose_trips marked extended type few each
  | numbered fits unmarked extended short => exact numbered_trips unmarked extended
  | control fits unmarked extended type payload_fits short =>
    exact control_trips unmarked extended type payload_fits short

end Bodies

section Packets

open Headers

variable {format : CaptureFormat} {line : Line} {count : UInt8}

theorem LineFits.header_fits (fits : LineFits format line) : HeaderFits format line.header := by
  cases fits with
  | verbose fits => exact fits
  | numbered fits => exact fits
  | control fits => exact fits

theorem LineFits.short (fits : LineFits format line) : Short line := by
  cases fits with
  | verbose _ _ _ _ _ _ short => exact short
  | numbered _ _ _ short => exact short
  | control _ _ _ _ _ short => exact short

/-- What a line is read back as: the same contents, and a header that is equal to the one sent with this
counter. -/
def ReadAs (line : Line) (count : UInt8) (read : Line) : Prop :=
  read = line.withHeader read.header ∧ (sentAs line.header count).equals read.header = true

structure PacketTrips (format : CaptureFormat) (line : Line) (count : UInt8) (packet : Bytes) : Prop where
  found : ∀ tail, Finding.ofBytes format (packet ++ tail) = .candidate packet.length
  read : ∃ read, (Packet.decode (plainSetting format) (Builder.start .recorded) packet 0).1 = .ok read ∧
    ReadAs line count read

theorem packet_trips {body : Body} (fits : HeaderFits format line.header) (trips : BodyTrips format line body)
    (short : packetLength (typeOf line.header (needsExtended line body)) body ≤ 65535) (count : UInt8) :
    PacketTrips format line count ((headersOf format count line body).encode format ++ body.payload) := by
  have consistent := consistent_headersOf format count line body
  have version := (has_typeOf line.header (needsExtended line body)).1
  have length : (headersOf format count line body).standard.length.toNat =
      HeaderType.minimumLength (headersOf format count line body).standard.type + body.payload.length :=
    UInt16.toNat_ofNat_of_lt' (Nat.lt_succ_of_le short)
  refine ⟨fun tail => Finding.ofBytes_encode consistent body.payload tail version length, ?_⟩
  have filled := filled_apply (headersOf format count line body)
  have finished := trips.read count _ filled (features_headersOf count fits trips.agrees)
  refine ⟨line.withHeader ((headersOf format count line body).apply fresh).takeHeader.1, ?_, ?_, ?_⟩
  · unfold Packet.decode
    simp only [plainSetting, parse_encode consistent]
    exact finished
  · rw [Line.header_withHeader]
  · rw [Line.header_withHeader]
    exact header_apply fits trips.agrees

/-- A line that fits is written, with its own counter or the next one, in a packet that is read back. -/
theorem encode_trips {encoder : Encoder} (standard : encoder.control = .standard)
    (fits : LineFits encoder.format line) :
    ∃ packet, encoder.encode line =
        .ok (packet, { encoder with nextCount := line.header.count.getD encoder.nextCount + 1 }) ∧
      PacketTrips encoder.format line (line.header.count.getD encoder.nextCount) packet := by
  obtain ⟨body, trips⟩ := line_trips fits
  have short := fits.short body trips.written
  have written : Body.ofLine encoder.control line = .ok body := by
    rw [standard]
    exact trips.written
  refine ⟨_, ?_, packet_trips fits.header_fits trips short _⟩
  simp only [Encoder.encode, written, ofLine_eq fits.header_fits short, bind, Except.bind, pure, Except.pure]

end Packets

end Stream

end DiagTrace
