import DiagTrace.Proofs.Control.Reading
import DiagTrace.Proofs.Stream.Reading
import DiagTrace.Proofs.Stream.RoundTrip

/-!
What a decoder yields can be written again, in its own format or another one, and comes back; only the time of the
capture goes by the format.
-/
namespace DiagTrace

def LineHeader.unstamped (header : LineHeader) : LineHeader :=
  { header with features := header.features.addIf .logTimestamp false, time := .epoch }

namespace Line

structure Regular (line : Line) : Prop where
  whole : line.isSkipped = false
  typed : line.header.features.has .messageType = true → line.header.type ≠ .unknown
  plain : ∀ header payload, line = .control header payload → header.isVerbose = false

/-- The reading of an argument failed, or part of the line has no place on the wire. -/
inductive Unwritable : Line → Prop where
  | argument {header : LineHeader} {messageId : Option UInt32} {arguments : List Argument} {argument : Argument}
      (present : argument ∈ arguments) (reason : argument.isFailure = true ∨ Verbose.Unwritable argument) :
      Unwritable (.normal header messageId arguments)
  | description {header : LineHeader} {payload : Control.Payload} (long : payload.Overlong) :
      Unwritable (.control header payload)

end Line

namespace Stream

open Headers

section Stamp

variable {format : CaptureFormat} {header : LineHeader}

/-- The header as a stream of a format carries it: in a capture file with the time that can be stored, elsewhere
without one. -/
def stampedFor (format : CaptureFormat) (header : LineHeader) : LineHeader :=
  { header with
    features := header.features.addIf .logTimestamp (decide (format = .file))
    time := Timestamp.ofParts (storageOf header).seconds.toNat (storageOf header).microseconds.toNat }

theorem has_stampedFor (format : CaptureFormat) (header : LineHeader) {feature : Feature}
    (other : .logTimestamp ≠ feature) :
    (stampedFor format header).features.has feature = header.features.has feature := by
  rw [stampedFor, Features.has_addIf, if_neg other]

theorem isVerbose_stampedFor (format : CaptureFormat) (header : LineHeader) :
    (stampedFor format header).isVerbose = header.isVerbose :=
  has_stampedFor format header (by decide)

theorem isBigEndian_stampedFor (format : CaptureFormat) (header : LineHeader) :
    (stampedFor format header).isBigEndian = header.isBigEndian :=
  has_stampedFor format header (by decide)

theorem written_stampedFor {α : Type} (format : CaptureFormat) (header : LineHeader) {feature : Feature}
    (other : .logTimestamp ≠ feature) (value : α) :
    written (stampedFor format header) feature value = written header feature value := by
  rw [written, written, has_stampedFor format header other]

theorem idOrZero_stampedFor (format : CaptureFormat) (header : LineHeader) {feature : Feature}
    (other : .logTimestamp ≠ feature) (id : String) :
    idOrZero (stampedFor format header) feature id = idOrZero header feature id := by
  rw [idOrZero, idOrZero, has_stampedFor format header other]

theorem storage_of_time {seconds microseconds : UInt32} (stamped : header.features.has .logTimestamp = true)
    (time : header.time = Timestamp.ofParts seconds.toNat microseconds.toNat)
    (ordinary : microseconds.toNat < 1000000) :
    (storageOf header).seconds = seconds ∧ (storageOf header).microseconds = microseconds := by
  have read : (written header .logTimestamp header.time).getD .epoch = header.time := by
    rw [written, if_pos stamped]
    rfl
  have small := seconds.toNat_lt
  have whole : TwosComplement.encode 4 header.time.seconds = seconds.toNat := by
    simp only [TwosComplement.encode, Bytes.capacity, time, Timestamp.ofParts]
    omega
  have fraction : header.time.nanoseconds / 1000 = microseconds.toNat := by
    simp only [time, Timestamp.ofParts]
    omega
  simp only [storageOf, read, whole, fraction, UInt32.ofNat_toNat, and_self]

theorem storage_ordinary (ordinary : header.features.has .logTimestamp = true → header.time.nanoseconds < 1000000000) :
    (storageOf header).microseconds.toNat < 1000000 := by
  have small : ((written header .logTimestamp header.time).getD .epoch).nanoseconds < 1000000000 := by
    unfold written
    split
    · rename_i stamped
      exact ordinary stamped
    · exact Nat.zero_lt_succ _
  simp only [storageOf, UInt32.toNat_ofNat']
  omega

theorem storage_stampedFor (ordinary : (storageOf header).microseconds.toNat < 1000000) :
    storageOf (stampedFor .file header) = storageOf header := by
  have stamped : (stampedFor .file header).features.has .logTimestamp = true := by
    rw [stampedFor, Features.has_addIf, if_pos rfl]
    rfl
  obtain ⟨seconds, microseconds⟩ := storage_of_time stamped rfl ordinary
  have ecuId : (storageOf (stampedFor .file header)).ecuId = (storageOf header).ecuId :=
    idOrZero_stampedFor .file header (by decide) header.ecuId
  cases kept : storageOf (stampedFor .file header)
  cases stored : storageOf header
  simp only [kept, stored] at seconds microseconds ecuId
  rw [seconds, microseconds, ecuId]

end Stamp

section Same

variable {format : CaptureFormat} {line : Line}

def restamped (format : CaptureFormat) (line : Line) : Line := line.withHeader (stampedFor format line.header)

theorem body_restamped (registry : Control.Registry) (format : CaptureFormat) (line : Line) :
    Body.ofLine registry (restamped format line) = Body.ofLine registry line := by
  have order : ∀ header, (stampedFor format header).order = header.order := by
    intro header
    rw [LineHeader.order, LineHeader.order, isBigEndian_stampedFor]
  have type : ∀ header, Body.writtenType (stampedFor format header) = Body.writtenType header := by
    intro header
    rw [Body.writtenType, has_stampedFor format header (by decide)]
    rfl
  cases line with
  | normal header messageId arguments =>
    simp only [restamped, Line.withHeader, Line.header, Body.ofLine, Body.ofArguments, order, type,
      isVerbose_stampedFor]
  | control header payload =>
    simp only [restamped, Line.withHeader, Line.header, Body.ofLine, Body.ofControl, order]
  | skipped header bytes reason => rfl

theorem needsExtended_restamped (format : CaptureFormat) (line : Line) (body : Body) :
    needsExtended (restamped format line) body = needsExtended line body := by
  cases line with
  | normal header messageId arguments =>
    simp only [restamped, Line.withHeader, Line.header, needsExtended, has_stampedFor, ne_eq, reduceCtorEq,
      not_false_eq_true]
  | control header payload => rfl
  | skipped header bytes reason => rfl

theorem typeOf_stampedFor (format : CaptureFormat) (header : LineHeader) (extended : Bool) :
    typeOf (stampedFor format header) extended = typeOf header extended := by
  simp only [typeOf, isBigEndian_stampedFor, has_stampedFor, ne_eq, reduceCtorEq, not_false_eq_true]

theorem headers_restamped (format : CaptureFormat) (count : UInt8) (line : Line) (body : Body)
    (ordinary : (storageOf line.header).microseconds.toNat < 1000000) :
    Headers.ofLine format count (restamped format line) body = Headers.ofLine format count line body := by
  have ticks : ticksOf (stampedFor format line.header) = ticksOf line.header := by
    rw [ticksOf, ticksOf, written_stampedFor format line.header (by decide)]
    rfl
  have extended : extendedOf (stampedFor format line.header) body = extendedOf line.header body := by
    simp only [extendedOf, idOrZero_stampedFor, ne_eq, reduceCtorEq, not_false_eq_true]
    rfl
  have storage : (if format = .file then some (storageOf (stampedFor format line.header)) else none) =
      if format = .file then some (storageOf line.header) else none := by
    split
    · rename_i file
      rw [file, storage_stampedFor ordinary]
    · rfl
  have header : (restamped format line).header = stampedFor format line.header := Line.header_withHeader ..
  simp only [Headers.ofLine, header, needsExtended_restamped, typeOf_stampedFor, ticks, extended, storage,
    written_stampedFor, ne_eq, reduceCtorEq, not_false_eq_true]
  rfl

theorem encode_restamped (encoder : Encoder) (line : Line)
    (ordinary : (storageOf line.header).microseconds.toNat < 1000000) :
    encoder.encode (restamped encoder.format line) = encoder.encode line := by
  have count : (restamped encoder.format line).header.count = line.header.count := by
    rw [restamped, Line.header_withHeader]
    rfl
  simp only [Encoder.encode, body_restamped, count, headers_restamped _ _ _ _ ordinary]

end Same

section Fitting

variable {format other : CaptureFormat} {packet : Bytes} {line : Line} {body : Body}

theorem ordinary_of_read {header : LineHeader} (read : HeaderRead format packet header) :
    (storageOf header).microseconds.toNat < 1000000 := by
  refine storage_ordinary fun stamped => ?_
  have file : format = .file := of_decide_eq_true (read.stored.symm.trans stamped)
  obtain ⟨storage, _, time⟩ := read.time file
  rw [time]
  exact Timestamp.ofParts_ordinary ..

theorem headerFits_of_read {header : LineHeader} (read : HeaderRead format packet header) (other : CaptureFormat) :
    HeaderFits other (stampedFor other header) := by
  have ordinary := ordinary_of_read read
  have has : ∀ feature, .logTimestamp ≠ feature →
      (stampedFor other header).features.has feature = header.features.has feature :=
    fun feature apart => has_stampedFor other header apart
  constructor
  case proper => exact Features.proper_addIf read.proper .logTimestamp _
  case ecuId => exact fun set => read.ecuId ((has .ecuId (by decide)).symm.trans set)
  case appId => exact fun set => read.appId ((has .appId (by decide)).symm.trans set)
  case ctxId => exact fun set => read.ctxId ((has .ctxId (by decide)).symm.trans set)
  case deviceTime =>
    intro set
    obtain ⟨ticks, time⟩ := read.deviceTime ((has .deviceTimestamp (by decide)).symm.trans set)
    refine ⟨ticks.toNat, ticks.toNat_lt, ?_⟩
    have same : (stampedFor other header).deviceTime = deviceTime ticks := time
    rw [same, deviceTime, tickMicroseconds, Nat.mul_assoc]
  case stored => exact (Features.has_addIf ..).trans (if_pos rfl)
  case time =>
    intro _
    have small := (storageOf header).seconds.toNat_lt
    simp only [stampedFor, Timestamp.ofParts, Bytes.capacity]
    omega

theorem body_verbose {header : LineHeader} {arguments : List Argument} (marked : header.isVerbose = true)
    (few : arguments.length ≤ 255) :
    Body.ofLine .standard (.normal header none arguments) =
      (Verbose.argumentFields header.order arguments).map fun data =>
        ⟨(Body.writtenType header).bits ||| Body.verboseBit, UInt8.ofNat arguments.length, data⟩ := by
  simp only [Body.ofLine, Body.ofArguments, Nat.not_lt_of_le few, ↓reduceIte, marked]

theorem typed_of_marked {header : LineHeader} (read : HeaderRead format packet header)
    (marked : header.isVerbose = true) : header.features.has .messageType = true := by
  cases set : header.features.has .messageType with
  | true => rfl
  | false =>
    rw [(read.bare set).2] at marked
    cases marked

theorem extended_stampedFor {header : LineHeader} {present : Bool} (extended : Extended header present) :
    Extended (stampedFor other header) present := by
  obtain ⟨appId, ctxId, type⟩ := extended
  exact ⟨(has_stampedFor other header (by decide)).trans appId, (has_stampedFor other header (by decide)).trans ctxId,
    (has_stampedFor other header (by decide)).trans type⟩

theorem extended_of_typed {header : LineHeader} (read : HeaderRead format packet header)
    (typed : header.features.has .messageType = true) : Extended (stampedFor other header) true :=
  extended_stampedFor (typed ▸ read.extended)

theorem lineFits_of_read (read : HeaderRead format packet line.header) (contents : BodyRead line)
    (regular : line.Regular) (written : Body.ofLine .standard line = .ok body)
    (short : packetLength (typeOf line.header (needsExtended line body)) body ≤ 65535) :
    LineFits other (restamped other line) := by
  have fits := headerFits_of_read read other
  have short_stamped : Short (restamped other line) := by
    intro found same
    rw [body_restamped, written] at same
    cases same
    rw [needsExtended_restamped, restamped, Line.header_withHeader, typeOf_stampedFor]
    exact short
  cases contents with
  | @verbose header arguments marked ordinary few each =>
    have typed := typed_of_marked read marked
    rw [body_verbose marked few] at written
    obtain ⟨data, fields, _⟩ := ok_of_map written
    exact .verbose fits ((isVerbose_stampedFor other header).trans marked) (extended_of_typed read typed)
      ⟨regular.typed typed, ordinary⟩ few (Verbose.fits_of_written each fields) short_stamped
  | @numbered header id data unmarked ordinary =>
    refine .numbered fits ((isVerbose_stampedFor other header).trans unmarked) ?_ short_stamped
    cases typed : header.features.has .messageType with
    | true => exact .inl ⟨extended_of_typed read typed, regular.typed typed, ordinary⟩
    | false => exact .inr (extended_stampedFor (typed ▸ read.extended))
  | @control header payload type shape =>
    have typed : header.features.has .messageType = true := by
      cases set : header.features.has .messageType with
      | true => rfl
      | false =>
        have unknown : header.type = .unknown := (read.bare set).1
        have managed := isControl_type payload
        rw [type, unknown] at managed
        cases managed
    obtain ⟨data, encoded, _⟩ := ok_of_map written
    have payload_fits := shape.resolve_right fun long => Control.overlong_refused header.order long data encoded
    exact .control fits ((isVerbose_stampedFor other header).trans (regular.plain header payload rfl))
      (extended_of_typed read typed) type.symm payload_fits short_stamped

theorem unwritable_of_refused {fault : Fault} (contents : BodyRead line)
    (refused : Body.ofLine .standard line = .error fault) : line.Unwritable := by
  cases contents with
  | @verbose header arguments marked ordinary few each =>
    rw [body_verbose marked few] at refused
    obtain ⟨argument, present, reason⟩ := Verbose.written_or_unwritable each (error_of_map refused)
    exact .argument present reason
  | @numbered header id data unmarked ordinary =>
    simp only [Body.ofLine, Body.ofArguments, unmarked] at refused
    cases refused
  | @control header payload type shape =>
    rcases shape with fits | long
    · obtain ⟨bs, written, _⟩ := Control.payload_roundTrips header.order fits
      have encoded := error_of_map refused
      rw [written] at encoded
      cases encoded
    · exact .description long

end Fitting

section Packets

variable {format : CaptureFormat} {packet : Bytes} {line : Line}

theorem encode_inv {encoder next : Encoder} {packet : Bytes} (written : encoder.encode line = .ok (packet, next)) :
    ∃ body, Body.ofLine encoder.control line = .ok body ∧
      packetLength (typeOf line.header (needsExtended line body)) body ≤ 65535 := by
  obtain ⟨body, contents, rest⟩ := of_bind written
  refine ⟨body, contents, ?_⟩
  obtain ⟨headers, announced, _⟩ := of_bind rest
  obtain ⟨ticks, _, counted⟩ := of_bind announced
  simp only at counted
  split at counted
  · cases counted
  · rename_i within
    exact Nat.le_of_not_lt within

theorem ofLine_long {count : UInt8} {body : Body} (fits : HeaderFits format line.header)
    (long : 65535 < packetLength (typeOf line.header (needsExtended line body)) body) :
    Headers.ofLine format count line body =
      .error (.packetTooLong (packetLength (typeOf line.header (needsExtended line body)) body)) := by
  simp only [Headers.ofLine, ticksOf_eq fits, long, ↓reduceIte, bind, Except.bind]
  rfl

/-- The packet of a line, from its standard header on, is longer than the 16 bits of its length can say. -/
structure Outgrown (line : Line) (length : Nat) : Prop where
  long : 65535 < length
  measured : ∃ body, Body.ofLine .standard line = .ok body ∧
    length = packetLength (typeOf line.header (needsExtended line body)) body

/-- Apart from what has no place on the wire, a line that was read is refused for the length of its packet only. -/
theorem reason_of_refused {encoder : Encoder} {fault : Fault} (standard : encoder.control = .standard)
    (read : HeaderRead format packet line.header) (contents : BodyRead line)
    (refused : encoder.encode line = .error fault) :
    line.Unwritable ∨ ∃ length, Outgrown line length ∧ fault = .packetTooLong length := by
  cases written : Body.ofLine .standard line with
  | error other => exact .inl (unwritable_of_refused contents written)
  | ok body =>
    right
    -- Seconds carried over from the microseconds may not fit their field, so the headers are those of the line as it
    -- is restamped.
    rw [← encode_restamped encoder line (ordinary_of_read read)] at refused
    have stamp : (restamped encoder.format line).header = stampedFor encoder.format line.header :=
      Line.header_withHeader ..
    have fits : HeaderFits encoder.format (restamped encoder.format line).header := by
      rw [stamp]
      exact headerFits_of_read read encoder.format
    have body_stamped : Body.ofLine encoder.control (restamped encoder.format line) = .ok body := by
      rw [standard, body_restamped, written]
    have same_length : packetLength (typeOf (restamped encoder.format line).header
        (needsExtended (restamped encoder.format line) body)) body =
          packetLength (typeOf line.header (needsExtended line body)) body := by
      rw [needsExtended_restamped, stamp, typeOf_stampedFor]
    rcases Nat.lt_or_ge 65535 (packetLength (typeOf line.header (needsExtended line body)) body) with long | short
    · rw [← same_length] at long
      simp only [Encoder.encode, body_stamped, ofLine_long fits long, bind, Except.bind] at refused
      cases refused
      exact ⟨_, ⟨long, body, written, same_length⟩, rfl⟩
    · rw [← same_length] at short
      simp only [Encoder.encode, body_stamped, ofLine_eq fits short, bind, Except.bind] at refused
      cases refused

theorem sentAs_stampedFor (other : CaptureFormat) {header : LineHeader} (next : UInt8)
    (counted : header.count.isSome = true) :
    sentAs (stampedFor other header) (header.count.getD next) = stampedFor other header := by
  obtain ⟨count, own⟩ := Option.isSome_iff_exists.mp counted
  have carried : (stampedFor other header).time.carried = (stampedFor other header).time :=
    Timestamp.carried_eq (Timestamp.ofParts_ordinary ..)
  have same : (stampedFor other header).count = some (header.count.getD next) := by
    rw [own]
    exact own
  rw [sentAs, carried, ← same]

/-- What is written for a line that was read comes back as the line, with the time that can be stored. -/
theorem comes_back_restamped {encoder next : Encoder} {written : Bytes} (standard : encoder.control = .standard)
    (read : HeaderRead format packet line.header) (contents : BodyRead line) (regular : line.Regular)
    (encoded : encoder.encode line = .ok (written, next)) :
    ∃ again, ((Decoder.standard encoder.format .recorded none).decodeAll written).1 = [again] ∧
      again = line.withHeader again.header ∧
      (stampedFor encoder.format line.header).equals again.header = true := by
  obtain ⟨body, contents_written, short⟩ := encode_inv encoded
  rw [standard] at contents_written
  have fits : LineFits encoder.format (restamped encoder.format line) :=
    lineFits_of_read read contents regular contents_written short
  obtain ⟨bytes, stamped, trips⟩ := encode_trips standard fits
  rw [encode_restamped encoder line (ordinary_of_read read), encoded] at stamped
  cases stamped
  have packets : List.Forall₂ (fun sent packet => PacketTrips encoder.format sent.1 sent.2 packet)
      [(restamped encoder.format line, (restamped encoder.format line).header.count.getD encoder.nextCount)]
      [written] := .cons trips .nil
  obtain ⟨lines, silent⟩ := Decoder.feed_packets packets
  rw [List.flatten_singleton] at lines silent
  cases fed : ((Decoder.standard encoder.format .recorded none).feed written).1 with
  | nil =>
    rw [fed] at lines
    cases lines
  | cons again others =>
    rw [fed] at lines
    obtain ⟨same, none_left⟩ := List.forall₂_cons.mp lines
    cases List.forall₂_nil_left_iff.mp none_left
    obtain ⟨whole, header⟩ := same
    have stamp : (restamped encoder.format line).header = stampedFor encoder.format line.header :=
      Line.header_withHeader ..
    rw [stamp] at header
    have own : (stampedFor encoder.format line.header).count = line.header.count := rfl
    rw [own, sentAs_stampedFor _ _ read.count] at header
    refine ⟨again, ?_, ?_, header⟩
    · simp only [Decoder.decodeAll, fed, silent, List.append_nil]
    · rw [whole, restamped]
      cases line <;> rfl

end Packets

section Equality

variable {format : CaptureFormat} {packet : Bytes} {a b header : LineHeader}

theorem unstamped_stampedFor (proper : Features.Proper header.features) (format : CaptureFormat) :
    (stampedFor format header).unstamped = header.unstamped := by
  simp only [LineHeader.unstamped, stampedFor, Features.addIf_addIf proper]

theorem equals_unstamped (same : a.equals b = true) : a.unstamped.equals b.unstamped = true := by
  have kept : ∀ {α : Type} [DecidableEq α] {feature : Feature} {x y : α}, a.fieldEquals feature x y = true →
      a.unstamped.fieldEquals feature x y = true := by
    intro α _ feature x y equal
    rw [LineHeader.fieldEquals, LineHeader.unstamped, Features.has_addIf]
    split
    · rfl
    · exact equal
  unfold LineHeader.equals at same ⊢
  simp only [Bool.and_eq_true, beq_iff_eq] at same ⊢
  obtain ⟨⟨⟨⟨⟨⟨⟨⟨features, count⟩, ecuId⟩, appId⟩, ctxId⟩, deviceTime⟩, session⟩, time⟩,
    type⟩ := same
  refine ⟨⟨⟨⟨⟨⟨⟨⟨?_, count⟩, kept ecuId⟩, kept appId⟩, kept ctxId⟩, kept deviceTime⟩,
    kept session⟩, ?_⟩, kept type⟩
  · rw [LineHeader.unstamped, LineHeader.unstamped, features]
  · exact fieldEquals_of fun _ => rfl

theorem stampedFor_file {storage : StorageHeader} (proper : Features.Proper header.features)
    (stamped : header.features.has .logTimestamp = true)
    (time : header.time = Timestamp.ofParts storage.seconds.toNat storage.microseconds.toNat)
    (ordinary : storage.microseconds.toNat < 1000000) : stampedFor .file header = header := by
  obtain ⟨seconds, microseconds⟩ := storage_of_time stamped time ordinary
  have features : header.features.addIf .logTimestamp (decide (CaptureFormat.file = .file)) = header.features := by
    refine Features.eq_of_has (Features.proper_addIf proper _ _) proper fun feature => ?_
    rw [Features.has_addIf]
    split
    · rename_i same
      rw [← same, stamped]
      rfl
    · rfl
  rw [stampedFor, seconds, microseconds, ← time, features]

end Equality

namespace Session

/-- What a decoder without frames yields from any bytes can be written back. Each regular line that an encoder of any
format takes comes back as one line: it has the same contents, and a header that is equal but for the time of the
capture, or equal throughout from one capture file to another if the time was stored with less than a second of
microseconds. An encoder refuses only lines that part of has no place on the wire, and packets that are too long. -/
theorem lines_can_be_written_back (format : CaptureFormat) (calls : List Call)
    (steady : ∀ call ∈ calls, call.keepsSetting = true) (encoder : Encoder) (standard : encoder.control = .standard) :
    let session := (Session.start (plainSetting format)).run calls
    ∀ line ∈ session.lines, line.Regular →
      (∀ packet next, encoder.encode line = .ok (packet, next) →
        ∃ again, ((Decoder.standard encoder.format .recorded none).decodeAll packet).1 = [again] ∧
          again = line.withHeader again.header ∧
          line.header.unstamped.equals again.header.unstamped = true ∧
          (format = .file → encoder.format = .file → ∃ storage,
            StorageHeader.parse (session.fed.drop line.header.position) = .ok storage ∧
            (storage.microseconds.toNat < 1000000 → line.header.equals again.header = true))) ∧
      (∀ fault, encoder.encode line = .error fault →
        line.Unwritable ∨ ∃ length, Outgrown line length ∧ fault = .packetTooLong length) := by
  intro session line present regular
  obtain ⟨_, origins⟩ := lines_readFrom (plainSetting format) calls steady
  obtain ⟨position, number, length, fresh, inside, decoded, rfl⟩ := origins line present regular.whole
  have read := headerRead_placedAt (decode_read decoded).1 position number
  have body := bodyRead_placedAt (decode_read decoded).2 position number
  refine ⟨fun packet next encoded => ?_, fun fault refused => reason_of_refused standard read body refused⟩
  obtain ⟨again, lines, contents, same⟩ := comes_back_restamped standard read body regular encoded
  have unstamped := equals_unstamped same
  rw [unstamped_stampedFor read.proper] at unstamped
  refine ⟨again, lines, contents, unstamped, ?_⟩
  rintro rfl file
  obtain ⟨storage, stored, time⟩ := read.time rfl
  have there : (fresh.placedAt position number).header.position = position := by
    rw [Line.placedAt, Line.header_withHeader]
  refine ⟨storage, ?_, fun ordinary => ?_⟩
  · have whole := StorageHeader.parse_append stored ((session.fed.drop position).drop length)
    rw [List.take_append_drop] at whole
    rw [there]
    exact whole
  · rw [file, stampedFor_file read.proper (read.stored.trans rfl) time ordinary] at same
    exact same

def clipped : Bytes := [0x21, 7, 0, 16, 0x40, 0, 0xC1, 0x50, 0x50, 0, 0x43, 0x54, 0x58, 0, 9, 9]

def clippedLine : Line :=
  .normal
    { LineHeader.blank with
      features := Features.ofList [.appId, .ctxId, .messageType]
      appId := "APP", ctxId := "CTX", count := some 7, type := .log .info }
    (some 0) [.payload []]

def mended : Bytes :=
  [0x44, 0x4C, 0x53, 0x01, 0x21, 7, 0, 18, 0x40, 1, 0x41, 0x50, 0x50, 0, 0x43, 0x54, 0x58, 0, 0, 0, 0, 0]

def unfinished : Bytes :=
  [0x21, 8, 0, 18, 0x41, 1, 0x41, 0x50, 0x50, 0, 0x43, 0x54, 0x58, 0, 0x42, 0, 0, 0]

def unfinishedLine : Line :=
  .normal
    { LineHeader.blank with
      features := Features.ofList [.appId, .ctxId, .messageType, .verbose]
      appId := "APP", ctxId := "CTX", count := some 8, type := .log .info }
    none [.failure "arg 1 of 1: Invalid data: need 2 bytes, only 0 remaining"]

theorem mem_lines_of_move {format : CaptureFormat} {packet : Bytes} {line : Line} {after : Builder}
    (move : Move.next (plainSetting format) false ⟨packet, 0⟩ (Builder.start .recorded) =
      .packet packet.length line after)
    (reported : after.skip.bytes = 0) : line ∈ ((Session.start (plainSetting format)).run [.feed packet]).lines := by
  have nothing_held : (Session.start (plainSetting format)).decoder.heldBack = none := rfl
  have swept := congrArg Sweep.lines (Sweep.run_alone move reported)
  rw [run_singleton, lines_feed nothing_held]
  exact List.mem_append_right _ (swept.symm ▸ List.mem_cons_self)

theorem clippedLine_yielded : clippedLine ∈ ((Session.start (plainSetting .network)).run [.feed clipped]).lines := by
  obtain ⟨after, move, reported⟩ : ∃ after, Move.next (plainSetting .network) false ⟨clipped, 0⟩
      (Builder.start .recorded) = .packet 16 clippedLine after ∧ after.skip.bytes = 0 := ⟨_, rfl, rfl⟩
  exact mem_lines_of_move move reported

theorem unfinishedLine_yielded :
    unfinishedLine ∈ ((Session.start (plainSetting .network)).run [.feed unfinished]).lines := by
  obtain ⟨after, move, reported⟩ : ∃ after, Move.next (plainSetting .network) false ⟨unfinished, 0⟩
      (Builder.start .recorded) = .packet 18 unfinishedLine after ∧ after.skip.bytes = 0 := ⟨_, rfl, rfl⟩
  exact mem_lines_of_move move reported

theorem clipped_written_back_unfinished_refused :
    (∀ call ∈ [Call.feed clipped, .feed unfinished], call.keepsSetting = true) ∧
    (clippedLine ∈ ((Session.start (plainSetting .network)).run [.feed clipped]).lines ∧ clippedLine.Regular ∧
      Encoder.encode ⟨.serial, .standard, 0⟩ clippedLine = .ok (mended, ⟨.serial, .standard, 8⟩) ∧
      ∃ again, ((Decoder.standard .serial .recorded none).decodeAll mended).1 = [again] ∧
        again = clippedLine.withHeader again.header ∧
        clippedLine.header.unstamped.equals again.header.unstamped = true) ∧
    unfinishedLine ∈ ((Session.start (plainSetting .network)).run [.feed unfinished]).lines ∧ unfinishedLine.Regular ∧
      ∃ fault, Encoder.encode ⟨.serial, .standard, 0⟩ unfinishedLine = .error fault ∧ unfinishedLine.Unwritable := by
  have regular : clippedLine.Regular :=
    ⟨rfl, fun _ => MessageType.noConfusion, fun header payload other => nomatch other⟩
  have regular_unfinished : unfinishedLine.Regular :=
    ⟨rfl, fun _ => MessageType.noConfusion, fun header payload other => nomatch other⟩
  have encoded : Encoder.encode ⟨.serial, .standard, 0⟩ clippedLine = .ok (mended, ⟨.serial, .standard, 8⟩) := rfl
  obtain ⟨again, lines, contents, same, _⟩ := (lines_can_be_written_back .network [.feed clipped] (by decide)
    ⟨.serial, .standard, 0⟩ rfl clippedLine clippedLine_yielded regular).1 mended _ encoded
  obtain ⟨cause, refused, other⟩ : ∃ cause, Encoder.encode ⟨.serial, .standard, 0⟩ unfinishedLine = .error cause ∧
      ∀ length, cause ≠ .packetTooLong length := ⟨_, rfl, fun _ => Fault.noConfusion⟩
  have explained := (lines_can_be_written_back .network [.feed unfinished] (by decide)
    ⟨.serial, .standard, 0⟩ rfl unfinishedLine unfinishedLine_yielded regular_unfinished).2 cause refused
  have unwritable := explained.resolve_right fun ⟨length, _, long⟩ => other length long
  exact ⟨by decide, ⟨clippedLine_yielded, regular, encoded, again, lines, contents, same⟩, unfinishedLine_yielded,
    regular_unfinished, cause, refused, unwritable⟩

end Session

end Stream

end DiagTrace
