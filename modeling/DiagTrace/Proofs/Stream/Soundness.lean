import DiagTrace.Proofs.Stream.Encoding
import DiagTrace.Proofs.Stream.PacketRoundTrip
import DiagTrace.Proofs.Stream.Sweep

/-!
Packets as sound frames. Whatever a line is like and whatever its services write, the packet that is made of it is found
at its whole length, its headers say what the features of the line say, and behind them stands what was to be written.
The services are any function here (`packetOf`), and `encode_eq_packetOf` says that an encoder makes its packets so
with those of its registry.
-/
namespace DiagTrace

namespace Line

def isControl : Line → Bool
  | control .. => true
  | _ => false

def isWrittenVerbose : Line → Bool
  | normal header messageId _ => header.isVerbose || messageId.isNone
  | _ => false

end Line

namespace Stream

abbrev Services := ByteOrder → Control.Payload → Except Fault Bytes

namespace Body

variable {services : Services} {line : Line} {body : Body}

def make (services : Services) : Line → Except Fault Body
  | .normal header messageId arguments => ofArguments header messageId arguments
  | .control header payload =>
    (services header.order payload).map fun data => ⟨payload.type.bits, 0, data⟩
  | .skipped .. => .error .skippedLine

theorem make_registry (registry : Control.Registry) (line : Line) :
    make registry.encode line = ofLine registry line := by
  cases line <;> rfl

def contents (services : Services) : Line → Except Fault Bytes
  | .normal header messageId arguments =>
    match header.isVerbose, messageId with
    | false, some id => rawPayload header.order id arguments
    | _, _ => Verbose.argumentFields header.order arguments
  | .control header payload => services header.order payload
  | .skipped .. => .error .skippedLine

theorem ofArguments_ok (services : Services) {header : LineHeader} {messageId : Option UInt32}
    {arguments : List Argument} (made : ofArguments header messageId arguments = .ok body) :
    contents services (.normal header messageId arguments) = .ok body.payload ∧
      body.isVerbose = (header.isVerbose || messageId.isNone) := by
  obtain ⟨_, marked, unmarked⟩ := marked_bits (writtenType header) (writtenType_known header)
  unfold ofArguments at made
  simp only at made
  split at made
  · cases made
  · cases flag : header.isVerbose with
    | true =>
      simp only [flag] at made
      obtain ⟨data, written, rfl⟩ := ok_of_map made
      simp only [contents, flag]
      exact ⟨written, marked⟩
    | false =>
      cases messageId with
      | none =>
        simp only [flag] at made
        obtain ⟨data, written, rfl⟩ := ok_of_map made
        simp only [contents, flag]
        exact ⟨written, marked⟩
      | some id =>
        simp only [flag] at made
        obtain ⟨data, written, rfl⟩ := ok_of_map made
        simp only [contents, flag]
        exact ⟨written, unmarked⟩

theorem make_ok (made : make services line = .ok body) :
    contents services line = .ok body.payload ∧
      Headers.needsExtended line body =
        (line.isControl || line.isWrittenVerbose || line.header.features.has .appId
          || line.header.features.has .ctxId || line.header.features.has .messageType) := by
  cases line with
  | normal header messageId arguments =>
    obtain ⟨written, verbose⟩ := ofArguments_ok services made
    refine ⟨written, ?_⟩
    simp only [Headers.needsExtended, verbose, Line.isControl, Line.isWrittenVerbose, Line.header, Bool.false_or]
  | control header payload =>
    obtain ⟨data, written, rfl⟩ := ok_of_map made
    exact ⟨written, rfl⟩
  | skipped header bytes reason => cases made

end Body

namespace Headers

variable {format : CaptureFormat} {count : UInt8} {line : Line} {body : Body} {headers : Headers}

structure MadeFor (format : CaptureFormat) (line : Line) (body : Body) (headers : Headers) : Prop where
  storage : headers.storage = if format = .file then some (storageOf line.header) else none
  type : headers.standard.type = typeOf line.header (needsExtended line body)
  length : headers.standard.length.toNat = HeaderType.minimumLength headers.standard.type + body.payload.length
  ecuId : headers.standard.ecuId = written line.header .ecuId (Ident.packed line.header.ecuId)
  session : headers.standard.session = written line.header .sessionId line.header.session
  ticks : ticksOf line.header = .ok headers.standard.ticks
  extended : headers.extended = if needsExtended line body then some (extendedOf line.header body) else none

theorem ofLine_made (announced : ofLine format count line body = .ok headers) : MadeFor format line body headers := by
  obtain ⟨ticks, counted, rest⟩ := of_bind announced
  simp only at rest
  split at rest
  · cases rest
  · rename_i within
    cases rest
    have short : packetLength (typeOf line.header (needsExtended line body)) body < 2 ^ 16 := by omega
    exact ⟨rfl, rfl, UInt16.toNat_ofNat_of_lt' short, rfl, rfl, counted, rfl⟩

theorem isSome_of_ticksOf {header : LineHeader} {ticks : Option UInt32} (counted : ticksOf header = .ok ticks) :
    ticks.isSome = header.features.has .deviceTimestamp := by
  unfold ticksOf written at counted
  cases timed : header.features.has .deviceTimestamp with
  | false =>
    rw [timed] at counted
    cases counted
    rfl
  | true =>
    rw [timed] at counted
    obtain ⟨count, _, rfl⟩ := ok_of_map counted
    rfl

namespace MadeFor

theorem consistent (made : MadeFor format line body headers) : Consistent format headers := by
  obtain ⟨_, extended, _, ecuId, session, ticks⟩ := has_typeOf line.header (needsExtended line body)
  rw [← made.type] at extended ecuId session ticks
  refine ⟨?_, ⟨?_, ?_, ?_⟩, ?_⟩
  · rw [made.storage]
    cases format <;> rfl
  · rw [made.ecuId, ecuId, isSome_written]
  · rw [made.session, session, isSome_written]
  · rw [isSome_of_ticksOf made.ticks, ticks]
  · rw [StandardHeader.hasExtended, extended, made.extended]
    cases needsExtended line body <;> rfl

theorem version (made : MadeFor format line body headers) :
    headers.standard.type &&& HeaderType.versionMask = HeaderType.version1 := by
  rw [made.type]
  exact (has_typeOf _ _).1

end MadeFor

/-- What headers say of the line that they were written for. -/
structure Announces (line : Line) (headers : Headers) : Prop where
  version : headers.standard.type &&& HeaderType.versionMask = HeaderType.version1
  order : headers.standard.isBigEndian = line.header.isBigEndian
  ecuId : headers.standard.ecuId.isSome = line.header.features.has .ecuId
  session : headers.standard.session = if line.header.features.has .sessionId then some line.header.session else none
  ticks : headers.standard.ticks.isSome = line.header.features.has .deviceTimestamp
  announced : headers.standard.hasExtended = headers.extended.isSome
  extended : headers.extended.isSome = (line.isControl || line.isWrittenVerbose || line.header.features.has .appId
    || line.header.features.has .ctxId || line.header.features.has .messageType)

theorem MadeFor.announces {services : Services} (made : MadeFor format line body headers)
    (given : Body.make services line = .ok body) : Announces line headers := by
  obtain ⟨_, _, bigEndian, _⟩ := has_typeOf line.header (needsExtended line body)
  constructor
  case version => exact made.version
  case order =>
    rw [StandardHeader.isBigEndian, made.type]
    exact bigEndian
  case ecuId => rw [made.ecuId, isSome_written]
  case session => exact made.session
  case ticks => exact isSome_of_ticksOf made.ticks
  case announced => exact made.consistent.extended.symm
  case extended =>
    rw [← (Body.make_ok given).2, made.extended]
    cases needsExtended line body <;> rfl

theorem marker_preamble (consistent : Consistent format headers) {marker : Bytes}
    (marked : format.marker? = some marker) : marker <+: headers.preamble format := by
  rcases preamble_cases consistent with ⟨header, _, rfl, front⟩ | ⟨_, rfl, _⟩ | ⟨_, rfl, front⟩
  · cases marked
    rw [front, StorageHeader.encode, List.append_assoc, List.append_assoc]
    exact List.prefix_append _ _
  · cases marked
  · cases marked
    exact front.symm ▸ List.prefix_rfl

end Headers

def packetOf (services : Services) (format : CaptureFormat) (count : UInt8) (line : Line) : Except Fault Bytes := do
  let body ← Body.make services line
  let headers ← Headers.ofLine format count line body
  return headers.encode format ++ body.payload

theorem Encoder.encode_eq_packetOf (encoder : Encoder) (line : Line) :
    encoder.encode line =
      (packetOf encoder.control.encode encoder.format (encoder.countOf line) line).map fun packet =>
        (packet, { encoder with nextCount := encoder.countOf line + 1 }) := by
  unfold Encoder.encode packetOf
  rw [Body.make_registry]
  cases Body.ofLine encoder.control line with
  | error fault => rfl
  | ok body =>
    simp only [bind, Except.bind]
    cases made : Headers.ofLine encoder.format (encoder.countOf line) line body with
    | error fault =>
      unfold Encoder.countOf at made
      rw [made]
      rfl
    | ok headers =>
      unfold Encoder.countOf at made
      rw [made]
      rfl

theorem packetOf_ok {services : Services} {format : CaptureFormat} {count : UInt8} {line : Line} {packet : Bytes}
    (made : packetOf services format count line = .ok packet) :
    ∃ body headers, Body.make services line = .ok body ∧ Headers.MadeFor format line body headers ∧
      packet = headers.encode format ++ body.payload := by
  obtain ⟨body, given, rest⟩ := of_bind made
  obtain ⟨headers, announced, done⟩ := of_bind rest
  cases done
  exact ⟨body, headers, given, Headers.ofLine_made announced, rfl⟩

def Decoder.passed (decoder : Decoder) (pass : Pass) : Step × Decoder :=
  match pass.delivery with
  | .line line heldBack => (.line line pass.rest, { decoder with builder := pass.builder, heldBack })
  | .needMore => (.needMore pass.rest, { decoder with builder := pass.builder })

theorem Decoder.step_eq_passed {decoder : Decoder} (nothing_held : decoder.heldBack = none) (flush : Bool)
    (input : Cursor) :
    decoder.step flush input = decoder.passed (Pass.scan decoder.setting flush input decoder.builder) := by
  obtain ⟨setting, builder, heldBack, kept⟩ := decoder
  cases nothing_held
  rfl

/-- A packet that is found whole and read as it was made, with any bytes behind it. -/
structure Sound (services : Services) (format : CaptureFormat) (line : Line) (packet tail : Bytes) : Prop where
  marked : ∀ marker, format.marker? = some marker → marker <+: packet
  /-- The length in the standard header is that of the packet from there on. -/
  valid : ∃ length, StandardHeader.validate ((packet ++ tail).drop format.headerOffset) = .ok length ∧
    packet.length = format.headerOffset + length
  /-- The headers say what the line says, and behind them stands what was to be written and nothing else. -/
  parsed : ∃ headers payload, Headers.Announces line headers ∧ Body.contents services line = .ok payload ∧
    StandardHeader.parse ((packet ++ tail).drop format.headerOffset) = .ok headers.standard ∧
    Headers.parse format (packet ++ tail) = .ok (headers, payload ++ tail) ∧
    Headers.parse format packet = .ok (headers, payload)
  found : Finding.ofBytes format (packet ++ tail) = .candidate packet.length
  /-- A decoder first tries exactly the bytes of the packet. If they are a line, it goes on behind them, and
  otherwise it gives up the least possible. -/
  tried : ∀ (decoder : Decoder) (flush : Bool) (position : Nat), decoder.setting.format = format →
    decoder.heldBack = none → decoder.step flush ⟨packet ++ tail, position⟩ =
      match Packet.decode decoder.setting decoder.builder packet position with
      | (.ok line, after) => decoder.passed (Pass.deliver line ⟨tail, position + packet.length⟩ after)
      | (.error _, after) =>
        Decoder.step { decoder with builder := Pass.skip after format.minimumDiscard position .invalidPacket } flush
          (Cursor.advance ⟨packet ++ tail, position⟩ format.minimumDiscard)

theorem step_of_candidate {decoder : Decoder} {packet tail : Bytes} {format : CaptureFormat}
    (found : Finding.ofBytes format (packet ++ tail) = .candidate packet.length) (flush : Bool) (position : Nat)
    (framed : decoder.setting.format = format) (nothing_held : decoder.heldBack = none) :
    decoder.step flush ⟨packet ++ tail, position⟩ =
      match Packet.decode decoder.setting decoder.builder packet position with
      | (.ok line, after) => decoder.passed (Pass.deliver line ⟨tail, position + packet.length⟩ after)
      | (.error _, after) =>
        Decoder.step { decoder with builder := Pass.skip after format.minimumDiscard position .invalidPacket } flush
          (Cursor.advance ⟨packet ++ tail, position⟩ format.minimumDiscard) := by
  subst framed
  rw [Decoder.step_eq_passed nothing_held, Pass.scan_eq_next, Move.next_of_candidate found]
  rcases Packet.decode decoder.setting decoder.builder packet position with ⟨fault | line, after⟩
  · have still_nothing : Decoder.heldBack { decoder with
        builder := Pass.skip after decoder.setting.format.minimumDiscard position .invalidPacket } = none :=
      nothing_held
    exact (Decoder.step_eq_passed still_nothing flush _).symm
  · simp only [Cursor.advance_front]

theorem sound_of_packetOf {services : Services} {format : CaptureFormat} {count : UInt8} {line : Line} {packet : Bytes}
    (made : packetOf services format count line = .ok packet) (tail : Bytes) :
    Sound services format line packet tail := by
  obtain ⟨body, headers, given, headers_made, rfl⟩ := packetOf_ok made
  have consistent := headers_made.consistent
  have behind : headers.encode format ++ body.payload ++ tail = headers.encode format ++ (body.payload ++ tail) :=
    List.append_assoc ..
  have found := Finding.ofBytes_encode consistent body.payload tail headers_made.version headers_made.length
  constructor
  case marked =>
    intro marker marked
    rw [Headers.encode, List.append_assoc, List.append_assoc]
    exact (Headers.marker_preamble consistent marked).trans (List.prefix_append _ _)
  case valid =>
    refine ⟨headers.standard.length.toNat, ?_, ?_⟩
    · rw [behind, Headers.drop_encode consistent]
      exact StandardHeader.validate_encode headers_made.version (by rw [headers_made.length]; omega) _
    · rw [List.length_append, Headers.length_encode consistent, headers_made.length, Nat.add_assoc]
  case parsed =>
    refine ⟨headers, body.payload, headers_made.announces given, (Body.make_ok given).1, ?_, ?_, ?_⟩
    · rw [behind, Headers.drop_encode consistent]
      exact StandardHeader.parse_encode consistent.standard _
    · rw [behind]
      exact Headers.parse_encode consistent _
    · exact Headers.parse_encode consistent _
  case found => exact found
  case tried =>
    intro decoder flush position framed nothing_held
    exact step_of_candidate found flush position framed nothing_held

/-- Every packet is a sound frame, for every line that is written at all and with whatever services; and what an encoder
writes are such packets. -/
theorem packets_are_sound_frames :
    (∀ (encoder : Encoder) (line : Line), encoder.encode line =
      (packetOf encoder.control.encode encoder.format (encoder.countOf line) line).map fun packet =>
        (packet, { encoder with nextCount := encoder.countOf line + 1 })) ∧
    ∀ (services : Services) (format : CaptureFormat) (count : UInt8) (line : Line) (packet tail : Bytes),
      packetOf services format count line = .ok packet → Sound services format line packet tail := by
  constructor
  · exact Encoder.encode_eq_packetOf
  · intro services format count line packet tail made
    exact sound_of_packetOf made tail

def twoByteService : Services := fun order payload =>
  match payload with
  | .request body => .ok (order.encode 4 body.service.toNat ++ [0xDE, 0xAD])
  | _ => .error .payloadNotEncodable

def oddRequest : Line :=
  .control
    { LineHeader.blank with
      features := Features.ofList [.ecuId, .sessionId, .deviceTimestamp, .verbose, .bigEndian]
      ecuId := "gateway", session := 99, deviceTime := ⟨123456789⟩ }
    (.request (.custom 0xF00 []))

def oddPacket : Bytes :=
  [0x44, 0x4C, 0x53, 0x01, 0x3F, 7, 0, 32, 0x67, 0x61, 0x74, 0x65, 0, 0, 0, 99, 0, 0, 0x04, 0xD2,
    0x16, 0, 0, 0, 0, 0, 0, 0, 0, 0, 0, 0, 0x0F, 0, 0xDE, 0xAD]

theorem oddRequest_is_sound_frame :
    packetOf twoByteService .serial 7 oddRequest = .ok oddPacket ∧
    Sound twoByteService .serial oddRequest oddPacket [0x44, 0x4C] := by
  have made : packetOf twoByteService .serial 7 oddRequest = .ok oddPacket := by rfl
  exact ⟨made, packets_are_sound_frames.2 twoByteService .serial 7 oddRequest oddPacket [0x44, 0x4C] made⟩

end Stream

end DiagTrace
