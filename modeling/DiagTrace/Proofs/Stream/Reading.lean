import DiagTrace.Proofs.Control.Reading
import DiagTrace.Proofs.Stream.Framing
import DiagTrace.Proofs.Stream.Origin
import DiagTrace.Proofs.Stream.PacketRoundTrip
import DiagTrace.Proofs.Verbose.Rewriting

/-!
The lines that can be read with the services of the standard and without frames, from whatever packet.
-/
namespace DiagTrace

theorem Ident.plain_text (id : UInt32) : Ident.Plain (Ident.text id) :=
  Ident.plain_charsOf (Nat.le_of_eq (ByteOrder.length_encode ..))

namespace Stream

variable {format : CaptureFormat} {packet payload : Bytes} {header : LineHeader} {headers : Headers}

/-- What the header of a line is like for no other reason than that it was read. -/
structure HeaderRead (format : CaptureFormat) (packet : Bytes) (header : LineHeader) : Prop where
  proper : Features.Proper header.features
  count : header.count.isSome = true
  ecuId : header.features.has .ecuId = true → Ident.Plain header.ecuId
  appId : header.features.has .appId = true → Ident.Plain header.appId
  ctxId : header.features.has .ctxId = true → Ident.Plain header.ctxId
  deviceTime : header.features.has .deviceTimestamp = true → ∃ ticks, header.deviceTime = Stream.deviceTime ticks
  extended : Extended header (header.features.has .messageType)
  /-- Without an extended header a line has no type and is not verbose. -/
  bare : header.features.has .messageType = false → header.type = .unknown ∧ header.isVerbose = false
  stored : header.features.has .logTimestamp = decide (format = .file)
  time : format = .file → ∃ storage, StorageHeader.parse packet = .ok storage ∧
    header.time = Timestamp.ofParts storage.seconds.toNat storage.microseconds.toNat

inductive BodyRead : Line → Prop where
  | verbose {header : LineHeader} {arguments : List Argument} (marked : header.isVerbose = true)
      (ordinary : header.type.isControl = false) (few : arguments.length ≤ 255)
      (each : ∀ argument ∈ arguments,
        Verbose.ArgumentRead Verbose.maxDepth argument ∨ argument.isFailure = true) :
      BodyRead (.normal header none arguments)
  | numbered {header : LineHeader} {id : UInt32} {data : Bytes} (unmarked : header.isVerbose = false)
      (ordinary : header.type.isControl = false) : BodyRead (.normal header (some id) [.payload data])
  | control {header : LineHeader} {payload : Control.Payload} (type : payload.type = header.type)
      (read : Control.PayloadFits payload ∨ payload.Overlong) : BodyRead (.control header payload)

section Bodies

open Headers Packet

variable {builder : Builder} {line : Line}

theorem line_of_ordinary {filled rest : Builder} (taken : filled.takeLine = .ok (line, rest))
    (ordinary : filled.type.isControl = false) :
    line = .normal filled.takeHeader.1 filled.messageId filled.arguments := by
  have contents := takeLine_ordinary filled ordinary
  rw [taken] at contents
  exact Except.ok.inj contents

theorem decode_frameless (format : CaptureFormat) (builder : Builder) (payload : Bytes) :
    ∃ id data, NonVerbose.decode (plainSetting format).nonVerbose builder payload =
      (builder.setMessageId id).addArgument (.payload data) := by
  have unknown : ∀ id body, NonVerbose.decodeBody? (plainSetting format).nonVerbose builder id body = none :=
    fun _ _ => rfl
  unfold NonVerbose.decode
  simp only [unknown]
  split
  · exact ⟨_, _, rfl⟩
  · exact ⟨_, _, rfl⟩

theorem finish_read (recorded : builder.clock = .recorded) (unnumbered : builder.messageId = none)
    (clear : builder.arguments = []) (read : (finish (plainSetting format) builder payload).1 = .ok line) :
    line.header = builder.takeHeader.1 ∧ BodyRead line := by
  obtain ⟨filled, rest, given, taken⟩ := finish_inv read
  have flag : builder.takeHeader.1.isVerbose = builder.isVerbose := by
    rw [takeHeader_of_recorded recorded]
    rfl
  unfold readPayload at given
  split at given
  · rename_i managed
    obtain ⟨control, used, decoded, rfl⟩ := readControl_inv given
    have kept : (builder.setPayload control).type.isControl = true := managed
    obtain ⟨type, shape⟩ := Control.decode_read decoded
    rw [Builder.takeLine, kept] at taken
    cases taken
    exact ⟨rfl, .control type shape⟩
  · rename_i other
    have ordinary : builder.type.isControl = false := Bool.eq_false_iff.mpr other
    split at given
    · rename_i marked
      obtain rfl := readVerbose_inv given
      obtain ⟨few, each⟩ := Verbose.decode_read builder.order payload builder.argumentCount.toNat
      have contents : line = .normal builder.takeHeader.1 builder.messageId (builder.arguments ++
          (Verbose.decode builder.order payload builder.argumentCount.toNat).1) := line_of_ordinary taken ordinary
      rw [unnumbered, clear, List.nil_append] at contents
      subst contents
      have counted := builder.argumentCount.toNat_lt
      exact ⟨rfl, .verbose (flag.trans marked) ordinary (by omega) each⟩
    · rename_i unmarked
      obtain ⟨id, data, frameless⟩ := decode_frameless format builder payload
      rw [frameless] at given
      cases given
      have contents : line = .normal builder.takeHeader.1 (some id) (builder.arguments ++ [.payload data]) :=
        line_of_ordinary taken ordinary
      rw [clear, List.nil_append] at contents
      subst contents
      exact ⟨rfl, .numbered (flag.trans (Bool.eq_false_iff.mpr unmarked)) ordinary⟩

end Bodies

section Packets

open Headers

variable {line : Line}

theorem header_read (parsed : parse format packet = .ok (headers, payload)) :
    HeaderRead format packet (headers.apply fresh).takeHeader.1 := by
  have filled := filled_apply headers
  have has := has_apply headers
  rw [takeHeader_of_recorded filled.clock]
  have extended : ∀ feature ∈ [Feature.appId, .ctxId, .messageType],
      (headers.apply fresh).features.has feature = headers.extended.isSome := by
    intro feature listed
    simp only [List.mem_cons, List.not_mem_nil, or_false] at listed
    rcases listed with rfl | rfl | rfl <;> exact has _
  have info : headers.extended.isSome = true → ∃ header, headers.extended = some header :=
    Option.isSome_iff_exists.mp
  constructor
  case proper => exact proper_apply headers
  case count =>
    rw [filled.count]
    rfl
  case ecuId =>
    intro set
    obtain ⟨id, there⟩ := Option.isSome_iff_exists.mp ((has .ecuId).symm.trans set)
    rw [filled.ecuId id there]
    exact Ident.plain_text id
  case appId =>
    intro set
    obtain ⟨header, there⟩ := info ((extended .appId (by decide)).symm.trans set)
    rw [(filled.extended header there).2.2.1]
    exact Ident.plain_text _
  case ctxId =>
    intro set
    obtain ⟨header, there⟩ := info ((extended .ctxId (by decide)).symm.trans set)
    rw [(filled.extended header there).2.2.2]
    exact Ident.plain_text _
  case deviceTime =>
    intro set
    obtain ⟨ticks, there⟩ := Option.isSome_iff_exists.mp ((has .deviceTimestamp).symm.trans set)
    exact ⟨ticks, filled.deviceTime ticks there⟩
  case extended =>
    have type := extended .messageType (by decide)
    exact ⟨(extended .appId (by decide)).trans type.symm, (extended .ctxId (by decide)).trans type.symm, rfl⟩
  case bare =>
    intro untyped
    have absent : headers.extended = none :=
      Option.isNone_iff_eq_none.mp (by rw [← Option.not_isSome, ← extended .messageType (by decide), untyped]; rfl)
    refine ⟨filled.plain absent, (has .verbose).trans ?_⟩
    rw [absent]
    rfl
  case stored => exact (has .logTimestamp).trans (storage_of_parse parsed)
  case time =>
    rintro rfl
    obtain ⟨storage, given, there⟩ := parseStorage_inv (parseStorage_of_parse parsed)
    exact ⟨storage, given, filled.time storage there⟩

theorem decode_read (read : (Packet.decode (plainSetting format) (Builder.start .recorded) packet 0).1 = .ok line) :
    HeaderRead format packet line.header ∧ BodyRead line := by
  unfold Packet.decode at read
  simp only at read
  split at read
  · cases read
  · rename_i headers payload parsed
    have filled := filled_apply headers
    obtain ⟨header, body⟩ := finish_read filled.clock filled.messageId filled.arguments read
    rw [header]
    exact ⟨header_read parsed, body⟩

theorem headerRead_placedAt (read : HeaderRead format packet line.header) (position number : Nat) :
    HeaderRead format packet (line.placedAt position number).header := by
  rw [Line.placedAt, Line.header_withHeader]
  exact ⟨read.proper, read.count, read.ecuId, read.appId, read.ctxId, read.deviceTime, read.extended, read.bare,
    read.stored, read.time⟩

theorem bodyRead_placedAt (read : BodyRead line) (position number : Nat) :
    BodyRead (line.placedAt position number) := by
  cases read with
  | verbose marked ordinary few each => exact .verbose marked ordinary few each
  | numbered unmarked ordinary => exact .numbered unmarked ordinary
  | control type shape => exact .control type shape

end Packets

end Stream

end DiagTrace
