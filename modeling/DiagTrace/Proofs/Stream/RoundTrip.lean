import Mathlib.Data.List.Forall2
import DiagTrace.Proofs.Stream.Chunking
import DiagTrace.Proofs.Stream.PacketRoundTrip

/-! Lines that fit come back from a stream of their packets, however the stream is cut. -/
namespace DiagTrace.Stream

def counted : UInt8 → List Line → List (Line × UInt8)
  | _, [] => []
  | next, line :: lines =>
    let count := line.header.count.getD next
    (line, count) :: counted (count + 1) lines

def Encoder.encodeAll (encoder : Encoder) : List Line → Except Fault (List Bytes × Encoder)
  | [] => .ok ([], encoder)
  | line :: lines => do
    let (packet, next) ← encoder.encode line
    let (packets, last) ← next.encodeAll lines
    return (packet :: packets, last)

variable {format : CaptureFormat}

theorem encodeAll_trips (encoder : Encoder) {lines : List Line} (standard : encoder.control = .standard)
    (fits : ∀ line ∈ lines, LineFits encoder.format line) :
    ∃ packets last, encoder.encodeAll lines = .ok (packets, last) ∧
      List.Forall₂ (fun sent packet => PacketTrips encoder.format sent.1 sent.2 packet)
        (counted encoder.nextCount lines) packets := by
  induction lines generalizing encoder with
  | nil => exact ⟨[], encoder, rfl, .nil⟩
  | cons line lines ih =>
    obtain ⟨packet, encoded, trips⟩ := encode_trips standard (fits line List.mem_cons_self)
    let next : Encoder := { encoder with nextCount := line.header.count.getD encoder.nextCount + 1 }
    obtain ⟨packets, last, rest, all⟩ := ih next standard
      fun other present => fits other (List.mem_cons_of_mem _ present)
    refine ⟨packet :: packets, last, ?_, .cons trips all⟩
    simp only [Encoder.encodeAll, encoded, bind, Except.bind, pure, Except.pure]
    simp only [next] at rest
    rw [rest]

theorem readAs_placedAt {line read : Line} {count : UInt8} (same : ReadAs line count read)
    (position number : Nat) : ReadAs line count (read.placedAt position number) := by
  obtain ⟨contents, header⟩ := same
  rw [contents] at header ⊢
  constructor
  · cases line <;> rfl
  · cases line <;> exact header

variable {builder : Builder} {packet : Bytes} {line : Line} {count : UInt8}

theorem next_packet_trips (idle : Idle format builder) (trips : PacketTrips format line count packet)
    (rest : Bytes) (position : Nat) :
    ∃ read after, Move.next (plainSetting format) false ⟨packet ++ rest, position⟩ builder =
        .packet packet.length read after ∧
      ReadAs line count read ∧ Idle format after ∧ after.skip = builder.skip := by
  obtain ⟨read, decoded, same⟩ := trips.read
  have idle_here : Idle (plainSetting format).format builder := idle
  have moved := Packet.decode_of_idle idle_here packet position
  have after_idle := Packet.decode_idle idle_here packet position
  have kept := (Packet.decode_kept (plainSetting format) builder packet position).1
  have found : Finding.ofBytes (plainSetting format).format (packet ++ rest) = .candidate packet.length :=
    trips.found rest
  cases given : Packet.decode (plainSetting format) builder packet position with
  | mk result after =>
    rw [given] at moved after_idle kept
    rw [decoded] at moved
    cases moved
    refine ⟨read.placedAt position builder.nextNumber, after, ?_,
      readAs_placedAt same position builder.nextNumber, after_idle, kept⟩
    rw [Move.next_of_candidate found, given]

theorem run_packets {sent : List (Line × UInt8)} {packets : List Bytes} (idle : Idle format builder)
    (reported : builder.skip.bytes = 0)
    (trips : List.Forall₂ (fun sent packet => PacketTrips format sent.1 sent.2 packet) sent packets)
    (position : Nat) :
    let sweep := Sweep.run (plainSetting format) false ⟨packets.flatten, position⟩ builder
    List.Forall₂ (fun sent read => ReadAs sent.1 sent.2 read) sent sweep.lines ∧
      sweep.rest.rest = [] ∧ sweep.builder.skip.bytes = 0 := by
  induction trips generalizing builder position with
  | nil =>
    have nothing : Sweep.run (plainSetting format) false ⟨[], position⟩ builder =
        ⟨[], ⟨[], position⟩, builder⟩ := Sweep.run_nothing rfl reported
    simp only [List.flatten_nil, nothing]
    exact ⟨.nil, trivial, reported⟩
  | @cons sent packet rest packets trips all ih =>
    obtain ⟨read, after, move, same, after_idle, kept⟩ :=
      next_packet_trips idle trips packets.flatten position
    have after_reported : after.skip.bytes = 0 := by
      rw [kept]
      exact reported
    have delivered : ∀ behind, Pass.deliver read behind after = ⟨.line read none, behind, after⟩ := by
      intro behind
      rw [Pass.deliver, if_pos after_reported]
    obtain ⟨lines, emptied, settled⟩ := ih after_idle after_reported (position + packet.length)
    rw [List.flatten_cons, Sweep.run_packet move, delivered, Cursor.advance_front]
    exact ⟨.cons same lines, emptied, settled⟩

namespace Decoder

theorem feed_packets {sent : List (Line × UInt8)} {packets : List Bytes}
    (trips : List.Forall₂ (fun sent packet => PacketTrips format sent.1 sent.2 packet) sent packets) :
    let fed := (Decoder.standard format .recorded none).feed packets.flatten
    List.Forall₂ (fun sent read => ReadAs sent.1 sent.2 read) sent fed.1 ∧ fed.2.flush.1 = [] := by
  obtain ⟨lines, emptied, settled⟩ := run_packets (idle_start format) rfl trips 0
  have fed := feed_eq_run (Decoder.standard format .recorded none) packets.flatten
  simp only at fed
  rw [fed]
  refine ⟨lines, ?_⟩
  rw [flush_eq_run]
  exact congrArg Sweep.lines (Sweep.run_nothing emptied settled)

theorem quiet_standard (format : CaptureFormat) : Quiet (Decoder.standard format .recorded none) :=
  ⟨rfl, .inl (Finding.short_iff.mpr (Nat.succ_pos _))⟩

end Decoder

/-- Unless it is stamped within a leap second, a line comes back with the very header that was sent. -/
theorem equals_of_readAs {line read : Line} {count : UInt8} (same : ReadAs line count read)
    (ordinary : line.header.time.nanoseconds < 1000000000) :
    LineHeader.equals { line.header with count := some count } read.header = true := by
  have header := same.2
  rw [Headers.sentAs, Timestamp.carried_eq ordinary] at header
  exact header

/-- Lines that fit are written, whatever the counter of the encoder, and come back one by one from any chunks that
make up their packets: each with its contents and an equal header, and with no report of skipped bytes. -/
theorem lines_come_back (format : CaptureFormat) (next : UInt8) (lines : List Line)
    (fits : ∀ line ∈ lines, LineFits format line) :
    ∃ packets last, Encoder.encodeAll ⟨format, .standard, next⟩ lines = .ok (packets, last) ∧
      ∀ chunks : List Bytes, chunks.flatten = packets.flatten →
        let fed := (Decoder.standard format .recorded none).feedAll chunks
        List.Forall₂ (fun sent read => ReadAs sent.1 sent.2 read ∧
            (sent.1.header.time.nanoseconds < 1000000000 →
              LineHeader.equals { sent.1.header with count := some sent.2 } read.header = true))
          (counted next lines) fed.1 ∧
          fed.2.flush.1 = [] := by
  obtain ⟨packets, last, encoded, trips⟩ := encodeAll_trips ⟨format, .standard, next⟩ rfl fits
  refine ⟨packets, last, encoded, fun chunks whole => ?_⟩
  obtain ⟨read, silent⟩ := Decoder.feed_packets trips
  obtain ⟨same, rest⟩ := Decoder.feedAll_flatten (Decoder.quiet_standard format) chunks
  rw [whole] at same rest
  simp only
  rw [same, ← Decoder.flush_trimmed, rest, Decoder.flush_trimmed]
  exact ⟨read.imp fun _ _ same => ⟨same, equals_of_readAs same⟩, silent⟩

section Instances

theorem short_of_few {line : Line}
    (few : (Body.ofLine .standard line).toOption.all (fun body => decide (body.payload.length ≤ 65000)) = true) :
    Short line := by
  intro body written
  rw [written] at few
  have bound : body.payload.length ≤ 65000 := of_decide_eq_true few
  have least : ∀ type : UInt8, HeaderType.minimumLength type ≤ 26 := by
    intro type
    simp only [HeaderType.minimumLength, HeaderType.standardLength, HeaderType.bytesIf]
    split <;> split <;> split <;> split <;> omega
  have headers := least (Headers.typeOf line.header (Headers.needsExtended line body))
  rw [Headers.packetLength]
  omega

def greeting : List Line :=
  [.normal
      { LineHeader.blank with
        features := Features.ofList [.appId, .ctxId, .messageType, .verbose]
        appId := "APP", ctxId := "CTX", type := .log .info }
      none [.bool true, .named "level" none (.unsigned 5 .w8 none)],
    .normal { LineHeader.blank with features := .single .bigEndian, count := some 9 } (some 7) [.payload [1, 2]],
    .control
      { LineHeader.blank with
        features := Features.ofList [.appId, .ctxId, .messageType], type := .control .request }
      (.request (.query .getSoftwareVersion))]

theorem headerFits_of_ids {header : LineHeader} (proper : Features.Proper header.features)
    (ids : Ident.Plain header.ecuId ∧ Ident.Plain header.appId ∧ Ident.Plain header.ctxId)
    (untimed : header.features.has .deviceTimestamp = false)
    (stored : header.features.has .logTimestamp = decide (format = .file))
    (time : header.features.has .logTimestamp = true →
      0 ≤ header.time.seconds ∧ header.time.seconds < Bytes.capacity 4 ∧
      header.time.nanoseconds % 1000 = 0 ∧ header.time.nanoseconds < 2000000000) : HeaderFits format header := by
  refine ⟨proper, fun _ => ids.1, fun _ => ids.2.1, fun _ => ids.2.2, fun timed => ?_, stored, time⟩
  rw [untimed] at timed
  cases timed

theorem greeting_fits : ∀ line ∈ greeting, LineFits .network line := by
  have short : ∀ line ∈ greeting, Short line := by
    intro line present
    apply short_of_few
    revert line
    decide
  have headers : ∀ line ∈ greeting, HeaderFits .network line.header := by
    intro line present
    have all : ∀ line ∈ greeting, Features.Proper line.header.features ∧
        (Ident.Plain line.header.ecuId ∧ Ident.Plain line.header.appId ∧ Ident.Plain line.header.ctxId) ∧
        line.header.features.has .deviceTimestamp = false ∧ line.header.features.has .logTimestamp = false := by
      unfold Features.Proper
      decide
    obtain ⟨proper, ids, untimed, unstored⟩ := all line present
    refine headerFits_of_ids proper ids untimed unstored fun stamped => ?_
    rw [unstored] at stamped
    cases stamped
  unfold greeting at short headers ⊢
  simp only [List.mem_cons, List.not_mem_nil, or_false, forall_eq_or_imp, forall_eq] at short headers ⊢
  refine ⟨.verbose headers.1 (by decide) ⟨by decide, by decide, by decide⟩ ⟨by decide, by decide⟩ (by decide) ?_
    short.1, .numbered headers.2.1 (by decide) (.inr ⟨by decide, by decide, by decide⟩) short.2.1,
    .control headers.2.2 (by decide) ⟨by decide, by decide, by decide⟩ rfl ?_ short.2.2⟩
  · have unscaled : Verbose.ScalingFits .w8 none := fun offset present => nomatch present
    have called : Verbose.TextFits "level" := by
      unfold Verbose.TextFits
      decide
    simp only [List.mem_cons, List.not_mem_nil, or_false, forall_eq_or_imp, forall_eq]
    exact ⟨.unnamed (.bool true), .named (.unsigned (by decide) unscaled) called fun unit there => nomatch there⟩
  · have listed : Control.ServiceId.getSoftwareVersion ∈ Control.Registry.queries := by decide
    exact listed

theorem greeting_comes_back :
    (∀ line ∈ greeting, LineFits .network line) ∧
    ∃ packets last, Encoder.encodeAll ⟨.network, .standard, 0⟩ greeting = .ok (packets, last) ∧
      ∀ chunks : List Bytes, chunks.flatten = packets.flatten →
        let fed := (Decoder.standard .network .recorded none).feedAll chunks
        List.Forall₂ (fun sent read => ReadAs sent.1 sent.2 read ∧
            (sent.1.header.time.nanoseconds < 1000000000 →
              LineHeader.equals { sent.1.header with count := some sent.2 } read.header = true))
          (counted 0 greeting) fed.1 ∧
          fed.2.flush.1 = [] :=
  ⟨greeting_fits, lines_come_back .network 0 greeting greeting_fits⟩

def leapLine : Line :=
  .normal { LineHeader.blank with features := .single .logTimestamp, time := ⟨59, 1000000000⟩ } (some 1)
    [.payload []]

theorem leapLine_fits : LineFits .file leapLine := by
  refine .numbered (headerFits_of_ids ?_ (by decide) (by decide) (by decide) fun _ => by decide) (by decide)
    (.inr ⟨by decide, by decide, by decide⟩) (short_of_few (by decide))
  unfold Features.Proper
  decide

theorem time_of_equals {a b : LineHeader} (same : a.equals b = true)
    (stamped : a.features.has .logTimestamp = true) : b.time = a.time := by
  unfold LineHeader.equals LineHeader.fieldEquals at same
  simp only [Bool.and_eq_true, stamped, Bool.not_true, Bool.false_or, beq_iff_eq] at same
  exact same.1.2.symm

/-- A leap second is carried into the second behind it, and the header is then another one. -/
theorem leap_second_comes_back_carried :
    LineFits .file leapLine ∧
    ∃ packets last read, Encoder.encodeAll ⟨.file, .standard, 0⟩ [leapLine] = .ok (packets, last) ∧
      ((Decoder.standard .file .recorded none).feed packets.flatten).1 = [read] ∧
      read.header.time = ⟨60, 0⟩ ∧
      LineHeader.equals { leapLine.header with count := some 0 } read.header = false := by
  have fits : ∀ line ∈ [leapLine], LineFits .file line := by
    intro line present
    rw [List.mem_singleton.mp present]
    exact leapLine_fits
  obtain ⟨packets, last, encoded, trips⟩ := encodeAll_trips ⟨.file, .standard, 0⟩ rfl fits
  obtain ⟨all, _⟩ := Decoder.feed_packets trips
  have sent : counted 0 [leapLine] = [(leapLine, 0)] := rfl
  simp only [sent] at all
  cases given : ((Decoder.standard .file .recorded none).feed packets.flatten).1 with
  | nil =>
    rw [given] at all
    cases all
  | cons read others =>
    rw [given] at all
    obtain ⟨same, none_left⟩ := List.forall₂_cons.mp all
    cases List.forall₂_nil_left_iff.mp none_left
    have time : read.header.time = ⟨60, 0⟩ := time_of_equals same.2 (by decide)
    refine ⟨leapLine_fits, packets, last, read, encoded, given, time, ?_⟩
    cases equal : LineHeader.equals { leapLine.header with count := some 0 } read.header with
    | false => rfl
    | true =>
      have kept := time_of_equals equal (by decide)
      rw [time] at kept
      cases kept

end Instances

end DiagTrace.Stream
