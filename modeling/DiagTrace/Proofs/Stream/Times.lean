import DiagTrace.Proofs.Stream.Regularity
import DiagTrace.Proofs.Stream.Soundness

/-!
The times of lines in capture files. The device time is checked against its field, but the seconds of the capture time
are cut to theirs: a capture time comes back exactly if its seconds fit 32 bits. A decoder carries whole seconds among
the microseconds of a storage header over, and so yields times whose seconds do not fit.
-/
namespace DiagTrace

def StorageHeader.instant (header : StorageHeader) : Int :=
  header.seconds.toNat * 1000000 + header.microseconds.toNat

def StorageHeader.SecondsFit (header : StorageHeader) : Prop :=
  header.seconds.toNat + header.microseconds.toNat / 1000000 < Bytes.capacity 4

def Timestamp.instant (time : Timestamp) : Int := (time.seconds * 1000000000 + time.nanoseconds) / 1000

theorem Builder.takeLine_takeHeader {builder rest : Builder} {line : Line}
    (taken : builder.takeLine = .ok (line, rest)) : line.header = builder.takeHeader.1 := by
  unfold takeLine at taken
  split at taken
  · split at taken
    · cases taken
      rfl
    · cases taken
  · cases taken
    rfl

theorem NonVerbose.decode_stored (codec : Codec) (builder : Builder) (data : Bytes) :
    (decode codec builder data).features.has .logTimestamp = builder.features.has .logTimestamp := by
  let stamped : Builder → Bool := fun builder => builder.features.has .logTimestamp
  have kept : ∀ (features : Features) (feature : Feature), feature ≠ .logTimestamp →
      (features.add feature).has .logTimestamp = features.has .logTimestamp := by
    intro features feature other
    rw [Features.has_add, decide_eq_false other, Bool.or_false]
  have identified : ∀ builder frame, stamped (identify builder frame) = stamped builder :=
    identify_kept stamped (fun builder _ => kept builder.features .appId Feature.noConfusion)
      (fun builder _ => kept builder.features .ctxId Feature.noConfusion)
      fun builder _ => kept builder.features .ecuId Feature.noConfusion
  have framed : ∀ builder frame, stamped (applyFrame builder frame) = stamped builder :=
    applyFrame_kept stamped identified fun builder _ => kept builder.features .messageType Feature.noConfusion
  unfold decode
  split
  · simp only
    split
    · exact framed (builder.setMessageId _) _
    · rfl
  · rfl

namespace Stream

open Headers

section Fields

variable {header : LineHeader}

theorem time_written (stamped : header.features.has .logTimestamp = true) :
    (written header .logTimestamp header.time).getD .epoch = header.time := by
  rw [written, if_pos stamped]
  rfl

theorem storageOf_fields (stamped : header.features.has .logTimestamp = true)
    (fraction : header.time.nanoseconds < 2000000000) :
    ((storageOf header).seconds.toNat : Int) = header.time.seconds % Bytes.capacity 4 ∧
      (storageOf header).microseconds.toNat = header.time.nanoseconds / 1000 := by
  simp only [storageOf, time_written stamped, TwosComplement.encode, Bytes.capacity, UInt32.toNat_ofNat']
  constructor
  · omega
  · omega

theorem instant_storageOf_iff (stamped : header.features.has .logTimestamp = true)
    (fraction : header.time.nanoseconds < 2000000000) :
    (storageOf header).instant = header.time.instant ↔
      0 ≤ header.time.seconds ∧ header.time.seconds < Bytes.capacity 4 := by
  obtain ⟨seconds, microseconds⟩ := storageOf_fields stamped fraction
  simp only [StorageHeader.instant, Timestamp.instant, seconds, microseconds, Bytes.capacity]
  omega

/-- A time that was read from a storage header is stored as the same time unless seconds were carried over the end of
their field. -/
theorem ofParts_storageOf_iff {storage : StorageHeader} (stamped : header.features.has .logTimestamp = true)
    (time : header.time = Timestamp.ofParts storage.seconds.toNat storage.microseconds.toNat) :
    Timestamp.ofParts (storageOf header).seconds.toNat (storageOf header).microseconds.toNat = header.time ↔
      storage.SecondsFit := by
  have ordinary : header.time.nanoseconds < 1000000000 := by
    rw [time]
    exact Timestamp.ofParts_ordinary ..
  obtain ⟨stored, fraction⟩ := storageOf_fields stamped (by omega)
  have whole : header.time.seconds = storage.seconds.toNat + storage.microseconds.toNat / 1000000 := by
    rw [time]
    rfl
  have micros : header.time.nanoseconds = storage.microseconds.toNat % 1000000 * 1000 := by
    rw [time, Timestamp.ofParts]
  simp only [StorageHeader.SecondsFit, Bytes.capacity] at stored ⊢
  constructor
  · intro same
    have seconds_same := congrArg Timestamp.seconds same
    simp only [Timestamp.ofParts] at seconds_same
    omega
  · intro fits
    rw [time, Timestamp.ofParts, Timestamp.ofParts, Timestamp.mk.injEq]
    constructor
    · omega
    · omega

theorem ticksOf_ok {ticks : Option UInt32} (counted : ticksOf header = .ok ticks)
    (timed : header.features.has .deviceTimestamp = true) :
    ∃ count, ticks = some count ∧ count.toNat = header.deviceTime.nanoseconds / 100000 := by
  unfold ticksOf written at counted
  rw [if_pos timed] at counted
  obtain ⟨count, given, rfl⟩ := ok_of_map counted
  refine ⟨count, rfl, ?_⟩
  unfold Headers.ticks at given
  simp only at given
  split at given
  · rename_i short
    cases given
    exact UInt32.toNat_ofNat_of_lt' short
  · cases given

theorem ticksOf_long (timed : header.features.has .deviceTimestamp = true)
    (long : Bytes.capacity 4 ≤ header.deviceTime.nanoseconds / 100000) :
    ticksOf header = .error (.deviceTimeTooLong header.deviceTime) := by
  have beyond : ¬ header.deviceTime.nanoseconds / (tickMicroseconds * 1000) < Bytes.capacity 4 := Nat.not_lt_of_le long
  simp only [ticksOf, written, if_pos timed, Headers.ticks, if_neg beyond, Except.map]

end Fields

section Packets

open Packet

variable {setting : Setting} {builder filled : Builder} {packet payload : Bytes} {position : Nat} {line : Line}

theorem readPayload_stored (read : readPayload setting builder payload = .ok filled) :
    filled.features.has .logTimestamp = builder.features.has .logTimestamp := by
  unfold readPayload at read
  split at read
  · obtain ⟨control, used, _, rfl⟩ := readControl_inv read
    rfl
  · split at read
    · obtain rfl := readVerbose_inv read
      rfl
    · cases read
      exact NonVerbose.decode_stored setting.nonVerbose builder payload

theorem apply_stored {headers : Headers} (builder : Builder) (stored : headers.storage.isSome = true) :
    (headers.apply builder).features.has .logTimestamp = true := by
  have standard : (applyStandard (setIf builder headers.storage applyStorage) headers.standard).features.has
      .logTimestamp = true := by
    rw [has_applyStandard, has_setIf features_applyStorage, stored]
    simp
  rw [apply]
  cases headers.extended with
  | none => exact standard
  | some extended =>
    rw [setIf, has_applyExtended, if_neg (by decide), standard]
    rfl

theorem decode_stamped (file : setting.format = .file) (recorded : builder.clock = .recorded)
    (read : (decode setting builder packet position).1 = .ok line) :
    ∃ storage, StorageHeader.parse packet = .ok storage ∧ line.header.features.has .logTimestamp = true ∧
      line.header.time = Timestamp.ofParts storage.seconds.toNat storage.microseconds.toNat := by
  unfold decode at read
  simp only at read
  split at read
  · cases read
  · rename_i headers payload parsed
    rw [file] at parsed
    obtain ⟨storage, given, there⟩ := parseStorage_inv (parseStorage_of_parse parsed)
    obtain ⟨filled, rest, contents, taken⟩ := finish_inv read
    have lasting := (readPayload_kept contents).2.trans (apply_lasting (builder.setPosition position) headers)
    rw [there] at lasting
    have clock : filled.clock = .recorded := (congrArg Prod.fst lasting).trans recorded
    have header := Builder.takeLine_takeHeader taken
    rw [takeHeader_of_recorded clock] at header
    refine ⟨storage, given, ?_, ?_⟩
    · rw [header]
      exact (readPayload_stored contents).trans (apply_stored _ (by rw [there]; rfl))
    · rw [header]
      exact congrArg Prod.snd lasting

theorem parse_packetOf {services : Services} {count : UInt8} (made : packetOf services .file count line = .ok packet)
    (tail : Bytes) :
    ∃ headers payload, Headers.parse .file (packet ++ tail) = .ok (headers, payload) ∧
      headers.storage = some (storageOf line.header) ∧ ticksOf line.header = .ok headers.standard.ticks := by
  obtain ⟨body, headers, given, headers_made, rfl⟩ := packetOf_ok made
  refine ⟨headers, body.payload ++ tail, ?_, headers_made.storage.trans (if_pos rfl), headers_made.ticks⟩
  rw [List.append_assoc]
  exact parse_encode headers_made.consistent _

theorem storage_packetOf {services : Services} {count : UInt8}
    (made : packetOf services .file count line = .ok packet) :
    StorageHeader.parse packet = .ok (storageOf line.header) := by
  obtain ⟨headers, payload, parsed, there, _⟩ := parse_packetOf made []
  obtain ⟨storage, given, same⟩ := parseStorage_inv (parseStorage_of_parse parsed)
  rw [there] at same
  cases same
  rw [List.append_nil] at given
  exact given

theorem time_of_packetOf {services : Services} {count : UInt8} {again : Line}
    (made : packetOf services .file count line = .ok packet) (file : setting.format = .file)
    (recorded : builder.clock = .recorded) (read : (decode setting builder packet position).1 = .ok again) :
    again.header.time =
      Timestamp.ofParts (storageOf line.header).seconds.toNat (storageOf line.header).microseconds.toNat := by
  obtain ⟨storage, parsed, _, time⟩ := decode_stamped file recorded read
  rw [storage_packetOf made] at parsed
  cases parsed
  exact time

theorem packetOf_long {services : Services} {format : CaptureFormat} {count : UInt8} {body : Body}
    (given : Body.make services line = .ok body) (timed : line.header.features.has .deviceTimestamp = true)
    (long : Bytes.capacity 4 ≤ line.header.deviceTime.nanoseconds / 100000) :
    packetOf services format count line = .error (.deviceTimeTooLong line.header.deviceTime) := by
  simp only [packetOf, given, Headers.ofLine, ticksOf_long timed long, bind, Except.bind]

theorem comes_back_timed {encoder next : Encoder} {written : Bytes} (file : encoder.format = .file)
    (standard : encoder.control = .standard) (read : HeaderRead .file packet line.header) (contents : BodyRead line)
    (encoded : encoder.encode line = .ok (written, next)) :
    ∃ again, ((Decoder.standard .file .recorded none).decodeAll written).1 = [again] ∧
      again.header.time =
        Timestamp.ofParts (storageOf line.header).seconds.toNat (storageOf line.header).microseconds.toNat := by
  rw [← encode_regularized] at encoded
  obtain ⟨again, lines, _, same⟩ := comes_back_restamped standard (headerRead_regularized read)
    (bodyRead_regularized contents) (regular_regularized contents) encoded
  rw [file] at lines same
  have stamped : (stampedFor .file line.regularized.header).features.has .logTimestamp = true :=
    (Features.has_addIf ..).trans (if_pos rfl)
  refine ⟨again, lines, (time_of_equals same stamped).trans ?_⟩
  rw [stampedFor, storageOf_regularized]

end Packets

/-- The times of a line as the packet holds them: whole ticks, the fraction of the capture time to the microsecond, and
of its seconds what four bytes hold, so that the packet has the time itself as long as they fit. -/
structure Timed (header : LineHeader) (headers : Headers) : Prop where
  ticks : header.features.has .deviceTimestamp = true →
    ∃ count, headers.standard.ticks = some count ∧ count.toNat = header.deviceTime.nanoseconds / 100000
  storage : header.features.has .logTimestamp = true → ∃ storage, headers.storage = some storage ∧
    (storage.seconds.toNat : Int) = header.time.seconds % Bytes.capacity 4 ∧
    storage.microseconds.toNat = header.time.nanoseconds / 1000 ∧
    (storage.instant = header.time.instant ↔ 0 ≤ header.time.seconds ∧ header.time.seconds < Bytes.capacity 4)

structure Recorded (stream : Bytes) (storage : StorageHeader) (line : Line) : Prop where
  there : StorageHeader.parse (stream.drop line.header.position) = .ok storage
  stamped : line.header.features.has .logTimestamp = true
  time : line.header.time = Timestamp.ofParts storage.seconds.toNat storage.microseconds.toNat

/-- The line, written into a capture file again, is read with its time exactly if the seconds fit. -/
structure KeptWhileFits (setting : Setting) (storage : StorageHeader) (line : Line) : Prop where
  /-- So it is with any services on the one side and whatever a decoder knows on the other. -/
  read : ∀ (services : Services) (count : UInt8) (packet : Bytes), packetOf services .file count line = .ok packet →
    ∀ (other : Setting) (builder : Builder) (position : Nat) (again : Line), other.format = .file →
      builder.clock = .recorded → (Packet.decode other builder packet position).1 = .ok again →
        (again.header.time = line.header.time ↔ storage.SecondsFit)
  /-- With those of the standard and no frames the packet is indeed read. -/
  comesBack : setting = plainSetting .file → ∀ (encoder next : Encoder) (packet : Bytes), encoder.format = .file →
    encoder.control = .standard → encoder.encode line = .ok (packet, next) →
      ∃ again, ((Decoder.standard .file .recorded none).decodeAll packet).1 = [again] ∧
        (again.header.time = line.header.time ↔ storage.SecondsFit)

theorem timed_packetOf {services : Services} {count : UInt8} {line : Line} {packet : Bytes}
    (made : packetOf services .file count line = .ok packet) (fraction : line.header.time.nanoseconds < 2000000000)
    (tail : Bytes) :
    ∃ headers payload, Headers.parse .file (packet ++ tail) = .ok (headers, payload) ∧ Timed line.header headers := by
  obtain ⟨headers, payload, parsed, stored, counted⟩ := parse_packetOf made tail
  refine ⟨headers, payload, parsed, ⟨fun timed => ticksOf_ok counted timed, fun stamped => ?_⟩⟩
  obtain ⟨seconds, microseconds⟩ := storageOf_fields stamped fraction
  exact ⟨storageOf line.header, stored, seconds, microseconds, instant_storageOf_iff stamped fraction⟩

theorem recorded_of_readFrom {setting : Setting} {stream : Bytes} {line : Line} (file : setting.format = .file)
    (origin : ReadFrom setting stream line) : ∃ storage, Recorded stream storage line := by
  obtain ⟨position, number, length, fresh, inside, read, rfl⟩ := origin
  obtain ⟨storage, parsed, stamped, time⟩ := decode_stamped file rfl read
  have whole := StorageHeader.parse_append parsed ((stream.drop position).drop length)
  rw [List.take_append_drop] at whole
  refine ⟨storage, ?_⟩
  constructor
  case there =>
    rw [Line.placedAt, Line.header_withHeader]
    exact whole
  case stamped =>
    rw [Line.placedAt, Line.header_withHeader]
    exact stamped
  case time =>
    rw [Line.placedAt, Line.header_withHeader]
    exact time

namespace Session

/-- What is written of the times of a line in a capture file, whatever its services write: a device time is refused if
its ticks do not fit their field, while of a capture time only what fits is written. So the lines of a capture file,
written into another one, come back with their time exactly if its seconds, with those among the microseconds of the
storage header, fit 32 bits. -/
theorem times_are_kept_while_seconds_fit (line : Line) :
    (∀ (encoder next : Encoder) (packet : Bytes), encoder.encode line = .ok (packet, next) →
      packetOf encoder.control.encode encoder.format (encoder.countOf line) line = .ok packet) ∧
    (∀ (services : Services) (count : UInt8) (packet tail : Bytes), line.header.time.nanoseconds < 2000000000 →
      packetOf services .file count line = .ok packet →
        ∃ headers payload, Headers.parse .file (packet ++ tail) = .ok (headers, payload) ∧
          Timed line.header headers) ∧
    (∀ (services : Services) (format : CaptureFormat) (count : UInt8) (body : Body),
      Body.make services line = .ok body → line.header.features.has .deviceTimestamp = true →
        Bytes.capacity 4 ≤ line.header.deviceTime.nanoseconds / 100000 →
          packetOf services format count line = .error (.deviceTimeTooLong line.header.deviceTime)) ∧
    ∀ (setting : Setting) (calls : List Call), setting.format = .file →
      (∀ call ∈ calls, call.keepsSetting = true) →
        let session := (Session.start setting).run calls
        line ∈ session.lines → line.isSkipped = false →
          ∃ storage, Recorded session.fed storage line ∧ KeptWhileFits setting storage line := by
  refine ⟨?_, ?_, ?_, ?_⟩
  · intro encoder next packet encoded
    rw [Encoder.encode_eq_packetOf] at encoded
    obtain ⟨made, given, same⟩ := ok_of_map encoded
    cases same
    exact given
  · intro services count packet tail fraction made
    exact timed_packetOf made fraction tail
  · intro services format count body given timed long
    exact packetOf_long given timed long
  · intro setting calls file steady session present whole
    have origin := (lines_readFrom setting calls steady).2 line present whole
    obtain ⟨storage, recorded⟩ := recorded_of_readFrom file origin
    have kept_iff := ofParts_storageOf_iff recorded.stamped recorded.time
    refine ⟨storage, recorded, ⟨?_, ?_⟩⟩
    · intro services count packet made other builder position again same_format offline read
      rw [time_of_packetOf made same_format offline read]
      exact kept_iff
    · rintro rfl encoder next packet encoder_file standard encoded
      obtain ⟨position, number, length, fresh, inside, read, rfl⟩ := origin
      obtain ⟨header, contents⟩ := decode_read read
      obtain ⟨again, lines, time⟩ := comes_back_timed encoder_file standard
        (headerRead_placedAt header position number) (bodyRead_placedAt contents position number) encoded
      refine ⟨again, lines, ?_⟩
      rw [time]
      exact kept_iff

def lastSecond : Bytes :=
  [0x44, 0x4C, 0x54, 0x01, 0xFE, 0xFF, 0xFF, 0xFF, 0x7F, 0x84, 0x1E, 0, 0, 0, 0, 0, 0x20, 0, 0, 8, 1, 0, 0, 0]

def lastSecondLine : Line :=
  .normal
    { LineHeader.blank with
      features := .single .logTimestamp, count := some 0, time := ⟨4294967295, 999999000⟩ }
    (some 1) [.payload []]

def lastSecondCarried : Bytes :=
  [0x44, 0x4C, 0x54, 0x01, 0xFF, 0xFF, 0xFF, 0xFF, 0x3F, 0x42, 0x0F, 0, 0, 0, 0, 0, 0x20, 0, 0, 8, 1, 0, 0, 0]

theorem lastSecondLine_yielded :
    lastSecondLine ∈ ((Session.start (plainSetting .file)).run [.feed lastSecond]).lines := by
  obtain ⟨after, move, reported⟩ : ∃ after, Move.next (plainSetting .file) false ⟨lastSecond, 0⟩
      (Builder.start .recorded) = .packet 24 lastSecondLine after ∧ after.skip.bytes = 0 := ⟨_, rfl, rfl⟩
  have nothing_held : (Session.start (plainSetting .file)).decoder.heldBack = none := rfl
  have swept := congrArg Sweep.lines (Sweep.run_alone move reported)
  rw [run_singleton, lines_feed nothing_held]
  exact List.mem_append_right _ (swept.symm ▸ List.mem_cons_self)

theorem lastSecondLine_keeps_its_time :
    (∀ call ∈ [Call.feed lastSecond], call.keepsSetting = true) ∧
    lastSecondLine ∈ ((Session.start (plainSetting .file)).run [.feed lastSecond]).lines ∧
    Encoder.encode (.start .file) lastSecondLine = .ok (lastSecondCarried, ⟨.file, .standard, 1⟩) ∧
    ∃ again, ((Decoder.standard .file .recorded none).decodeAll lastSecondCarried).1 = [again] ∧
      again.header.time = ⟨4294967295, 999999000⟩ := by
  have steady : ∀ call ∈ [Call.feed lastSecond], call.keepsSetting = true := by decide
  have encoded : Encoder.encode (.start .file) lastSecondLine = .ok (lastSecondCarried, ⟨.file, .standard, 1⟩) := rfl
  obtain ⟨storage, recorded, kept⟩ := (times_are_kept_while_seconds_fit lastSecondLine).2.2.2 (plainSetting .file)
    [.feed lastSecond] rfl steady lastSecondLine_yielded rfl
  have stored : StorageHeader.parse lastSecond = .ok ⟨4294967294, 1999999, 0⟩ := rfl
  have fits : storage.SecondsFit := by
    have there : StorageHeader.parse lastSecond = .ok storage := recorded.there
    rw [stored] at there
    cases there
    unfold StorageHeader.SecondsFit
    decide
  obtain ⟨again, lines, time⟩ := kept.comesBack rfl (.start .file) _ _ rfl rfl encoded
  exact ⟨steady, lastSecondLine_yielded, encoded, again, lines, time.mpr fits⟩

def carrying : Bytes :=
  [0x44, 0x4C, 0x54, 0x01, 0xFF, 0xFF, 0xFF, 0xFF, 0x40, 0x42, 0x0F, 0, 0, 0, 0, 0, 0x20, 0, 0, 8, 1, 0, 0, 0]

def wrapped : Bytes :=
  [0x44, 0x4C, 0x54, 0x01, 0, 0, 0, 0, 0, 0, 0, 0, 0, 0, 0, 0, 0x20, 0, 0, 8, 1, 0, 0, 0]

/-- The encoder takes a time that does not fit and writes another one, which is what the line comes back with. -/
theorem carried_seconds_wrap : ∃ line again,
    ((Decoder.standard .file .recorded none).decodeAll carrying).1 = [line] ∧ line.header.time = ⟨4294967296, 0⟩ ∧
    Encoder.encode (.start .file) line = .ok (wrapped, ⟨.file, .standard, 1⟩) ∧
    ((Decoder.standard .file .recorded none).decodeAll wrapped).1 = [again] ∧ again.header.time = .epoch := by
  obtain ⟨line, after, move, reported, time, encoded⟩ : ∃ line after,
      Move.next (plainSetting .file) false ⟨carrying, 0⟩ (Builder.start .recorded) = .packet 24 line after ∧
        after.skip.bytes = 0 ∧ line.header.time = ⟨4294967296, 0⟩ ∧
        Encoder.encode (.start .file) line = .ok (wrapped, ⟨.file, .standard, 1⟩) := ⟨_, _, rfl, rfl, rfl, rfl⟩
  obtain ⟨again, later, other_move, other_reported, epoch⟩ : ∃ again later,
      Move.next (plainSetting .file) false ⟨wrapped, 0⟩ (Builder.start .recorded) = .packet 24 again later ∧
        later.skip.bytes = 0 ∧ again.header.time = .epoch := ⟨_, _, rfl, rfl, rfl⟩
  exact ⟨line, again, Decoder.decodeAll_alone move reported, time, encoded,
    Decoder.decodeAll_alone other_move other_reported, epoch⟩

end Session

end Stream

end DiagTrace
