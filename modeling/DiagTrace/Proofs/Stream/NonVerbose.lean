import DiagTrace.Proofs.Feature
import DiagTrace.Proofs.Stream.Accounting
import DiagTrace.Proofs.Stream.Applied
import DiagTrace.Proofs.Stream.Framing
import DiagTrace.Proofs.Stream.PacketRoundTrip

/-!
Complete packets with a non-verbose message. Such a packet is a line of its own whatever its payload holds,
unless a frame that fits the payload gives a packet without an extended header a control type: a control
message is then expected that nothing has been read for, and the packet is rejected.
-/
namespace DiagTrace

namespace NonVerbose

theorem identify_typed (builder : Builder) (frame : Frame) :
    (identify builder frame).features.has .messageType = builder.features.has .messageType :=
  identify_kept (fun builder => builder.features.has .messageType) (by simp [Builder.setAppId])
    (by simp [Builder.setCtxId]) (by simp [Builder.setEcuId]) builder frame

theorem applyFrame_type (builder : Builder) (frame : Frame) :
    (applyFrame builder frame).type =
      if builder.features.has .messageType then builder.type else frame.messageType := by
  have type : (identify builder frame).type = builder.type :=
    identify_kept Builder.type (fun _ _ => rfl) (fun _ _ => rfl) (fun _ _ => rfl) builder frame
  rw [applyFrame_eq, identify_typed]
  split
  · exact type
  · rfl

/-- The type that a line gets from the frame for its payload: a line with a type keeps its own, and a frame
that does not fit gives nothing. -/
def frameType? (codec : Codec) (builder : Builder) (data : Bytes) : Option MessageType :=
  if builder.features.has .messageType then none
  else if data.hasAtLeast 4 then
    (decodeBody? codec builder (UInt32.ofNat (builder.order.decode (data.take 4))) (data.drop 4)).map
      fun (frame, _) => frame.messageType
  else none

theorem decode_type (codec : Codec) (builder : Builder) (data : Bytes) :
    (decode codec builder data).type = (frameType? codec builder data).getD builder.type := by
  unfold decode frameType?
  split
  · simp only
    cases decodeBody? codec builder (UInt32.ofNat (builder.order.decode (data.take 4))) (data.drop 4) with
    | none => simp [Builder.addArgument, Builder.setMessageId]
    | some found =>
      obtain ⟨frame, arguments⟩ := found
      have type := applyFrame_type
        (builder.setMessageId (UInt32.ofNat (builder.order.decode (data.take 4)))) frame
      simp only [Option.map_some, Builder.addArguments, type]
      by_cases announced : builder.features.has .messageType
      · simp [announced, Builder.setMessageId]
      · simp [announced, Builder.setMessageId]
  · simp [Builder.addArgument, Builder.setMessageId]

theorem decode_payload (codec : Codec) (builder : Builder) (data : Bytes) :
    (decode codec builder data).payload = builder.payload := by
  unfold decode
  split
  · simp only
    split
    · rename_i frame _ _
      exact applyFrame_payload (builder.setMessageId _) frame
    · rfl
  · rfl

end NonVerbose

namespace Stream

structure Blank (builder : Builder) : Prop where
  type : builder.type = .unknown
  untyped : builder.features.has .messageType = false
  unmarked : builder.features.has .verbose = false
  payload : builder.payload = none

namespace Blank

variable {setting : Setting} {flush : Bool} {input : Cursor} {builder : Builder}

theorem reset (builder : Builder) : Blank builder.reset := by
  have fresh : ∀ feature, feature ≠ .bigEndian → feature ≠ .logTimestamp →
      builder.reset.features.has feature = false := by
    intro feature ordered timed
    simp only [Builder.reset, Builder.initialFeatures, Features.has_addIf, Ne.symm ordered, Ne.symm timed,
      ↓reduceIte]
    cases feature <;> rfl
  exact ⟨rfl, fresh _ Feature.noConfusion Feature.noConfusion, fresh _ Feature.noConfusion Feature.noConfusion, rfl⟩

theorem start (clock : Clock) : Blank (Builder.start clock) := by
  cases clock with
  | recorded => constructor <;> decide
  | running now =>
    have started : (Builder.start (.running now)).features =
        Builder.initialFeatures (.running .epoch) false := rfl
    constructor
    · rfl
    · rw [started]
      decide
    · rw [started]
      decide
    · rfl

theorem moveTo (blank : Blank builder) (place : Builder.Place) : Blank (builder.moveTo place) :=
  ⟨blank.type, blank.untyped, blank.unmarked, blank.payload⟩

theorem decode (setting : Setting) (builder : Builder) (packet : Bytes) (position : Nat) :
    Blank (Packet.decode setting builder packet position).2 := by
  unfold Packet.decode
  simp only
  split
  · exact reset _
  · exact reset _

theorem skip (blank : Blank builder) (bytes position : Nat) (reason : SkipReason) :
    Blank (Pass.skip builder bytes position reason) := by
  rw [skip_eq_moveTo]
  exact blank.moveTo _

theorem takeSkipped (blank : Blank builder) : Blank builder.takeSkipped.2 :=
  blank.moveTo builder.takeSkipped.2.place

theorem deliver (blank : Blank builder) (line : Line) (rest : Cursor) :
    Blank (Pass.deliver line rest builder).builder := by
  simp only [Pass.deliver]
  split
  · exact blank
  · exact blank.takeSkipped

theorem atEnd (blank : Blank builder) (input : Cursor) : Blank (Pass.atEnd input builder).builder := by
  simp only [Pass.atEnd]
  split
  · exact blank.skip ..
  · exact (blank.skip ..).takeSkipped

theorem scan (blank : Blank builder) (setting : Setting) (flush : Bool) (input : Cursor) :
    Blank (Pass.scan setting flush input builder).builder := by
  fun_induction Pass.scan setting flush input builder with
  | case1 => exact blank.atEnd _
  | case2 => exact blank
  | case3 _ _ _ _ _ _ ih => exact ih (blank.skip ..)
  | case4 _ _ _ _ _ _ _ ih => exact ih (blank.skip ..)
  | case5 => exact blank
  | case6 input before length _ _ _ line after decoded =>
    have cleared := decode setting before (input.rest.take length) input.position
    rw [decoded] at cleared
    exact cleared.deliver line _
  | case7 input before _ length _ _ _ _ after decoded ih =>
    have cleared := decode setting before (input.rest.take length) input.position
    rw [decoded] at cleared
    exact ih (cleared.skip ..)

end Blank

/-- A decoder after any use of it: lines asked for one at a time or all at once from any input, at the end of
a stream or not, and changes of what it knows. -/
inductive Reached (format : CaptureFormat) : Decoder → Prop where
  | start {setting : Setting} (clock : Clock) (framed : setting.format = format) :
      Reached format (.start setting clock)
  | step {decoder : Decoder} (before : Reached format decoder) (flush : Bool) (input : Cursor) :
      Reached format (decoder.step flush input).2
  | keep {decoder : Decoder} (before : Reached format decoder) (input : Cursor) :
      Reached format { decoder with input }
  | adjust {decoder : Decoder} (before : Reached format decoder) (control : Control.Registry)
      (nonVerbose : NonVerbose.Codec) :
      Reached format { decoder with setting := { decoder.setting with control, nonVerbose } }

namespace Reached

variable {format : CaptureFormat} {decoder : Decoder}

theorem drain (before : Reached format decoder) (flush : Bool) (input : Cursor) (done : List Line) :
    Reached format (decoder.drain flush input done).2 := by
  fun_induction Decoder.drain flush decoder input done with
  | case1 decoder input done line rest next stepped less ih =>
    have after := before.step flush input
    rw [stepped] at after
    exact ih after
  | case2 decoder input done rest next stepped =>
    have after := before.step flush input
    rw [stepped] at after
    exact after.keep rest

theorem run (setting : Setting) (calls : List Call) :
    Reached setting.format ((Session.start setting).run calls).decoder := by
  refine (Session.run_invariant (fun session => Reached setting.format session.decoder) (start .recorded rfl)
    (fun session call _ before => ?_) calls).1
  cases call with
  | feed data => exact before.drain false _ []
  | flush => exact before.drain true _ []
  | adjust control nonVerbose => exact before.adjust control nonVerbose

theorem blank (reached : Reached format decoder) :
    decoder.setting.format = format ∧ Blank decoder.builder := by
  induction reached with
  | start clock framed => exact ⟨framed, .start clock⟩
  | step before flush input ih =>
    unfold Decoder.step
    split
    · exact ih
    · simp only
      split
      · exact ⟨ih.1, ih.2.scan _ flush input⟩
      · exact ⟨ih.1, ih.2.scan _ flush input⟩
  | keep before input ih => exact ih
  | adjust before control nonVerbose ih => exact ih

end Reached

namespace Headers

variable {headers : Headers} {builder : Builder}

def NonVerbose (headers : Headers) : Prop :=
  ∀ header ∈ headers.extended, header.isVerbose = false ∧ (MessageType.ofInfo header.info).isControl = false

theorem applyStorage_kept (builder : Builder) (header : StorageHeader) :
    (applyStorage builder header).type = builder.type ∧ (applyStorage builder header).payload = builder.payload := by
  unfold applyStorage Builder.setStorageEcuId
  split
  · exact ⟨rfl, rfl⟩
  · exact ⟨rfl, rfl⟩

theorem applyStandard_kept (builder : Builder) (header : StandardHeader) :
    (applyStandard builder header).type = builder.type ∧
      (applyStandard builder header).payload = builder.payload := by
  obtain ⟨type, count, length, ecuId, session, ticks⟩ := header
  cases ecuId <;> cases session <;> cases ticks <;> exact ⟨rfl, rfl⟩

theorem stored_kept (builder : Builder) (storage : Option StorageHeader) :
    (setIf builder storage applyStorage).type = builder.type ∧
      (setIf builder storage applyStorage).payload = builder.payload := by
  cases storage with
  | none => exact ⟨rfl, rfl⟩
  | some header => exact applyStorage_kept builder header

structure Announced (headers : Headers) (builder : Builder) : Prop where
  type : builder.type = headers.extended.elim .unknown fun header => MessageType.ofInfo header.info
  typed : builder.features.has .messageType = headers.extended.isSome
  marked : builder.isVerbose = headers.extended.any ExtendedHeader.isVerbose
  payload : builder.payload = none

theorem announced_apply (blank : Blank builder) (headers : Headers) :
    Announced headers (headers.apply builder) := by
  obtain ⟨storage, standard, extended⟩ := headers
  obtain ⟨stored_type, stored_payload⟩ := stored_kept builder storage
  obtain ⟨type, payload⟩ := applyStandard_kept (setIf builder storage applyStorage) standard
  have has : ∀ feature ∈ [Feature.messageType, .verbose],
      (applyStandard (setIf builder storage applyStorage) standard).features.has feature = false := by
    intro feature listed
    rw [has_applyStandard, has_setIf features_applyStorage]
    simp only [List.mem_cons, List.not_mem_nil, or_false] at listed
    rcases listed with rfl | rfl
    · simp [blank.untyped]
    · simp [blank.unmarked]
  cases extended with
  | none =>
    constructor
    · exact type.trans (stored_type.trans blank.type)
    · exact has .messageType (by decide)
    · exact has .verbose (by decide)
    · exact payload.trans (stored_payload.trans blank.payload)
  | some header =>
    constructor
    · rfl
    · simp [apply, setIf, has_applyExtended]
    · simp [apply, setIf, Builder.isVerbose, has_applyExtended]
    · exact payload.trans (stored_payload.trans blank.payload)

end Headers

section Packet

open Packet

variable {setting : Setting} {builder : Builder} {headers : Headers} {payload : Bytes}

theorem finish_nonVerbose (announced : headers.Announced builder) (plain : headers.NonVerbose) (setting : Setting)
    (payload : Bytes) :
    match (NonVerbose.frameType? setting.nonVerbose builder payload).filter MessageType.isControl with
    | some type => (finish setting builder payload).1 = .error (.controlPayloadMissing type)
    | none => ∃ header id arguments, (finish setting builder payload).1 = .ok (.normal header id arguments) := by
  have unmarked : builder.isVerbose = false := by
    rw [announced.marked]
    cases given : headers.extended with
    | none => rfl
    | some header => exact (plain header given).1
  have ordinary : builder.type.isControl = false := by
    rw [announced.type]
    cases given : headers.extended with
    | none => rfl
    | some header => exact (plain header given).2
  have read : readPayload setting builder payload = .ok (NonVerbose.decode setting.nonVerbose builder payload) := by
    simp only [readPayload, ordinary, unmarked, Bool.false_eq_true, ↓reduceIte]
  have type := NonVerbose.decode_type setting.nonVerbose builder payload
  have missing := (NonVerbose.decode_payload setting.nonVerbose builder payload).trans announced.payload
  rw [finish_eq read]
  generalize NonVerbose.decode setting.nonVerbose builder payload = filled at type missing
  have normal : filled.type.isControl = false →
      ∃ header id arguments, filled.takeLine.map Prod.fst = .ok (.normal header id arguments) :=
    fun kind => ⟨_, _, _, takeLine_ordinary filled kind⟩
  cases given : NonVerbose.frameType? setting.nonVerbose builder payload with
  | none =>
    rw [given] at type
    exact normal (type ▸ ordinary)
  | some frameType =>
    rw [given] at type
    cases control : frameType.isControl with
    | false =>
      simp only [Option.filter, control, Bool.false_eq_true, ↓reduceIte]
      exact normal (type ▸ control)
    | true =>
      simp only [Option.filter, control, ↓reduceIte]
      have managed : filled.type.isControl = true := type ▸ control
      rw [Builder.takeLine, managed, missing, type]
      rfl

/-- A builder that nothing has been put into makes a line of a complete packet, or rejects it for the type
that a frame gave it. -/
theorem decode_nonVerbose {format : CaptureFormat} {packet : Bytes} (blank : Blank builder)
    (framed : setting.format = format) (parsed : Headers.parse format packet = .ok (headers, payload))
    (plain : headers.NonVerbose) (position : Nat) :
    match (NonVerbose.frameType? setting.nonVerbose (headers.apply (builder.setPosition position)) payload).filter
      MessageType.isControl with
    | some type => (decode setting builder packet position).1 = .error (.controlPayloadMissing type)
    | none => ∃ header id arguments, (decode setting builder packet position).1 =
        .ok (.normal header id arguments) := by
  have announced := Headers.announced_apply (blank.moveTo { builder.place with position }) headers
  have placed : builder.setPosition position = builder.moveTo { builder.place with position } := rfl
  have finished := finish_nonVerbose announced plain setting payload
  unfold decode
  rw [framed, parsed, placed]
  exact finished

end Packet

variable {format : CaptureFormat} {decoder : Decoder} {packet : Bytes}

def Reports (span : SkipSpan) (report : List Line) : Prop :=
  if span.bytes = 0 then report = [] else ∃ header, report = [.skipped header span.bytes span.reason]

theorem deliver_lines (line : Line) (rest : Cursor) (builder : Builder) :
    ∃ number report, (Pass.deliver line rest builder).lines = report ++ [line.withNumber number] ∧
      Reports builder.skip report ∧ (Pass.deliver line rest builder).rest = rest := by
  unfold Pass.deliver Reports
  split
  · have same : line.withNumber line.number = line := by cases line <;> rfl
    refine ⟨line.number, [], ?_, rfl, rfl⟩
    rw [same]
    rfl
  · exact ⟨builder.takeSkipped.1.number, [builder.takeSkipped.1.withNumber line.number], rfl, ⟨_, rfl⟩, rfl⟩

/-- At any time in the use of a decoder, and whatever follows: a complete packet with a non-verbose message is
a normal line that takes up the whole packet, whatever is in its payload, unless the frame for its payload is
of a control type and the packet has no extended header. Such a packet is given up as invalid. -/
theorem nonVerbose_packet_is_a_line (reached : Reached format decoder)
    (found : Finding.ofBytes format packet = .candidate packet.length) (more : Bytes) (position : Nat)
    (flush : Bool) :
    ∃ headers payload, Headers.parse format packet = .ok (headers, payload) ∧ (headers.NonVerbose →
      let given := NonVerbose.frameType? decoder.setting.nonVerbose
        (headers.apply (decoder.builder.setPosition position)) payload
      let pass := Pass.scan decoder.setting flush ⟨packet ++ more, position⟩ decoder.builder
      (headers.extended.isSome = true → given = none) ∧
      match given.filter MessageType.isControl with
      | none => ∃ report header id arguments, pass.lines = report ++ [.normal header id arguments] ∧
          Reports decoder.builder.skip report ∧ header.position = position ∧
          pass.rest = ⟨more, position + packet.length⟩
      | some type =>
          (Packet.decode decoder.setting decoder.builder packet position).1 =
            .error (.controlPayloadMissing type) ∧
          ∃ after, Move.next decoder.setting flush ⟨packet ++ more, position⟩ decoder.builder =
            .giveUp format.minimumDiscard .invalidPacket after) := by
  obtain ⟨framed, blank⟩ := reached.blank
  obtain ⟨headers, payload, parsed⟩ := Headers.parse_of_candidate found
  refine ⟨headers, payload, parsed, ?_⟩
  intro plain given pass
  constructor
  · intro extended
    have announced := Headers.announced_apply (blank.moveTo { decoder.builder.place with position }) headers
    exact if_pos (announced.typed.trans extended)
  have read := decode_nonVerbose blank framed parsed plain position
  have front : Finding.ofBytes decoder.setting.format (packet ++ more) = .candidate packet.length := by
    rw [framed]
    exact Finding.candidate_append found more
  have move := Move.next_of_candidate front flush decoder.builder position
  have span := (Packet.decode_kept decoder.setting decoder.builder packet position).1
  rcases decoded : Packet.decode decoder.setting decoder.builder packet position with ⟨result, after⟩
  rw [decoded] at read move span
  -- the type from the frame is all that the packet can be rejected for
  cases managed : given.filter MessageType.isControl with
  | none =>
    simp only [given] at managed
    simp only [managed] at read
    obtain ⟨header, id, arguments, rfl⟩ := read
    obtain ⟨number, report, lines, reports, rest⟩ := deliver_lines (.normal header id arguments)
      (Cursor.advance ⟨packet ++ more, position⟩ packet.length) after
    have delivered : pass = Pass.deliver (.normal header id arguments)
        (Cursor.advance ⟨packet ++ more, position⟩ packet.length) after := by
      simp only [pass, Pass.scan_eq_next, move]
    rw [Cursor.advance_front] at delivered lines rest
    rw [span] at reports
    rw [delivered]
    exact ⟨report, { header with number }, id, arguments, lines, reports, (Packet.decode_line decoded).1, rest⟩
  | some type =>
    simp only [given] at managed
    simp only [managed] at read
    subst read
    rw [framed] at move
    exact ⟨rfl, after, move⟩

section Requests

def requestFrame : Frame := { Frame.plain 1 with messageType := .control .request }

def requestFrames : FrameMap :=
  ⟨[requestFrame], Std.HashMap.emptyWithCapacity.insertIfNew (.ofId 1) requestFrame⟩

def requestReader : Decoder := .standard .network .recorded (some requestFrames)

theorem loaded_requestFrames : FrameMap.ofList [requestFrame] = .ok requestFrames := by
  have keys : requestFrame.keys = [.ofId 1] := rfl
  have key : requestFrame.key = .ofId 1 := rfl
  have absent : FrameMap.empty.index.contains (.ofId 1) = false := Std.HashMap.contains_empty
  simp only [FrameMap.ofList, List.foldlM_cons, List.foldlM_nil, FrameMap.add, key, absent, keys]
  rfl

theorem find?_requestFrames : requestFrames.find? 1 none none none = some requestFrame := by
  have keys : FrameKey.candidates 1 none none none = [.ofId 1] := rfl
  have entry : requestFrames.index[FrameKey.ofId 1]? = some requestFrame := by
    rw [requestFrames, Std.HashMap.getElem?_insertIfNew, if_pos]
    simp
  rw [FrameMap.find?, keys, List.findSome?_cons, entry]

theorem frameType?_request {builder : Builder} (bare : builder.features = Features.none) (body : Bytes) :
    NonVerbose.frameType? requestReader.setting.nonVerbose builder ([1, 0, 0, 0] ++ body) =
      if body.isEmpty then some (.control .request) else none := by
  have untyped : builder.features.has .messageType = false := by
    rw [bare]
    rfl
  have number : UInt32.ofNat (builder.order.decode [1, 0, 0, 0]) = 1 := by
    rw [Builder.order, Builder.isBigEndian, bare]
    rfl
  have unknown : ∀ feature value, NonVerbose.known builder feature value = none := by
    intro feature value
    rw [NonVerbose.known, bare]
    cases feature <;> rfl
  have frame : NonVerbose.findFrame? requestReader.setting.nonVerbose builder 1 = some requestFrame := by
    simp only [NonVerbose.findFrame?, unknown]
    exact find?_requestFrames
  have fits : NonVerbose.decodeBody? requestReader.setting.nonVerbose builder 1 body =
      if body.isEmpty then some (requestFrame, []) else none := by
    rw [NonVerbose.decodeBody?, frame]
    cases body with
    | nil => rfl
    | cons byte body => rfl
  have long : Bytes.hasAtLeast ([1, 0, 0, 0] ++ body) 4 = true := by
    rw [Bytes.hasAtLeast_iff, List.length_append]
    exact Nat.le_add_right ..
  rw [NonVerbose.frameType?, untyped, if_neg Bool.false_ne_true, if_pos long]
  change (NonVerbose.decodeBody? requestReader.setting.nonVerbose builder
    (UInt32.ofNat (builder.order.decode [1, 0, 0, 0])) body).map (fun (frame, _) => frame.messageType) = _
  rw [number, fits]
  cases body with
  | nil => rfl
  | cons byte body => rfl

def bareHeaders (length : UInt16) : Headers := ⟨none, ⟨0x20, 0, length, none, none, none⟩, none⟩

theorem plain_bareHeaders (length : UInt16) : (bareHeaders length).NonVerbose := by
  intro header there
  cases there

theorem unfitting_payload_is_a_line :
    Reached .network requestReader ∧
    Finding.ofBytes .network [0x20, 0, 0, 9, 1, 0, 0, 0, 0xFF] = .candidate 9 ∧ (bareHeaders 9).NonVerbose ∧
    ∃ header id arguments,
      (Pass.scan requestReader.setting false ⟨[0x20, 0, 0, 9, 1, 0, 0, 0, 0xFF], 0⟩ requestReader.builder).lines =
        [.normal header id arguments] := by
  have reached : Reached .network requestReader := .start .recorded rfl
  have found : Finding.ofBytes .network [0x20, 0, 0, 9, 1, 0, 0, 0, 0xFF] = .candidate 9 := by decide
  have plain := plain_bareHeaders 9
  obtain ⟨headers, payload, parsed, read⟩ := nonVerbose_packet_is_a_line reached found [] 0 false
  obtain ⟨rfl, rfl⟩ : headers = bareHeaders 9 ∧ payload = [1, 0, 0, 0, 0xFF] :=
    Prod.mk.inj (Except.ok.inj (parsed.symm.trans rfl))
  have given : NonVerbose.frameType? requestReader.setting.nonVerbose
      (Headers.apply (requestReader.builder.setPosition 0) (bareHeaders 9)) [1, 0, 0, 0, 0xFF] = none :=
    frameType?_request rfl [0xFF]
  obtain ⟨_, line⟩ := read plain
  rw [given] at line
  obtain ⟨report, header, id, arguments, lines, reports, _⟩ := line
  obtain rfl : report = [] := reports
  exact ⟨reached, found, plain, header, id, arguments, lines⟩

/-- A packet of nothing but its number is rejected for its frame alone. -/
theorem frame_of_control_type_rejects_packet :
    FrameMap.ofList [requestFrame] = .ok requestFrames ∧
    Finding.ofBytes .network [0x20, 0, 0, 8, 1, 0, 0, 0] = .candidate 8 ∧
    Headers.parse .network [0x20, 0, 0, 8, 1, 0, 0, 0] = .ok (bareHeaders 8, [1, 0, 0, 0]) ∧
    (bareHeaders 8).NonVerbose ∧
    (Packet.decode requestReader.setting requestReader.builder [0x20, 0, 0, 8, 1, 0, 0, 0] 0).1 =
      .error (.controlPayloadMissing (.control .request)) := by
  have found : Finding.ofBytes .network [0x20, 0, 0, 8, 1, 0, 0, 0] = .candidate 8 := by decide
  have parsed : Headers.parse .network [0x20, 0, 0, 8, 1, 0, 0, 0] = .ok (bareHeaders 8, [1, 0, 0, 0]) := rfl
  have plain := plain_bareHeaders 8
  have given : NonVerbose.frameType? requestReader.setting.nonVerbose
      (Headers.apply (requestReader.builder.setPosition 0) (bareHeaders 8)) [1, 0, 0, 0] =
        some (.control .request) := frameType?_request rfl []
  have blank : Blank requestReader.builder := .start .recorded
  have framed : requestReader.setting.format = .network := rfl
  have rejected := decode_nonVerbose blank framed parsed plain 0
  rw [given] at rejected
  exact ⟨loaded_requestFrames, found, parsed, plain, rejected⟩

end Requests

end Stream

end DiagTrace
