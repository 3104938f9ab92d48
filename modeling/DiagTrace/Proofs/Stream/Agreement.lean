import DiagTrace.Line.Equality
import DiagTrace.Proofs.Stream.Encoding

/-!
What a line shows: its contents, its counter, and the header fields whose feature is set. All else in a header, its
number and position included, may be left over from another line; none of it reaches a packet.
-/
namespace DiagTrace

namespace LineHeader

variable {a b : LineHeader}

/-- The same features and counter, and the same value in each field whose feature is set. -/
structure Agrees (a b : LineHeader) : Prop where
  features : a.features = b.features
  count : a.count = b.count
  ecuId : a.features.has .ecuId = true → a.ecuId = b.ecuId
  appId : a.features.has .appId = true → a.appId = b.appId
  ctxId : a.features.has .ctxId = true → a.ctxId = b.ctxId
  deviceTime : a.features.has .deviceTimestamp = true → a.deviceTime = b.deviceTime
  session : a.features.has .sessionId = true → a.session = b.session
  time : a.features.has .logTimestamp = true → a.time = b.time
  type : a.features.has .messageType = true → a.type = b.type

theorem fieldEquals_iff {α : Type} [DecidableEq α] (header : LineHeader) (feature : Feature) (x y : α) :
    header.fieldEquals feature x y = true ↔ (header.features.has feature = true → x = y) := by
  unfold fieldEquals
  cases header.features.has feature with
  | false => simp
  | true => simp

theorem equals_iff_agrees : a.equals b = true ↔ a.Agrees b := by
  simp only [equals, Bool.and_eq_true, beq_iff_eq, fieldEquals_iff]
  constructor
  · rintro ⟨⟨⟨⟨⟨⟨⟨⟨features, count⟩, ecuId⟩, appId⟩, ctxId⟩, deviceTime⟩, session⟩, time⟩, type⟩
    exact ⟨features, count, ecuId, appId, ctxId, deviceTime, session, time, type⟩
  · intro same
    exact ⟨⟨⟨⟨⟨⟨⟨⟨same.features, same.count⟩, same.ecuId⟩, same.appId⟩, same.ctxId⟩, same.deviceTime⟩,
      same.session⟩, same.time⟩, same.type⟩

def shownOr {α : Type} (header : LineHeader) (feature : Feature) (value default : α) : α :=
  if header.features.has feature then value else default

/-- The header with nothing in the fields that do not count. -/
def shown (header : LineHeader) : LineHeader where
  features := header.features
  ecuId := header.shownOr .ecuId header.ecuId blank.ecuId
  appId := header.shownOr .appId header.appId blank.appId
  ctxId := header.shownOr .ctxId header.ctxId blank.ctxId
  count := header.count
  deviceTime := header.shownOr .deviceTimestamp header.deviceTime blank.deviceTime
  session := header.shownOr .sessionId header.session blank.session
  time := header.shownOr .logTimestamp header.time blank.time
  type := header.shownOr .messageType header.type blank.type
  number := blank.number
  position := blank.position

theorem shownOr_congr {α : Type} {feature : Feature} {x y : α} (features : a.features = b.features)
    (same : a.features.has feature = true → x = y) (default : α) :
    a.shownOr feature x default = b.shownOr feature y default := by
  unfold shownOr
  rw [← features]
  split
  · rename_i set
    exact same set
  · rfl

theorem eq_of_shownOr {α : Type} {feature : Feature} {x y default : α} (features : a.features = b.features)
    (same : a.shownOr feature x default = b.shownOr feature y default) (set : a.features.has feature = true) :
    x = y := by
  have other : b.features.has feature = true := by rw [← features, set]
  rw [shownOr, shownOr, if_pos set, if_pos other] at same
  exact same

theorem agrees_iff_shown : a.Agrees b ↔ a.shown = b.shown := by
  constructor
  · intro same
    simp only [shown, same.features, same.count, shownOr_congr same.features same.ecuId,
      shownOr_congr same.features same.appId, shownOr_congr same.features same.ctxId,
      shownOr_congr same.features same.deviceTime, shownOr_congr same.features same.session,
      shownOr_congr same.features same.time, shownOr_congr same.features same.type]
  · intro same
    have features : a.shown.features = b.shown.features := congrArg LineHeader.features same
    have count : a.shown.count = b.shown.count := congrArg LineHeader.count same
    constructor
    case features => exact features
    case count => exact count
    case ecuId => exact eq_of_shownOr features (congrArg LineHeader.ecuId same)
    case appId => exact eq_of_shownOr features (congrArg LineHeader.appId same)
    case ctxId => exact eq_of_shownOr features (congrArg LineHeader.ctxId same)
    case deviceTime => exact eq_of_shownOr features (congrArg LineHeader.deviceTime same)
    case session => exact eq_of_shownOr features (congrArg LineHeader.session same)
    case time => exact eq_of_shownOr features (congrArg LineHeader.time same)
    case type => exact eq_of_shownOr features (congrArg LineHeader.type same)

theorem equals_iff_shown : a.equals b = true ↔ a.shown = b.shown :=
  equals_iff_agrees.trans agrees_iff_shown

theorem equals_equivalence : Equivalence fun a b : LineHeader => a.equals b = true := by
  constructor
  case refl =>
    intro a
    exact equals_iff_shown.mpr rfl
  case symm =>
    intro a b same
    exact equals_iff_shown.mpr (equals_iff_shown.mp same).symm
  case trans =>
    intro a b c first second
    exact equals_iff_shown.mpr ((equals_iff_shown.mp first).trans (equals_iff_shown.mp second))

end LineHeader

namespace Line

/-- Lines of one kind with the same contents, whose headers agree. -/
inductive Agrees : Line → Line → Prop where
  | normal {a b : LineHeader} (messageId : Option UInt32) (arguments : List Argument) (headers : a.Agrees b) :
      Agrees (.normal a messageId arguments) (.normal b messageId arguments)
  | control {a b : LineHeader} (payload : Control.Payload) (headers : a.Agrees b) :
      Agrees (.control a payload) (.control b payload)
  | skipped {a b : LineHeader} (bytes : Nat) (reason : Option String) (headers : a.Agrees b) :
      Agrees (.skipped a bytes reason) (.skipped b bytes reason)

def shown (line : Line) : Line := line.withHeader line.header.shown

variable {a b : Line}

theorem Agrees.header (same : a.Agrees b) : a.header.Agrees b.header := by
  cases same with
  | normal messageId arguments headers => exact headers
  | control payload headers => exact headers
  | skipped bytes reason headers => exact headers

theorem Agrees.shown_eq (same : a.Agrees b) : a.shown = b.shown := by
  have headers := LineHeader.agrees_iff_shown.mp same.header
  cases same with
  | normal messageId arguments => exact congrArg (Line.normal · messageId arguments) headers
  | control payload => exact congrArg (Line.control · payload) headers
  | skipped bytes reason => exact congrArg (Line.skipped · bytes reason) headers

end Line

namespace Stream

open Effect

section Parts

variable (header : LineHeader)

theorem written_shown {α : Type} (feature : Feature) (value default : α) :
    Headers.written header.shown feature (header.shownOr feature value default) =
      Headers.written header feature value := by
  unfold Headers.written LineHeader.shownOr LineHeader.shown
  split
  · rfl
  · rfl

theorem idOrZero_shown (feature : Feature) (id default : String) :
    Headers.idOrZero header.shown feature (header.shownOr feature id default) =
      Headers.idOrZero header feature id := by
  unfold Headers.idOrZero LineHeader.shownOr LineHeader.shown
  split
  · rfl
  · rfl

theorem writtenType_shown : Body.writtenType header.shown = Body.writtenType header := by
  unfold Body.writtenType LineHeader.shown LineHeader.shownOr
  cases header.features.has .messageType with
  | false => rfl
  | true => rfl

theorem ticksOf_shown : Headers.ticksOf header.shown = Headers.ticksOf header := by
  unfold Headers.ticksOf
  rw [← written_shown header .deviceTimestamp header.deviceTime LineHeader.blank.deviceTime]
  rfl

theorem storageOf_shown : Headers.storageOf header.shown = Headers.storageOf header := by
  unfold Headers.storageOf
  rw [← written_shown header .logTimestamp header.time LineHeader.blank.time,
    ← idOrZero_shown header .ecuId header.ecuId LineHeader.blank.ecuId]
  rfl

theorem extendedOf_shown (body : Body) : Headers.extendedOf header.shown body = Headers.extendedOf header body := by
  unfold Headers.extendedOf
  rw [← idOrZero_shown header .appId header.appId LineHeader.blank.appId,
    ← idOrZero_shown header .ctxId header.ctxId LineHeader.blank.ctxId]
  rfl

end Parts

section Packets

variable (line : Line)

theorem body_shown (registry : Control.Registry) : Body.ofLine registry line.shown = Body.ofLine registry line := by
  cases line with
  | normal header messageId arguments =>
    simp only [Line.shown, Line.withHeader, Line.header, Body.ofLine, Body.ofArguments, writtenType_shown]
    rfl
  | control header payload => rfl
  | skipped header bytes reason => rfl

theorem needsExtended_shown (body : Body) :
    Headers.needsExtended line.shown body = Headers.needsExtended line body := by
  cases line <;> rfl

theorem headers_shown (format : CaptureFormat) (count : UInt8) (body : Body) :
    Headers.ofLine format count line.shown body = Headers.ofLine format count line body := by
  have header : line.shown.header = line.header.shown := Line.header_withHeader ..
  have ecuId : Headers.written line.header.shown .ecuId (Ident.packed line.header.shown.ecuId) =
      Headers.written line.header .ecuId (Ident.packed line.header.ecuId) := by
    unfold Headers.written LineHeader.shown LineHeader.shownOr
    split
    · rfl
    · rfl
  have session : Headers.written line.header.shown .sessionId line.header.shown.session =
      Headers.written line.header .sessionId line.header.session :=
    written_shown line.header .sessionId line.header.session LineHeader.blank.session
  have type : ∀ extended, Headers.typeOf line.header.shown extended = Headers.typeOf line.header extended :=
    fun _ => rfl
  simp only [Headers.ofLine, header, needsExtended_shown, ticksOf_shown, storageOf_shown, extendedOf_shown, type,
    ecuId, session]

theorem encode_shown (encoder : Encoder) : encoder.encode line.shown = encoder.encode line := by
  have count : line.shown.header.count = line.header.count := by
    rw [Line.shown, Line.header_withHeader]
    rfl
  simp only [Encoder.encode, body_shown, headers_shown, count]

end Packets

/-- Lines that agree in what they show are written in the same way by every encoder: as the same packet or with the
same fault, with or without a buffer to fill, and with the same counter afterwards, also where the line cannot be
written. Agreeing headers are equal ones, and this equality is an equivalence. -/
theorem unset_fields_are_not_written {a b : Line} (same : a.Agrees b) :
    (∀ (encoder : Encoder) (buffer : Bytes),
      encoder.encode a = encoder.encode b ∧ encoder.encodeInto buffer a = encoder.encodeInto buffer b ∧
      perform (build a) ⟨encoder, buffer⟩ = perform (build b) ⟨encoder, buffer⟩ ∧
      perform (write a) ⟨encoder, buffer⟩ = perform (write b) ⟨encoder, buffer⟩) ∧
    a.header.equals b.header = true ∧ Equivalence fun x y : LineHeader => x.equals y = true := by
  have packet : ∀ encoder : Encoder, encoder.encode a = encoder.encode b := by
    intro encoder
    rw [← encode_shown a, ← encode_shown b, same.shown_eq]
  have filled : ∀ (encoder : Encoder) (buffer : Bytes), encoder.encodeInto buffer a = encoder.encodeInto buffer b := by
    intro encoder buffer
    rw [Encoder.encodeInto_eq, Encoder.encodeInto_eq, packet]
  constructor
  · intro encoder buffer
    refine ⟨packet encoder, filled encoder buffer, ?_, ?_⟩
    · rw [perform_build, perform_build, packet]
    · rw [perform_write, perform_write, filled]
  · exact ⟨LineHeader.equals_iff_agrees.mpr same.header, LineHeader.equals_equivalence⟩

def staleHeader : LineHeader :=
  { features := .single .verbose, ecuId := "OLD", appId := "OLD", ctxId := "OLD", count := some 7
    deviceTime := ⟨5000000000000000⟩, session := 99, time := ⟨1700000000, 5000⟩, type := .log .fatal
    number := 12, position := 480 }

def freshHeader : LineHeader := { LineHeader.blank with features := .single .verbose, count := some 7 }

theorem stale_fields_are_not_written :
    (Line.normal staleHeader none [.bool true]).Agrees (.normal freshHeader none [.bool true]) ∧
    ((∀ (encoder : Encoder) (buffer : Bytes),
      encoder.encode (.normal staleHeader none [.bool true]) =
        encoder.encode (.normal freshHeader none [.bool true]) ∧
      encoder.encodeInto buffer (.normal staleHeader none [.bool true]) =
        encoder.encodeInto buffer (.normal freshHeader none [.bool true]) ∧
      perform (build (.normal staleHeader none [.bool true])) ⟨encoder, buffer⟩ =
        perform (build (.normal freshHeader none [.bool true])) ⟨encoder, buffer⟩ ∧
      perform (write (.normal staleHeader none [.bool true])) ⟨encoder, buffer⟩ =
        perform (write (.normal freshHeader none [.bool true])) ⟨encoder, buffer⟩) ∧
    staleHeader.equals freshHeader = true ∧ Equivalence fun x y : LineHeader => x.equals y = true) := by
  have headers : staleHeader.Agrees freshHeader := LineHeader.equals_iff_agrees.mp (by decide)
  have same := Line.Agrees.normal none [.bool true] headers
  exact ⟨same, unset_fields_are_not_written same⟩

end Stream

end DiagTrace
