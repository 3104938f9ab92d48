import DiagTrace.Proofs.Stream.Rewriting

/-!
Lines that were read but are not regular: with a type that is not known, or for control and marked verbose. Their
packets do not say so again, so each is written as a regular line is, `Line.regularized`.
-/
namespace DiagTrace

def Line.regularized : Line → Line
  | .normal header messageId arguments =>
    .normal
      { header with
        type := if header.features.has .messageType then Stream.Body.writtenType header else header.type }
      messageId arguments
  | .control header payload => .control { header with features := header.features.addIf .verbose false } payload
  | .skipped header bytes reason => .skipped header bytes reason

namespace Stream

open Headers

variable {format : CaptureFormat} {packet : Bytes} {line : Line}

theorem writtenType_regularized (header : LineHeader) :
    Body.writtenType
        { header with type := if header.features.has .messageType then Body.writtenType header else header.type } =
      Body.writtenType header := by
  cases typed : header.features.has .messageType with
  | false =>
    rw [Body.writtenType, Body.writtenType, typed, Bool.false_and, Bool.false_and]
    rfl
  | true => exact writtenType_eq typed (writtenType_known header)

/-- A line and its regular form have one packet. -/
theorem encode_regularized (encoder : Encoder) (line : Line) :
    encoder.encode line.regularized = encoder.encode line := by
  cases line with
  | normal header messageId arguments =>
    have body : Body.ofLine encoder.control (Line.normal header messageId arguments).regularized =
        Body.ofLine encoder.control (.normal header messageId arguments) := by
      simp only [Line.regularized, Body.ofLine, Body.ofArguments, writtenType_regularized]
      rfl
    have headers : ∀ count body,
        Headers.ofLine encoder.format count (Line.normal header messageId arguments).regularized body =
          Headers.ofLine encoder.format count (.normal header messageId arguments) body := fun _ _ => rfl
    simp only [Encoder.encode, body, headers]
    rfl
  | control header payload =>
    have body : Body.ofLine encoder.control (Line.control header payload).regularized =
        Body.ofLine encoder.control (.control header payload) := by
      simp only [Line.regularized, Body.ofLine, Body.ofControl, LineHeader.order, LineHeader.isBigEndian,
        Features.has_addIf, reduceCtorEq, ↓reduceIte]
    have headers : ∀ count body,
        Headers.ofLine encoder.format count (Line.control header payload).regularized body =
          Headers.ofLine encoder.format count (.control header payload) body := by
      intro count body
      simp only [Line.regularized, Headers.ofLine, Line.header, needsExtended, ticksOf, typeOf, storageOf, extendedOf,
        written, idOrZero, LineHeader.isBigEndian, Features.has_addIf, reduceCtorEq, ↓reduceIte]
      rfl
    simp only [Encoder.encode, body, headers]
    rfl
  | skipped header bytes reason => rfl

theorem storageOf_regularized (line : Line) : storageOf line.regularized.header = storageOf line.header := by
  cases line with
  | normal header messageId arguments => rfl
  | control header payload =>
    simp only [Line.regularized, Line.header, storageOf, written, idOrZero, Features.has_addIf, reduceCtorEq,
      ↓reduceIte]
    rfl
  | skipped header bytes reason => rfl

theorem ordinary_writtenType {header : LineHeader} (ordinary : header.type.isControl = false) :
    (Body.writtenType header).isControl = false := by
  unfold Body.writtenType
  split
  · exact ordinary
  · rfl

theorem headerRead_regularized (read : HeaderRead format packet line.header) :
    HeaderRead format packet line.regularized.header := by
  cases line with
  | normal header messageId arguments =>
    constructor
    case bare =>
      intro untyped
      have kept : header.features.has .messageType = false := untyped
      obtain ⟨type, plain⟩ := read.bare kept
      refine ⟨?_, plain⟩
      simp only [Line.regularized, Line.header, kept, Bool.false_eq_true, ↓reduceIte]
      exact type
    case proper => exact read.proper
    case count => exact read.count
    case ecuId => exact read.ecuId
    case appId => exact read.appId
    case ctxId => exact read.ctxId
    case deviceTime => exact read.deviceTime
    case extended => exact read.extended
    case stored => exact read.stored
    case time => exact read.time
  | control header payload =>
    have has : ∀ feature, .verbose ≠ feature →
        (header.features.addIf .verbose false).has feature = header.features.has feature := by
      intro feature other
      rw [Features.has_addIf, if_neg other]
    constructor
    case proper => exact Features.proper_addIf read.proper _ _
    case count => exact read.count
    case ecuId => exact fun set => read.ecuId ((has .ecuId (by decide)).symm.trans set)
    case appId => exact fun set => read.appId ((has .appId (by decide)).symm.trans set)
    case ctxId => exact fun set => read.ctxId ((has .ctxId (by decide)).symm.trans set)
    case deviceTime => exact fun set => read.deviceTime ((has .deviceTimestamp (by decide)).symm.trans set)
    case extended =>
      obtain ⟨appId, ctxId, _⟩ := read.extended
      have type := has .messageType (by decide)
      exact ⟨(has .appId (by decide)).trans (appId.trans type.symm),
        (has .ctxId (by decide)).trans (ctxId.trans type.symm), rfl⟩
    case bare =>
      intro untyped
      refine ⟨(read.bare ((has .messageType (by decide)).symm.trans untyped)).1, ?_⟩
      exact (Features.has_addIf ..).trans (if_pos rfl)
    case stored => exact (has .logTimestamp (by decide)).trans read.stored
    case time => exact read.time
  | skipped header bytes reason => exact read

theorem bodyRead_regularized (read : BodyRead line) : BodyRead line.regularized := by
  cases read with
  | @verbose header arguments marked ordinary few each =>
    refine .verbose marked ?_ few each
    simp only
    split
    · exact ordinary_writtenType ordinary
    · exact ordinary
  | @numbered header id data unmarked ordinary =>
    refine .numbered unmarked ?_
    simp only
    split
    · exact ordinary_writtenType ordinary
    · exact ordinary
  | control type shape => exact .control type shape

theorem regular_regularized (read : BodyRead line) : line.regularized.Regular := by
  cases read with
  | @verbose header arguments =>
    refine ⟨rfl, fun typed => ?_, fun other payload same => by cases same⟩
    have kept : header.features.has .messageType = true := typed
    simp only [Line.regularized, Line.header, kept, ↓reduceIte]
    exact writtenType_known header
  | @numbered header id data =>
    refine ⟨rfl, fun typed => ?_, fun other payload same => by cases same⟩
    have kept : header.features.has .messageType = true := typed
    simp only [Line.regularized, Line.header, kept, ↓reduceIte]
    exact writtenType_known header
  | @control header payload type =>
    refine ⟨rfl, fun _ unknown => ?_, fun other found same => ?_⟩
    · have managed := isControl_type payload
      have unmanaged : header.type = .unknown := unknown
      rw [type, unmanaged] at managed
      cases managed
    · cases same
      exact (Features.has_addIf ..).trans (if_pos rfl)

end Stream

end DiagTrace
