import DiagTrace.Proofs.Bytes.Yielding
import DiagTrace.Stream.Packet

/-!
What the line of a packet depends on. Reading a packet neither looks at nor changes where a builder stands
in its trace (`Builder.Place`), and a builder cleared after one packet reads the next one as a new builder
would (`decode_of_idle`).
-/
namespace DiagTrace

namespace Line

def placedAt (line : Line) (position number : Nat) : Line :=
  line.withHeader { line.header with position, number }

theorem placedAt_self {line : Line} {position number : Nat} (at_position : line.header.position = position)
    (with_number : line.header.number = number) : line.placedAt position number = line := by
  subst at_position with_number
  cases line <;> rfl

@[simp] theorem isSkipped_withHeader (line : Line) (header : LineHeader) :
    (line.withHeader header).isSkipped = line.isSkipped := by
  cases line <;> rfl

end Line

namespace Builder

structure Place where
  position : Nat
  nextNumber : Nat
  lastEcuId : String
  skip : SkipSpan

def place (builder : Builder) : Place :=
  ⟨builder.position, builder.nextNumber, builder.lastEcuId, builder.skip⟩

def moveTo (builder : Builder) (place : Place) : Builder :=
  { builder with
    position := place.position, nextNumber := place.nextNumber, lastEcuId := place.lastEcuId
    skip := place.skip }

theorem moveTo_place (builder : Builder) : builder.moveTo builder.place = builder := rfl

theorem setStorageEcuId_moveTo (builder : Builder) (place : Place) (id : String) :
    (builder.moveTo place).setStorageEcuId id = (builder.setStorageEcuId id).moveTo place := by
  unfold setStorageEcuId
  by_cases present : builder.features.has .ecuId
  · have moved : (builder.moveTo place).features.has .ecuId = true := present
    rw [if_pos present, if_pos moved]
  · have moved : ¬ (builder.moveTo place).features.has .ecuId = true := present
    rw [if_neg present, if_neg moved]
    rfl

theorem takeLine_moveTo (builder : Builder) (place : Place) :
    (builder.moveTo place).takeLine =
      builder.takeLine.map fun (line, rest) =>
        (line.placedAt place.position place.nextNumber,
          rest.moveTo { place with nextNumber := place.nextNumber + 1 }) := by
  unfold takeLine
  by_cases control : builder.type.isControl
  · have moved : (builder.moveTo place).type.isControl = true := control
    rw [if_pos control, if_pos moved]
    cases given : builder.payload with
    | none => simp [moveTo, given, Except.map]
    | some payload =>
      simp [moveTo, given, Except.map, takeHeader, Line.placedAt, Line.withHeader, Line.header]
  · have moved : ¬ (builder.moveTo place).type.isControl = true := control
    rw [if_neg control, if_neg moved]
    rfl

theorem takeLine_header {builder rest : Builder} {line : Line} (taken : builder.takeLine = .ok (line, rest)) :
    line.header.position = builder.position ∧ line.header.number = builder.nextNumber ∧
      line.isSkipped = false ∧ rest.clock = builder.clock ∧ rest.time = builder.time ∧
      rest.nextNumber = builder.nextNumber + 1 ∧ rest.skip = builder.skip := by
  unfold takeLine at taken
  split at taken
  · split at taken
    · cases taken
      exact ⟨rfl, rfl, rfl, rfl, rfl, rfl, rfl⟩
    · cases taken
  · cases taken
    exact ⟨rfl, rfl, rfl, rfl, rfl, rfl, rfl⟩

def lasting (builder : Builder) : Clock × Timestamp := (builder.clock, builder.time)

/-- A builder with nothing of a line in it: only byte order and capture time are left of earlier lines. -/
def cleared (clock : Clock) (bigEndian : Bool) (time : Timestamp) : Builder :=
  { start clock with features := initialFeatures clock bigEndian, time }

theorem reset_eq_cleared (builder : Builder) :
    builder.reset =
      (cleared builder.clock builder.isBigEndian builder.time).moveTo
        ⟨0, builder.nextNumber, builder.ecuId, builder.skip⟩ := rfl

end Builder

namespace NonVerbose

theorem fillIn_moveTo (builder : Builder) (place : Builder.Place) (feature : Feature)
    (value : Option String) (set : Builder → String → Builder)
    (unmoved : ∀ id, set (builder.moveTo place) id = (set builder id).moveTo place) :
    fillIn (builder.moveTo place) feature value set = (fillIn builder feature value set).moveTo place := by
  cases value with
  | none => rfl
  | some value =>
    by_cases present : builder.features.has feature
    · have moved : (builder.moveTo place).features.has feature = true := present
      simp only [fillIn, if_pos present, if_pos moved]
    · have moved : ¬ (builder.moveTo place).features.has feature = true := present
      simp only [fillIn, if_neg present, if_neg moved]
      exact unmoved _

theorem applyFrame_moveTo (builder : Builder) (place : Builder.Place) (frame : Frame) :
    applyFrame (builder.moveTo place) frame = (applyFrame builder frame).moveTo place := by
  have app := fillIn_moveTo builder place .appId frame.appId Builder.setAppId fun _ => rfl
  have ctx := fillIn_moveTo (fillIn builder .appId frame.appId Builder.setAppId) place .ctxId frame.ctxId
    Builder.setCtxId fun _ => rfl
  have ecu := fillIn_moveTo (fillIn (fillIn builder .appId frame.appId Builder.setAppId) .ctxId frame.ctxId
    Builder.setCtxId) place .ecuId frame.ecuId Builder.setEcuId fun _ => rfl
  simp only [applyFrame, app, ctx, ecu]
  generalize fillIn (fillIn (fillIn builder _ _ _) _ _ _) _ _ _ = filled
  by_cases present : filled.features.has .messageType
  · have moved : (filled.moveTo place).features.has .messageType = true := present
    rw [if_pos present, if_pos moved]
  · have moved : ¬ (filled.moveTo place).features.has .messageType = true := present
    rw [if_neg present, if_neg moved]
    rfl

theorem fillIn_kept {α : Type} (observe : Builder → α) {set : Builder → String → Builder}
    (kept : ∀ builder id, observe (set builder id) = observe builder) (builder : Builder) (feature : Feature)
    (value : Option String) : observe (fillIn builder feature value set) = observe builder := by
  cases value with
  | none => rfl
  | some value =>
    simp only [fillIn]
    split
    · rfl
    · exact kept builder _

def identify (builder : Builder) (frame : Frame) : Builder :=
  fillIn (fillIn (fillIn builder .appId frame.appId Builder.setAppId) .ctxId frame.ctxId Builder.setCtxId) .ecuId
    frame.ecuId Builder.setEcuId

theorem applyFrame_eq (builder : Builder) (frame : Frame) :
    applyFrame builder frame =
      if (identify builder frame).features.has .messageType then identify builder frame
      else (identify builder frame).setType frame.messageType := rfl

theorem identify_kept {α : Type} (observe : Builder → α)
    (app : ∀ builder id, observe (Builder.setAppId builder id) = observe builder)
    (ctx : ∀ builder id, observe (Builder.setCtxId builder id) = observe builder)
    (ecu : ∀ builder id, observe (Builder.setEcuId builder id) = observe builder) (builder : Builder)
    (frame : Frame) : observe (identify builder frame) = observe builder := by
  rw [identify, fillIn_kept observe ecu, fillIn_kept observe ctx, fillIn_kept observe app]

theorem applyFrame_kept {α : Type} (observe : Builder → α)
    (identified : ∀ builder frame, observe (identify builder frame) = observe builder)
    (typed : ∀ builder type, observe (Builder.setType builder type) = observe builder) (builder : Builder)
    (frame : Frame) : observe (applyFrame builder frame) = observe builder := by
  rw [applyFrame_eq]
  split
  · exact identified builder frame
  · exact (typed _ _).trans (identified builder frame)

theorem applyFrame_lasting (builder : Builder) (frame : Frame) :
    (applyFrame builder frame).lasting = builder.lasting :=
  applyFrame_kept Builder.lasting (identify_kept _ (fun _ _ => rfl) (fun _ _ => rfl) (fun _ _ => rfl))
    (fun _ _ => rfl) builder frame

theorem applyFrame_payload (builder : Builder) (frame : Frame) :
    (applyFrame builder frame).payload = builder.payload :=
  applyFrame_kept Builder.payload (identify_kept _ (fun _ _ => rfl) (fun _ _ => rfl) (fun _ _ => rfl))
    (fun _ _ => rfl) builder frame

theorem decode_lasting (codec : Codec) (builder : Builder) (data : Bytes) :
    (decode codec builder data).lasting = builder.lasting := by
  unfold decode
  split
  · simp only
    split
    · exact applyFrame_lasting (builder.setMessageId _) _
    · rfl
  · rfl

theorem decode_moveTo (codec : Codec) (builder : Builder) (place : Builder.Place) (data : Bytes) :
    decode codec (builder.moveTo place) data = (decode codec builder data).moveTo place := by
  unfold decode
  split
  · have order : (builder.moveTo place).order = builder.order := rfl
    have body : ∀ id rest, decodeBody? codec (builder.moveTo place) id rest =
        decodeBody? codec builder id rest := fun _ _ => rfl
    simp only [order, body]
    split
    · rename_i frame arguments _
      exact congrArg (·.addArguments arguments) (applyFrame_moveTo (builder.setMessageId _) place frame)
    · rfl
  · rfl

end NonVerbose

namespace Stream

namespace Headers

theorem applyStorage_moveTo (builder : Builder) (place : Builder.Place) (header : StorageHeader) :
    applyStorage (builder.moveTo place) header = (applyStorage builder header).moveTo place :=
  Builder.setStorageEcuId_moveTo (builder.setTimeParts header.seconds header.microseconds) place _

theorem applyStandard_moveTo (builder : Builder) (place : Builder.Place) (header : StandardHeader) :
    applyStandard (builder.moveTo place) header = (applyStandard builder header).moveTo place := by
  obtain ⟨type, count, length, ecuId, session, ticks⟩ := header
  cases ecuId <;> cases session <;> cases ticks <;> rfl

theorem apply_moveTo (builder : Builder) (place : Builder.Place) (headers : Headers) :
    apply (builder.moveTo place) headers = (apply builder headers).moveTo place := by
  obtain ⟨storage, standard, extended⟩ := headers
  cases storage <;> cases extended <;>
    simp only [apply, setIf, applyStorage_moveTo, applyStandard_moveTo] <;> rfl

theorem apply_place (builder : Builder) (headers : Headers) :
    (apply builder headers).place = builder.place := by
  have moved := apply_moveTo builder builder.place headers
  rw [Builder.moveTo_place] at moved
  have placed := congrArg Builder.place moved
  exact placed

theorem applyStandard_lasting (builder : Builder) (header : StandardHeader) :
    (applyStandard builder header).lasting = builder.lasting := by
  obtain ⟨type, count, length, ecuId, session, ticks⟩ := header
  cases ecuId <;> cases session <;> cases ticks <;> rfl

theorem apply_lasting (builder : Builder) (headers : Headers) :
    (apply builder headers).lasting =
      (builder.clock, headers.storage.elim builder.time fun header =>
        Timestamp.ofParts header.seconds.toNat header.microseconds.toNat) := by
  obtain ⟨storage, standard, extended⟩ := headers
  have stored : ∀ header, (applyStorage builder header).lasting =
      (builder.clock, Timestamp.ofParts header.seconds.toNat header.microseconds.toNat) := by
    intro header
    simp only [applyStorage, Builder.setStorageEcuId]
    split <;> rfl
  cases storage with
  | none => cases extended <;> exact applyStandard_lasting builder standard
  | some header =>
    cases extended <;> exact (applyStandard_lasting (applyStorage builder header) standard).trans (stored header)

end Headers

namespace Packet

variable {setting : Setting} {builder : Builder} {payload packet : Bytes} {position : Nat}

theorem readControl_moveTo (setting : Setting) (builder : Builder) (place : Builder.Place)
    (payload : Bytes) :
    readControl setting (builder.moveTo place) payload =
      (readControl setting builder payload).map (·.moveTo place) := by
  have type : (builder.moveTo place).type = builder.type := rfl
  have order : (builder.moveTo place).order = builder.order := rfl
  unfold readControl
  rw [type, order]
  cases setting.control.decode builder.type builder.order payload with
  | error fault => rfl
  | ok read =>
    obtain ⟨control, used⟩ := read
    by_cases leftover : used + maxPadding < payload.length
    · simp [leftover, bind, Except.bind, Except.map, throw, throwThe, MonadExceptOf.throw]
    · simp [leftover, bind, Except.bind, Except.map, pure, Except.pure]
      rfl

theorem readVerbose_moveTo (builder : Builder) (place : Builder.Place) (payload : Bytes) :
    readVerbose (builder.moveTo place) payload = (readVerbose builder payload).map (·.moveTo place) := by
  have count : (builder.moveTo place).argumentCount = builder.argumentCount := rfl
  have order : (builder.moveTo place).order = builder.order := rfl
  unfold readVerbose
  rw [count, order]
  simp only
  split <;> rfl

theorem readPayload_moveTo (setting : Setting) (builder : Builder) (place : Builder.Place)
    (payload : Bytes) :
    readPayload setting (builder.moveTo place) payload =
      (readPayload setting builder payload).map (·.moveTo place) := by
  have type : (builder.moveTo place).type = builder.type := rfl
  have verbose : (builder.moveTo place).isVerbose = builder.isVerbose := rfl
  unfold readPayload
  rw [type, verbose, readControl_moveTo, readVerbose_moveTo, NonVerbose.decode_moveTo]
  split
  · rfl
  · split <;> rfl

theorem finish_moveTo (setting : Setting) (builder : Builder) (place : Builder.Place) (payload : Bytes) :
    (finish setting (builder.moveTo place) payload).1 =
      (finish setting builder payload).1.map (·.placedAt place.position place.nextNumber) := by
  unfold finish
  rw [readPayload_moveTo]
  cases readPayload setting builder payload with
  | error fault => rfl
  | ok filled =>
    simp only [Except.map, Builder.takeLine_moveTo]
    cases filled.takeLine with
    | error fault => rfl
    | ok taken => rfl

theorem readControl_inv {filled : Builder}
    (read : readControl setting builder payload = .ok filled) :
    ∃ control used, setting.control.decode builder.type builder.order payload = .ok (control, used) ∧
      filled = builder.setPayload control := by
  obtain ⟨⟨control, used⟩, decoded, rest⟩ := of_bind read
  refine ⟨control, used, decoded, ?_⟩
  simp only at rest
  split at rest
  · cases rest
  · cases rest
    rfl

theorem readVerbose_inv {filled : Builder} (read : readVerbose builder payload = .ok filled) :
    filled = builder.addArguments (Verbose.decode builder.order payload builder.argumentCount.toNat).1 := by
  simp only [readVerbose] at read
  split at read
  · cases read
    rfl
  · cases read

theorem readPayload_kept {filled : Builder} (read : readPayload setting builder payload = .ok filled) :
    filled.place = builder.place ∧ filled.lasting = builder.lasting := by
  have moved := readPayload_moveTo setting builder builder.place payload
  rw [Builder.moveTo_place, read] at moved
  refine ⟨congrArg (fun result : Except Fault Builder => (result.toOption.getD builder).place) moved, ?_⟩
  unfold readPayload at read
  split at read
  · obtain ⟨control, used, _, rfl⟩ := readControl_inv read
    rfl
  · split at read
    · obtain rfl := readVerbose_inv read
      rfl
    · cases read
      exact NonVerbose.decode_lasting setting.nonVerbose builder payload

theorem finish_kept (setting : Setting) (builder : Builder) (payload : Bytes) :
    (finish setting builder payload).2.lasting = builder.lasting ∧
      (finish setting builder payload).2.skip = builder.skip ∧
      (finish setting builder payload).2.nextNumber =
        builder.nextNumber + (finish setting builder payload).1.isOk.toNat := by
  unfold finish
  split
  · exact ⟨rfl, rfl, rfl⟩
  · rename_i filled read
    obtain ⟨place, lasting⟩ := readPayload_kept read
    have number : filled.nextNumber = builder.nextNumber := congrArg Builder.Place.nextNumber place
    have skip : filled.skip = builder.skip := congrArg Builder.Place.skip place
    cases taken : filled.takeLine with
    | error fault => exact ⟨lasting, skip, number⟩
    | ok result =>
      obtain ⟨line, rest⟩ := result
      obtain ⟨_, _, _, clock, time, next, span⟩ := Builder.takeLine_header taken
      refine ⟨?_, span.trans skip, ?_⟩
      · rw [← lasting]
        simp only [Builder.lasting, clock, time]
      · exact next.trans (congrArg (· + 1) number)

theorem finish_inv {line : Line} (read : (finish setting builder payload).1 = .ok line) :
    ∃ filled rest, readPayload setting builder payload = .ok filled ∧ filled.takeLine = .ok (line, rest) := by
  unfold finish at read
  split at read
  · cases read
  · rename_i filled given
    split at read
    · cases read
    · rename_i taken
      cases read
      exact ⟨filled, _, given, taken⟩

theorem finish_line {line : Line} (read : (finish setting builder payload).1 = .ok line) :
    line.header.position = builder.position ∧ line.header.number = builder.nextNumber ∧
      line.isSkipped = false := by
  obtain ⟨filled, rest, given, taken⟩ := finish_inv read
  obtain ⟨place, _⟩ := readPayload_kept given
  have position : filled.position = builder.position := congrArg Builder.Place.position place
  have number : filled.nextNumber = builder.nextNumber := congrArg Builder.Place.nextNumber place
  obtain ⟨at_position, with_number, whole, _⟩ := Builder.takeLine_header taken
  exact ⟨at_position.trans position, with_number.trans number, whole⟩

theorem decode_line {line : Line} {after : Builder}
    (read : decode setting builder packet position = (.ok line, after)) :
    line.header.position = position ∧ line.header.number = builder.nextNumber ∧
      line.isSkipped = false := by
  unfold decode at read
  simp only at read
  split at read
  · cases read
  · rename_i headers payload parsed
    have finished := congrArg Prod.fst read
    obtain ⟨at_position, with_number, whole⟩ := finish_line finished
    have place := Headers.apply_place (builder.setPosition position) headers
    exact ⟨at_position.trans (congrArg Builder.Place.position place),
      with_number.trans (congrArg Builder.Place.nextNumber place), whole⟩

theorem decode_kept (setting : Setting) (builder : Builder) (packet : Bytes) (position : Nat) :
    (decode setting builder packet position).2.skip = builder.skip ∧
      (decode setting builder packet position).2.nextNumber =
        builder.nextNumber + (decode setting builder packet position).1.isOk.toNat := by
  unfold decode
  simp only
  split
  · exact ⟨rfl, rfl⟩
  · rename_i headers payload parsed
    have place := Headers.apply_place (builder.setPosition position) headers
    obtain ⟨_, skip, number⟩ := finish_kept setting (Headers.apply (builder.setPosition position) headers) payload
    exact ⟨skip.trans (congrArg Builder.Place.skip place),
      number.trans (congrArg (· + _) (congrArg Builder.Place.nextNumber place))⟩

end Packet

/-- Nothing is in the builder but what lasts from line to line. Without storage headers no capture time is
ever set. -/
def Idle (format : CaptureFormat) (builder : Builder) : Prop :=
  ∃ bigEndian time, builder = (Builder.cleared .recorded bigEndian time).moveTo builder.place ∧
    (format ≠ .file → time = .epoch)

theorem idle_start (format : CaptureFormat) : Idle format (Builder.start .recorded) :=
  ⟨false, .epoch, rfl, fun _ => rfl⟩

theorem Idle.moveTo {format : CaptureFormat} {builder : Builder} (idle : Idle format builder)
    (place : Builder.Place) : Idle format (builder.moveTo place) := by
  obtain ⟨bigEndian, time, held, unset⟩ := idle
  have moved := congrArg (Builder.moveTo · place) held
  exact ⟨bigEndian, time, moved, unset⟩

theorem idle_reset {format : CaptureFormat} {builder : Builder} (clock : builder.clock = .recorded)
    (unset : format ≠ .file → builder.time = .epoch) : Idle format builder.reset := by
  refine ⟨builder.isBigEndian, builder.time, ?_, unset⟩
  rw [Builder.reset_eq_cleared, clock]
  rfl

namespace Headers

theorem parseStorage_of_parse {format : CaptureFormat} {packet payload : Bytes} {headers : Headers}
    (parsed : parse format packet = .ok (headers, payload)) : parseStorage format packet = .ok headers.storage := by
  obtain ⟨storage, stored, bare⟩ := of_bind parsed
  obtain ⟨standard, _, extended⟩ := of_bind bare
  obtain ⟨_, _, done⟩ := of_bind extended
  cases done
  exact stored

theorem parseStorage_inv {packet : Bytes} {storage : Option StorageHeader}
    (parsed : parseStorage .file packet = .ok storage) :
    ∃ header, StorageHeader.parse packet = .ok header ∧ storage = some header := by
  unfold parseStorage at parsed
  simp only at parsed
  cases given : StorageHeader.parse packet with
  | error fault =>
    rw [given] at parsed
    cases parsed
  | ok header =>
    rw [given] at parsed
    cases parsed
    exact ⟨header, rfl, rfl⟩

theorem storage_of_parse {format : CaptureFormat} {packet payload : Bytes} {headers : Headers}
    (parsed : parse format packet = .ok (headers, payload)) :
    headers.storage.isSome = decide (format = .file) := by
  have stored := parseStorage_of_parse parsed
  cases format with
  | file =>
    obtain ⟨header, _, there⟩ := parseStorage_inv stored
    rw [there]
    rfl
  | network | serial =>
    rw [← Except.ok.inj stored]
    rfl

theorem setBigEndian_cleared (bigEndian flag : Bool) (time : Timestamp) :
    (Builder.cleared .recorded bigEndian time).setBigEndian flag =
      (Builder.cleared .recorded false time).setBigEndian flag := by
  have overwritten : ∀ before after,
      (Builder.initialFeatures .recorded before).addIf .bigEndian after =
        (Builder.initialFeatures .recorded false).addIf .bigEndian after := by decide
  simp only [Builder.setBigEndian, Builder.cleared, overwritten bigEndian]

theorem setBigEndian_applyStorage (bigEndian flag : Bool) (time : Timestamp) (header : StorageHeader) :
    (applyStorage (Builder.cleared .recorded bigEndian time) header).setBigEndian flag =
      (applyStorage (Builder.start .recorded) header).setBigEndian flag := by
  have unnamed : ∀ before, ((Builder.initialFeatures .recorded before).add .logTimestamp).has .ecuId =
      false := by decide
  have overwritten : ∀ before after,
      ((Builder.initialFeatures .recorded before).add .logTimestamp).addIf .bigEndian after =
        ((Builder.initialFeatures .recorded false).add .logTimestamp).addIf .bigEndian after := by decide
  simp only [applyStorage, Builder.setStorageEcuId, Builder.setTimeParts, Builder.setTime, Builder.cleared,
    Builder.start, unnamed, Bool.false_eq_true, ↓reduceIte, Builder.setBigEndian, overwritten bigEndian]

/-- Headers overwrite the byte order, and a storage header the capture time, so that nothing is left of
earlier lines. -/
theorem apply_cleared (headers : Headers) (bigEndian : Bool) (time : Timestamp)
    (unset : headers.storage = none → time = .epoch) :
    apply (Builder.cleared .recorded bigEndian time) headers = apply (Builder.start .recorded) headers := by
  obtain ⟨storage, standard, extended⟩ := headers
  cases storage with
  | none =>
    cases unset rfl
    simp only [apply, setIf, applyStandard, setBigEndian_cleared bigEndian]
    rfl
  | some storage => simp only [apply, setIf, applyStandard, setBigEndian_applyStorage bigEndian]

end Headers

namespace Packet

variable {setting : Setting} {builder : Builder}

theorem decode_idle (idle : Idle setting.format builder) (packet : Bytes) (position : Nat) :
    Idle setting.format (decode setting builder packet position).2 := by
  obtain ⟨bigEndian, time, held, unset⟩ := idle
  have clock : builder.clock = .recorded := by rw [held]; rfl
  have keptTime : builder.time = time := by rw [held]; rfl
  unfold decode
  simp only
  split
  · exact idle_reset clock fun unstored => keptTime.trans (unset unstored)
  · rename_i headers payload parsed
    have lasting := (finish_kept setting (Headers.apply (builder.setPosition position) headers) payload).1.trans
      (Headers.apply_lasting (builder.setPosition position) headers)
    refine idle_reset ((congrArg Prod.fst lasting).trans clock) fun unstored => ?_
    have stored := Headers.storage_of_parse parsed
    have absent : headers.storage = none := by simpa [unstored] using stored
    rw [absent] at lasting
    exact (congrArg Prod.snd lasting).trans (keptTime.trans (unset unstored))

/-- An idle builder reads a packet as a new builder does, except for the place of the line. -/
theorem decode_of_idle (idle : Idle setting.format builder) (packet : Bytes) (position : Nat) :
    (decode setting builder packet position).1 =
      (decode setting (Builder.start .recorded) packet 0).1.map
        (·.placedAt position builder.nextNumber) := by
  obtain ⟨bigEndian, time, held, unset⟩ := idle
  unfold decode
  cases parsed : Headers.parse setting.format packet with
  | error fault => rfl
  | ok result =>
    obtain ⟨headers, payload⟩ := result
    have stored := Headers.storage_of_parse parsed
    have absent : headers.storage = none → time = .epoch := by
      intro none_stored
      refine unset fun file => ?_
      simp [none_stored, file] at stored
    have placed : builder.setPosition position =
        (Builder.cleared .recorded bigEndian time).moveTo { builder.place with position } := by
      rw [held]
      rfl
    have begun : (Builder.start .recorded).setPosition 0 = Builder.start .recorded := rfl
    simp only [placed, begun, Headers.apply_moveTo, Headers.apply_cleared headers bigEndian time absent,
      finish_moveTo]
    rfl

end Packet

end Stream

end DiagTrace
