import DiagTrace.Proofs.Feature
import DiagTrace.Proofs.Stream.Packet

/-! What headers leave in a builder that nothing has been put into yet. -/
namespace DiagTrace.Stream.Headers

variable {α : Type} {builder : Builder} {set : Builder → α → Builder} {feature : Feature}

theorem has_setIf (adds : ∀ builder value, (set builder value).features = builder.features.add feature)
    (builder : Builder) (value : Option α) (other : Feature) :
    (setIf builder value set).features.has other =
      (builder.features.has other || (value.isSome && decide (feature = other))) := by
  cases value with
  | none => simp [setIf]
  | some value => simp [setIf, adds]

theorem proper_setIf (adds : ∀ builder value, (set builder value).features = builder.features.add feature)
    (value : Option α) (proper : Features.Proper builder.features) :
    Features.Proper (setIf builder value set).features := by
  cases value with
  | none => exact proper
  | some value =>
    rw [setIf, adds]
    exact Features.proper_add proper feature

theorem features_applyStorage (builder : Builder) (header : StorageHeader) :
    (applyStorage builder header).features = builder.features.add .logTimestamp := by
  unfold applyStorage Builder.setStorageEcuId
  split <;> rfl

theorem has_applyStandard (builder : Builder) (header : StandardHeader) (other : Feature) :
    (applyStandard builder header).features.has other =
      ((((if Feature.bigEndian = other then header.isBigEndian else builder.features.has other)
        || (header.ecuId.isSome && decide (Feature.ecuId = other)))
        || (header.session.isSome && decide (Feature.sessionId = other)))
        || (header.ticks.isSome && decide (Feature.deviceTimestamp = other))) := by
  have start : ((builder.setBigEndian header.isBigEndian).setCount header.count).features.has other =
      if Feature.bigEndian = other then header.isBigEndian else builder.features.has other :=
    Features.has_addIf builder.features .bigEndian other header.isBigEndian
  rw [applyStandard, has_setIf (fun _ _ => rfl), has_setIf (fun _ _ => rfl), has_setIf (fun _ _ => rfl), start,
    Option.isSome_map, Option.isSome_map]

theorem proper_applyStandard (proper : Features.Proper builder.features) (header : StandardHeader) :
    Features.Proper (applyStandard builder header).features := by
  have start : Features.Proper
      ((builder.setBigEndian header.isBigEndian).setCount header.count).features :=
    Features.proper_addIf proper .bigEndian header.isBigEndian
  exact proper_setIf (fun _ _ => rfl) _ (proper_setIf (fun _ _ => rfl) _ (proper_setIf (fun _ _ => rfl) _ start))

theorem has_applyExtended (builder : Builder) (header : ExtendedHeader) (other : Feature) :
    (applyExtended builder header).features.has other =
      (((if Feature.verbose = other then header.isVerbose else builder.features.has other)
        || decide (Feature.messageType = other)) || decide (Feature.appId = other)
        || decide (Feature.ctxId = other)) := by
  have whole : (applyExtended builder header).features =
      (((builder.features.addIf .verbose header.isVerbose).add .messageType).add .appId).add .ctxId := rfl
  rw [whole, Features.has_add, Features.has_add, Features.has_add, Features.has_addIf]

theorem proper_applyExtended (proper : Features.Proper builder.features) (header : ExtendedHeader) :
    Features.Proper (applyExtended builder header).features :=
  Features.proper_add (Features.proper_add (Features.proper_add
    (Features.proper_addIf proper .verbose header.isVerbose) .messageType) .appId) .ctxId

section Start

variable (headers : Headers)

def fresh : Builder := (Builder.start .recorded).setPosition 0

theorem has_fresh (other : Feature) : fresh.features.has other = false := by
  cases other <;> decide

theorem proper_apply : Features.Proper (headers.apply fresh).features := by
  have start : Features.Proper fresh.features := rfl
  have stored := proper_setIf features_applyStorage headers.storage start
  have standard := proper_applyStandard stored headers.standard
  rw [apply]
  cases headers.extended with
  | none => exact standard
  | some extended => exact proper_applyExtended standard extended

theorem has_apply_standard (other : Feature) :
    (applyStandard (setIf fresh headers.storage applyStorage) headers.standard).features.has other =
      match other with
      | .bigEndian => headers.standard.isBigEndian
      | .ecuId => headers.standard.ecuId.isSome
      | .sessionId => headers.standard.session.isSome
      | .deviceTimestamp => headers.standard.ticks.isSome
      | .logTimestamp => headers.storage.isSome
      | .appId | .ctxId | .messageType | .verbose => false := by
  rw [has_applyStandard, has_setIf features_applyStorage, has_fresh]
  cases other <;> simp

theorem has_apply (other : Feature) :
    (headers.apply fresh).features.has other =
      match other with
      | .bigEndian => headers.standard.isBigEndian
      | .ecuId => headers.standard.ecuId.isSome
      | .sessionId => headers.standard.session.isSome
      | .deviceTimestamp => headers.standard.ticks.isSome
      | .logTimestamp => headers.storage.isSome
      | .appId | .ctxId | .messageType => headers.extended.isSome
      | .verbose => headers.extended.any ExtendedHeader.isVerbose := by
  rw [apply]
  cases extended : headers.extended with
  | none =>
    rw [setIf, has_apply_standard]
    cases other <;> rfl
  | some extended =>
    rw [setIf, has_applyExtended, has_apply_standard]
    cases other <;> simp

theorem stored_eq (storage : Option StorageHeader) : ∃ ecuId time features,
    setIf fresh storage applyStorage = { fresh with ecuId, time, features } := by
  cases storage with
  | none => exact ⟨_, _, _, rfl⟩
  | some header =>
    rw [setIf, applyStorage, Builder.setStorageEcuId]
    split
    · exact ⟨_, _, _, rfl⟩
    · exact ⟨_, _, _, rfl⟩

structure Filled (builder : Builder) : Prop where
  clock : builder.clock = .recorded
  count : builder.count = some headers.standard.count
  session : ∀ session ∈ headers.standard.session, builder.session = session
  deviceTime : ∀ ticks ∈ headers.standard.ticks, builder.deviceTime = Stream.deviceTime ticks
  ecuId : ∀ id ∈ headers.standard.ecuId, builder.ecuId = Ident.text id
  time : ∀ header ∈ headers.storage,
    builder.time = Timestamp.ofParts header.seconds.toNat header.microseconds.toNat
  extended : ∀ header ∈ headers.extended, builder.type = MessageType.ofInfo header.info ∧
    builder.argumentCount = header.argumentCount ∧ builder.appId = Ident.text header.appId ∧
    builder.ctxId = Ident.text header.ctxId
  plain : headers.extended = none → builder.type = .unknown
  messageId : builder.messageId = none
  arguments : builder.arguments = []

theorem filled_apply : Filled headers (headers.apply fresh) := by
  have lasting := apply_lasting fresh headers
  obtain ⟨storage, ⟨type, count, length, ecuId, session, ticks⟩, extended⟩ := headers
  obtain ⟨_, _, _, stored⟩ := stored_eq storage
  have time : ∀ header ∈ storage,
      (apply fresh ⟨storage, ⟨type, count, length, ecuId, session, ticks⟩, extended⟩).time =
        Timestamp.ofParts header.seconds.toNat header.microseconds.toNat := by
    intro header present
    cases present
    exact congrArg Prod.snd lasting
  constructor
  case clock => exact congrArg Prod.fst lasting
  case time => exact time
  all_goals simp only [apply, stored]
  case session =>
    rintro value ⟨⟩
    cases ecuId <;> cases ticks <;> cases extended <;> rfl
  case deviceTime =>
    rintro value ⟨⟩
    cases ecuId <;> cases session <;> cases extended <;> rfl
  case ecuId =>
    rintro value ⟨⟩
    cases session <;> cases ticks <;> cases extended <;> rfl
  case extended =>
    rintro value ⟨⟩
    exact ⟨rfl, rfl, rfl, rfl⟩
  case plain =>
    rintro ⟨⟩
    cases ecuId <;> cases session <;> cases ticks <;> rfl
  all_goals cases ecuId <;> cases session <;> cases ticks <;> cases extended <;> rfl

end Start

end DiagTrace.Stream.Headers
