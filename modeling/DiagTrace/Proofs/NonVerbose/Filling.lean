import DiagTrace.Proofs.Stream.NonVerbose
import DiagTrace.Proofs.Stream.Reading

/-!
How a non-verbose message fills in the line in work. Its effects are spelled out here one after the other, for any
lookup of frames (`fillMessage`): the number of the message is set before a frame is looked for, and a frame may fail
at any of its slots. So written, a message could be half filled in where its frame fails;
`message_fills_all_or_nothing` says that it never is.
-/
namespace DiagTrace

def Frame.tells (frame : Frame) : List Feature :=
  (if frame.appId.isSome then [.appId] else []) ++ (if frame.ctxId.isSome then [.ctxId] else []) ++
    (if frame.ecuId.isSome then [.ecuId] else []) ++ [.messageType]

namespace NonVerbose

abbrev Lookup := UInt32 → Option String → Option String → Option String → Option Frame

def identifier (builder : Builder) (feature : Feature) (own : String) (told : Option String) : String :=
  if builder.features.has feature then own else (told.map Ident.normal).getD own

/-- A line with all that a frame tells and the line does not. -/
def completed (builder : Builder) (frame : Frame) : Builder :=
  { builder with
    features := builder.features.union (.ofList frame.tells)
    appId := identifier builder .appId builder.appId frame.appId
    ctxId := identifier builder .ctxId builder.ctxId frame.ctxId
    ecuId := identifier builder .ecuId builder.ecuId frame.ecuId
    type := if builder.features.has .messageType then builder.type else frame.messageType }

section Frames

variable {builder : Builder} {feature : Feature}

def given (features : Features) (feature : Feature) (told : Option String) : Features :=
  if told.isSome then features.add feature else features

theorem has_given (features : Features) {feature other : Feature} (told : Option String) (apart : feature ≠ other) :
    (given features feature told).has other = features.has other := by
  unfold given
  split
  · rw [Features.has_add, decide_eq_false apart, Bool.or_false]
  · rfl

theorem fillIn_eq (feature : Feature) (set put : Builder → String → Builder) (own : Builder → String)
    (sets : ∀ builder id, set builder id = put { builder with features := builder.features.add feature } id)
    (keeps : ∀ builder, put builder (own builder) = builder) (builder : Builder) (told : Option String) :
    fillIn builder feature told set =
      put { builder with features := given builder.features feature told }
        (identifier builder feature (own builder) told) := by
  have unchanged : put { builder with features := builder.features } (own builder) = builder := keeps builder
  cases told with
  | none =>
    have mine : identifier builder feature (own builder) none = own builder := ite_self _
    rw [mine]
    exact unchanged.symm
  | some id =>
    by_cases present : builder.features.has feature = true
    · have same : given builder.features feature (some id) = builder.features := Features.add_of_has present
      rw [fillIn, if_pos present, identifier, if_pos present, same]
      exact unchanged.symm
    · rw [fillIn, if_neg present, identifier, if_neg present]
      exact sets builder (Ident.normal id)

theorem union_tells (features : Features) (frame : Frame) :
    features.union (.ofList frame.tells) =
      (given (given (given features .appId frame.appId) .ctxId frame.ctxId) .ecuId frame.ecuId).add
        .messageType := by
  rw [Features.union_ofList]
  unfold Frame.tells given
  cases frame.appId <;> cases frame.ctxId <;> cases frame.ecuId <;> rfl

theorem identify_eq (builder : Builder) (frame : Frame) :
    identify builder frame =
      { builder with
        features := given (given (given builder.features .appId frame.appId) .ctxId frame.ctxId) .ecuId frame.ecuId
        appId := identifier builder .appId builder.appId frame.appId
        ctxId := identifier builder .ctxId builder.ctxId frame.ctxId
        ecuId := identifier builder .ecuId builder.ecuId frame.ecuId } := by
  have app := fillIn_eq .appId Builder.setAppId (fun builder id => { builder with appId := id }) Builder.appId
    (fun _ _ => rfl) (fun _ => rfl)
  have ctx := fillIn_eq .ctxId Builder.setCtxId (fun builder id => { builder with ctxId := id }) Builder.ctxId
    (fun _ _ => rfl) (fun _ => rfl)
  have ecu := fillIn_eq .ecuId Builder.setEcuId (fun builder id => { builder with ecuId := id }) Builder.ecuId
    (fun _ _ => rfl) (fun _ => rfl)
  rw [identify, app, ctx, ecu]
  simp only [identifier, has_given _ _ (show Feature.appId ≠ .ctxId from Feature.noConfusion),
    has_given _ _ (show Feature.appId ≠ .ecuId from Feature.noConfusion),
    has_given _ _ (show Feature.ctxId ≠ .ecuId from Feature.noConfusion)]

theorem applyFrame_completed (builder : Builder) (frame : Frame) :
    applyFrame builder frame = completed builder frame := by
  have typed := identify_typed builder frame
  have features := union_tells builder.features frame
  rw [applyFrame_eq]
  rw [identify_eq] at typed ⊢
  split
  · rename_i present
    rw [Features.add_of_has present] at features
    rw [typed] at present
    rw [completed, features, if_pos present]
  · rename_i absent
    rw [typed] at absent
    rw [completed, features, if_neg absent]
    rfl

end Frames

section Effects

abbrev Fill := StateM Builder

def fillId (features : Features) (feature : Feature) (told : Option String) (set : Builder → String → Builder) :
    Fill Unit :=
  match told with
  | some id => if features.has feature then pure () else modify fun builder => set builder (Ident.normal id)
  | none => pure ()

/-- What a frame tells, as far as the line had not told it before the first of these effects. -/
def fillFrame (frame : Frame) : Fill Unit := do
  let features := (← get).features
  fillId features .appId frame.appId Builder.setAppId
  fillId features .ctxId frame.ctxId Builder.setCtxId
  fillId features .ecuId frame.ecuId Builder.setEcuId
  if features.has .messageType then pure () else modify fun builder => builder.setType frame.messageType

def fillArguments (codec : Codec) (order : ByteOrder) (body : Bytes) (found : Option Frame) : Fill Unit :=
  match found.map fun frame => (frame, codec.decodeFrame order frame body) with
  | some (frame, .ok arguments) => do
    fillFrame frame
    modify fun builder => builder.addArguments arguments
  | some (_, .error _) | none => modify fun builder => builder.addArgument (.payload body)

def frameFor? (lookup : Option Lookup) (builder : Builder) (id : UInt32) : Option Frame :=
  lookup.bind fun find =>
    find id (known builder .appId builder.appId) (known builder .ctxId builder.ctxId)
      (known builder .ecuId builder.ecuId)

/-- Reads a payload into the line; the result is how many bytes of it are done with. -/
def fillMessage (codec : Codec) (lookup : Option Lookup) (data : Bytes) : Fill Nat := do
  let order := (← get).order
  if data.length < 4 then
    modify fun builder => (builder.setMessageId 0).addArgument (.payload [])
    return data.length
  else
    let id := UInt32.ofNat (order.decode (data.take 4))
    modify fun builder => builder.setMessageId id
    fillArguments codec order (data.drop 4) (frameFor? lookup (← get) id)
    return data.length

theorem run_fillId (features : Features) (feature : Feature) (builder : Builder)
    (same : features.has feature = builder.features.has feature) (told : Option String)
    (set : Builder → String → Builder) :
    (fillId features feature told set).run builder = ((), fillIn builder feature told set) := by
  cases told with
  | none => rfl
  | some id =>
    simp only [fillId, fillIn, same]
    split
    · rfl
    · rfl

theorem run_then {α β : Type} {effect : Fill α} {next : α → Fill β} {before after : Builder} {value : α}
    (ran : effect.run before = (value, after)) : (effect >>= next).run before = (next value).run after := by
  rw [StateT.run_bind, ran]
  rfl

theorem run_fillFrame (builder : Builder) (frame : Frame) :
    (fillFrame frame).run builder = ((), applyFrame builder frame) := by
  have app_ctx : ∀ builder id, (Builder.setAppId builder id).features.has .ctxId = builder.features.has .ctxId := by
    simp [Builder.setAppId]
  have app_ecu : ∀ builder id, (Builder.setAppId builder id).features.has .ecuId = builder.features.has .ecuId := by
    simp [Builder.setAppId]
  have ctx_ecu : ∀ builder id, (Builder.setCtxId builder id).features.has .ecuId = builder.features.has .ecuId := by
    simp [Builder.setCtxId]
  have ctx := fillIn_kept (fun builder => builder.features.has .ctxId) app_ctx builder .appId frame.appId
  have ecu_first := fillIn_kept (fun builder => builder.features.has .ecuId) app_ecu builder .appId frame.appId
  have ecu := fillIn_kept (fun builder => builder.features.has .ecuId) ctx_ecu
    (fillIn builder .appId frame.appId Builder.setAppId) .ctxId frame.ctxId
  have app_run := run_fillId builder.features .appId builder rfl frame.appId Builder.setAppId
  have ctx_run := run_fillId builder.features .ctxId _ ctx.symm frame.ctxId Builder.setCtxId
  have ecu_run := run_fillId builder.features .ecuId _ (ecu.trans ecu_first).symm frame.ecuId Builder.setEcuId
  have read : (get : Fill Builder).run builder = (builder, builder) := rfl
  unfold fillFrame
  rw [run_then read]
  dsimp only
  rw [run_then app_run, run_then ctx_run, run_then ecu_run, applyFrame_eq, identify_typed, identify]
  split
  · rfl
  · rfl

variable {codec : Codec} {lookup : Option Lookup} {order : ByteOrder} {found : Option Frame} {body data : Bytes}
  {builder : Builder}

theorem run_fillArguments_told {frame : Frame} {arguments : List Argument} (present : found = some frame)
    (fits : codec.decodeFrame order frame body = .ok arguments) :
    (fillArguments codec order body found).run builder = ((), (applyFrame builder frame).addArguments arguments) := by
  subst present
  rw [fillArguments, Option.map_some, fits]
  dsimp only
  rw [run_then (run_fillFrame builder frame)]
  rfl

theorem run_fillArguments_kept
    (unfit : ∀ frame, found = some frame → ∃ fault, codec.decodeFrame order frame body = .error fault) :
    (fillArguments codec order body found).run builder = ((), builder.addArgument (.payload body)) := by
  cases found with
  | none => rfl
  | some frame =>
    obtain ⟨fault, refused⟩ := unfit frame rfl
    rw [fillArguments, Option.map_some, refused]
    rfl

/-- Either there is a frame that fits, or every frame that is found has a slot that fails. -/
theorem fits_or_unfit (codec : Codec) (order : ByteOrder) (body : Bytes) (found : Option Frame) :
    (∃ frame arguments, found = some frame ∧ codec.decodeFrame order frame body = .ok arguments) ∨
      ∀ frame, found = some frame → ∃ fault, codec.decodeFrame order frame body = .error fault := by
  cases found with
  | none => exact .inr fun _ absent => nomatch absent
  | some frame =>
    cases decoded : codec.decodeFrame order frame body with
    | ok arguments => exact .inl ⟨frame, arguments, rfl, decoded⟩
    | error fault =>
      right
      intro other same
      cases same
      exact ⟨fault, decoded⟩

theorem run_fillMessage (numbered : 4 ≤ data.length) :
    (fillMessage codec lookup data).run builder =
      (data.length,
        ((fillArguments codec builder.order (data.drop 4)
          (frameFor? lookup builder (UInt32.ofNat (builder.order.decode (data.take 4))))).run
            (builder.setMessageId (UInt32.ofNat (builder.order.decode (data.take 4))))).2) := by
  have room : ¬ data.length < 4 := by omega
  have read : (get : Fill Builder).run builder = (builder, builder) := rfl
  unfold fillMessage
  rw [run_then read]
  dsimp only
  rw [if_neg room]
  rfl

theorem findFrame?_eq (codec : Codec) (builder : Builder) (id : UInt32) :
    findFrame? codec builder id = frameFor? (codec.frames.map FrameMap.find?) builder id := by
  rw [findFrame?, frameFor?]
  cases codec.frames with
  | none => rfl
  | some frames => rfl

theorem run_fillArguments_decodeBody? (codec : Codec) (builder : Builder) (id : UInt32) (body : Bytes) :
    ((fillArguments codec builder.order body (findFrame? codec builder id)).run builder).2 =
      match decodeBody? codec builder id body with
      | some (frame, arguments) => (applyFrame builder frame).addArguments arguments
      | none => builder.addArgument (.payload body) := by
  rw [decodeBody?, Option.bind_eq_bind]
  rcases fits_or_unfit codec builder.order body (findFrame? codec builder id) with
    ⟨frame, arguments, present, fits⟩ | unfit
  · rw [run_fillArguments_told present fits, present, Option.bind_some, fits]
  · rw [run_fillArguments_kept unfit]
    cases found : findFrame? codec builder id with
    | none => rfl
    | some frame =>
      obtain ⟨fault, refused⟩ := unfit frame found
      rw [Option.bind_some, refused]

/-- The effects one after the other are what the decoder does with its own frames. -/
theorem run_fillMessage_decode (codec : Codec) (builder : Builder) (data : Bytes) :
    (fillMessage codec (codec.frames.map FrameMap.find?) data).run builder =
      (data.length, decode codec builder data) := by
  by_cases numbered : 4 ≤ data.length
  · have room : data.hasAtLeast 4 = true := (Bytes.hasAtLeast_iff data 4).mpr numbered
    have filled := run_fillArguments_decodeBody? codec
      (builder.setMessageId (UInt32.ofNat (builder.order.decode (data.take 4))))
      (UInt32.ofNat (builder.order.decode (data.take 4))) (data.drop 4)
    rw [run_fillMessage numbered, ← findFrame?_eq, decode, if_pos room]
    exact congrArg (Prod.mk data.length) filled
  · have short : ¬ data.hasAtLeast 4 = true := fun long => numbered ((Bytes.hasAtLeast_iff data 4).mp long)
    have below : data.length < 4 := by omega
    have read : (get : Fill Builder).run builder = (builder, builder) := rfl
    unfold fillMessage
    rw [run_then read]
    dsimp only
    rw [if_pos below, decode, if_neg short]
    rfl

end Effects

/-- A payload with room for a number is all used, and its frame fills in the line whole or not at all. A frame found
by the number, with those identifiers of the line whose feature is set, that fits what is behind the number gives its
arguments and what it tells beyond what the line has. Where there is none, or it fails at any slot or at the end, what
is behind the number becomes one argument. Nothing else of the line changes but its number. The decoder does the same
with its own frames, and the identifiers that a frame tells come in at most four 7-bit characters. -/
theorem message_fills_all_or_nothing (codec : Codec) (lookup : Option Lookup) (builder : Builder) (data : Bytes)
    (numbered : 4 ≤ data.length) :
    (∃ id body found after, id = UInt32.ofNat (builder.order.decode (data.take 4)) ∧ body = data.drop 4 ∧
      found = frameFor? lookup builder id ∧
      (fillMessage codec lookup data).run builder = (data.length, after) ∧
      ((∃ frame arguments, found = some frame ∧ codec.decodeFrame builder.order frame body = .ok arguments ∧
          after = { completed builder frame with
            messageId := some id, arguments := builder.arguments ++ arguments }) ∨
        ((∀ frame, found = some frame → ∃ fault, codec.decodeFrame builder.order frame body = .error fault) ∧
          after = { builder with messageId := some id, arguments := builder.arguments ++ [.payload body] }))) ∧
    (fillMessage codec (codec.frames.map FrameMap.find?) data).run builder =
      (data.length, decode codec builder data) ∧
    ∀ id, Ident.Plain (Ident.normal id) ∧ (Ident.Plain id → Ident.normal id = id) := by
  refine ⟨⟨_, _, _, _, rfl, rfl, rfl, run_fillMessage numbered, ?_⟩, run_fillMessage_decode codec builder data,
    fun id => ⟨Ident.plain_text _, Ident.text_packed⟩⟩
  generalize UInt32.ofNat (builder.order.decode (data.take 4)) = id
  rcases fits_or_unfit codec builder.order (data.drop 4) (frameFor? lookup builder id) with
    ⟨frame, arguments, present, fits⟩ | unfit
  · left
    refine ⟨frame, arguments, present, fits, ?_⟩
    rw [run_fillArguments_told present fits, applyFrame_completed]
    rfl
  · right
    refine ⟨unfit, ?_⟩
    rw [run_fillArguments_kept unfit]
    rfl

def pairFrame : Frame :=
  { id := 7, ecuId := none, appId := some "APP1", ctxId := some "CONTEXT", messageType := .log .debug,
    pdus := [.value "S_UINT8" 1, .value "S_UINT16" 2] }

def pairLookup : Lookup := fun id _ _ _ => if id = 7 then some pairFrame else none

def pairLine : Builder := (Builder.start .recorded).setAppId "MINE"

theorem pair_fills_all_or_nothing :
    4 ≤ [7, 0, 0, 0, 5, 1, 2].length ∧ 4 ≤ [7, 0, 0, 0, 5, 1].length ∧
    (∃ after, (fillMessage .standard (some pairLookup) [7, 0, 0, 0, 5, 1, 2]).run pairLine = (7, after) ∧
      after.arguments = [.unsigned 5 .w8 none, .unsigned 0x201 .w16 none] ∧ after.appId = "MINE" ∧
      after.ctxId = "CONT" ∧ after.type = .log .debug ∧ after.messageId = some 7) ∧
    (fillMessage .standard (some pairLookup) [7, 0, 0, 0, 5, 1]).run pairLine =
      (6, { pairLine with messageId := some 7, arguments := [.payload [5, 1]] }) := by
  refine ⟨by decide, by decide, ?_, ?_⟩
  · obtain ⟨⟨_, _, _, after, rfl, rfl, rfl, run, became⟩, -, -⟩ :=
      message_fills_all_or_nothing .standard (some pairLookup) pairLine [7, 0, 0, 0, 5, 1, 2] (by decide)
    refine ⟨after, run, ?_⟩
    rcases became with ⟨frame, arguments, present, fits, rfl⟩ | ⟨unfit, -⟩
    · have same : pairFrame = frame := Option.some.inj present
      subst same
      have read : [.unsigned 5 .w8 none, .unsigned 0x201 .w16 none] = arguments := Except.ok.inj fits
      subst read
      exact ⟨rfl, rfl, by decide, rfl, rfl⟩
    · obtain ⟨_, refused⟩ := unfit pairFrame rfl
      exact nomatch refused
  · obtain ⟨⟨_, _, _, after, rfl, rfl, rfl, run, became⟩, -, -⟩ :=
      message_fills_all_or_nothing .standard (some pairLookup) pairLine [7, 0, 0, 0, 5, 1] (by decide)
    rcases became with ⟨frame, arguments, present, fits, -⟩ | ⟨-, rfl⟩
    · have same : pairFrame = frame := Option.some.inj present
      subst same
      exact nomatch fits
    · exact run

end NonVerbose

end DiagTrace
