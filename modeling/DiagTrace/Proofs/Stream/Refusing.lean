import DiagTrace.Proofs.Bytes.Yielding
import DiagTrace.Stream.Encoder

/-!
Why a line is refused. Whatever fails before there is a packet fails for what the line holds or for the services
that are known, and never for the room that there is for the packet.
-/
namespace DiagTrace

/-- If this fails, then for what is to be written. -/
def Refuses {α : Type} (result : Except Fault α) : Prop :=
  ∀ fault, result = .error fault → fault.kind = .encodeNotSupported ∨ fault.kind = .usage

namespace Refuses

variable {α β : Type} {result : Except Fault α}

theorem of_ok (value : α) : Refuses (.ok value : Except Fault α) := by
  intro fault failed
  cases failed

theorem of_error {fault : Fault} (kind : fault.kind = .encodeNotSupported) :
    Refuses (.error fault : Except Fault α) := by
  intro other failed
  cases failed
  exact .inl kind

theorem bind {next : α → Except Fault β} (first : Refuses result) (second : ∀ value, Refuses (next value)) :
    Refuses (result >>= next) := by
  intro fault failed
  rcases error_of_bind failed with here | ⟨value, _, later⟩
  · exact first fault here
  · exact second value fault later

theorem map (first : Refuses result) (f : α → β) : Refuses (result.map f) := by
  intro fault failed
  exact first fault (error_of_map failed)

theorem ite {condition : Prop} [Decidable condition] {other : Except Fault α} (first : Refuses result)
    (second : Refuses other) : Refuses (if condition then result else other) := by
  split
  · exact first
  · exact second

theorem mapM {f : α → Except Fault β} (each : ∀ value, Refuses (f value)) (values : List α) :
    Refuses (values.mapM f) := by
  intro fault failed
  obtain ⟨value, _, wrong⟩ := error_of_mapM failed
  exact each value fault wrong

end Refuses

namespace Verbose

variable (order : ByteOrder) (name : Option (String × Option String))

theorem refuses_length16 (what : String) (length : Nat) : Refuses (length16 order what length) :=
  .ite (.of_ok _) (.of_error rfl)

theorem refuses_nameField : Refuses (nameField order name) := by
  cases name with
  | none => exact .of_ok _
  | some named => exact (refuses_length16 order _ _).bind fun _ => .of_ok _

theorem refuses_nameAndUnitField : Refuses (nameAndUnitField order name) := by
  cases name with
  | none => exact .of_ok _
  | some named => exact (refuses_length16 order _ _).bind fun _ => (refuses_length16 order _ _).bind fun _ => .of_ok _

theorem refuses_scalarField (element : ScalarKind) (item : Argument) : Refuses (scalarField order element item) := by
  unfold scalarField
  split
  · exact .of_ok _
  · exact .of_ok _
  · exact .of_ok _
  · exact .of_ok _
  · exact .of_ok _
  · exact .of_error rfl

theorem refuses_itemsOnto (element : ScalarKind) (items : List Argument) (done : List Bytes) :
    Refuses (itemsOnto order element items done) := by
  induction items generalizing done with
  | nil => exact .of_ok _
  | cons item items ih =>
    rw [itemsOnto]
    split
    · exact ih _
    · rename_i fault failed
      have refused := refuses_scalarField order element item fault failed
      intro other same
      cases same
      exact refused

theorem refuses_numberArgument (word : UInt32) (scaling value : Bytes) :
    Refuses (numberArgument order name word scaling value) :=
  (refuses_nameAndUnitField order name).bind fun _ => .of_ok _

theorem refuses_dataArgument (word : UInt32) (what : String) (data : Bytes) :
    Refuses (dataArgument order name word what data) :=
  (refuses_length16 order _ _).bind fun _ => (refuses_nameField order name).bind fun _ => .of_ok _

theorem refuses_codedInteger (coding : Nat) (value : UInt64) (width : Width) :
    Refuses (codedInteger order name coding value width) :=
  .ite (.of_error rfl) (refuses_numberArgument order name _ _ _)

theorem refuses_arrayArgument (element : ScalarKind) (dimensions : List UInt16) (items : List Argument)
    (scaling : Option Scaling) : Refuses (arrayArgument order name element dimensions items scaling) := by
  have sized : ∀ scalingData : Bytes, Refuses (do
      let word := TypeInfo.array ||| TypeInfo.ofScalar element
        ||| TypeInfo.flag TypeInfo.named name.isSome ||| TypeInfo.flag TypeInfo.scaled scaling.isSome
      let count ← length16 order "array dimensions" dimensions.length
      let sizes := dimensions.flatMap fun dimension => order.encode 2 dimension.toNat
      let names ← nameAndUnitField order name
      let data ← itemFields order element items
      return wordField order word ++ count ++ sizes ++ names ++ scalingData ++ data) := by
    intro scalingData
    exact (refuses_length16 order _ _).bind fun _ => (refuses_nameAndUnitField order name).bind fun _ =>
      ((refuses_itemsOnto order element items []).bind fun _ => .of_ok _).bind fun _ => .of_ok _
  rw [arrayArgument]
  refine .ite (.of_error rfl) ?_
  dsimp only
  split
  · exact .of_error rfl
  · exact sized _
  · exact sized _

mutual

theorem refuses_valueField (order : ByteOrder) (name : Option (String × Option String)) :
    (argument : Argument) → Refuses (valueField order name argument)
  -- One case a constructor; the fields of a record and the value behind a name are smaller arguments.
  | .bool value => (refuses_nameField order name).bind fun _ => .of_ok _
  | .signed value width scaling => refuses_numberArgument order name _ _ _
  | .unsigned value width scaling => refuses_numberArgument order name _ _ _
  | .hex value width => refuses_codedInteger order name _ value width
  | .binary value width => refuses_codedInteger order name _ value width
  | .float32 bits => refuses_numberArgument order name _ _ _
  | .float64 bits => refuses_numberArgument order name _ _ _
  | .string value coding => refuses_dataArgument order name _ _ _
  | .raw data => refuses_dataArgument order name _ _ _
  | .traceInfo value => .ite (.of_error rfl) (refuses_dataArgument order none _ _ _)
  | .record fields =>
    (refuses_length16 order _ _).bind fun _ => (refuses_nameField order name).bind fun _ =>
      (refuses_argumentFields order fields).bind fun _ => .of_ok _
  | .array element dimensions items scaling => refuses_arrayArgument order name element dimensions items scaling
  | .unknown info data => by
    unfold valueField
    split
    · exact .of_ok _
    · exact .of_error rfl
  | .named inner unit value => by
    unfold valueField
    split
    · exact refuses_valueField order (some (inner, unit)) value
    · exact .of_error rfl
  | .payload data => .of_error rfl
  | .failure message => .of_error rfl

theorem refuses_argumentFields (order : ByteOrder) :
    (arguments : List Argument) → Refuses (argumentFields order arguments)
  | [] => .of_ok _
  | argument :: rest =>
    (refuses_valueField order none argument).bind fun _ => (refuses_argumentFields order rest).bind fun _ => .of_ok _

end

end Verbose

namespace Control

variable (order : ByteOrder)

theorem refuses_entryCount (count : Nat) : Refuses (entryCount order count) := .ite (.of_ok _) (.of_error rfl)

theorem refuses_encodeDescription (description : Option String) : Refuses (encodeDescription order description) :=
  .ite (.of_ok _) (.of_error rfl)

theorem refuses_encodeIf (present : Bool) {data : Except Fault Bytes} (refuses : Refuses data) :
    Refuses (encodeIf present data) := .ite refuses (.of_ok _)

theorem refuses_encodeContext (status : UInt8) (context : ContextInfo) : Refuses (context.encode order status) :=
  (refuses_encodeIf _ (refuses_encodeDescription order _)).bind fun _ => .of_ok _

theorem refuses_encodeApp (status : UInt8) (app : AppInfo) : Refuses (app.encode order status) :=
  (refuses_entryCount order _).bind fun _ => (Refuses.mapM (refuses_encodeContext order status) _).bind fun _ =>
    (refuses_encodeIf _ (refuses_encodeDescription order _)).bind fun _ => .of_ok _

theorem refuses_encodeApps (status : UInt8) (apps : List AppInfo) : Refuses (encodeApps order status apps) := by
  have listing : Refuses (do
      let count ← entryCount order apps.length
      let entries ← apps.mapM (AppInfo.encode order status)
      return count ++ entries.flatten) :=
    (refuses_entryCount order _).bind fun _ => (Refuses.mapM (refuses_encodeApp order status) _).bind fun _ => .of_ok _
  exact .ite listing (.ite (.of_ok _) (.of_error rfl))

theorem refuses_response (response : Response) : Refuses (response.encode order) := by
  have body : Refuses (response.encodeBody order) := by
    cases response with
    | logInfo code apps interface => exact (refuses_encodeApps order code apps).bind fun _ => .of_ok _
    | _ => exact .of_ok _
  exact body.bind fun _ => .of_ok _

theorem refuses_role (role : Role) (payload : Payload) : Refuses (role.encode order payload) := by
  unfold Role.encode
  split
  · exact .of_ok _
  · exact refuses_response order _
  · exact .of_error rfl

theorem Registry.refuses_encode (registry : Registry) (payload : Payload) :
    Refuses (registry.encode order payload) := by
  have as : ∀ key, Refuses (registry.encodeAs order key payload) := by
    intro key
    unfold encodeAs
    split
    · exact .of_error rfl
    · exact refuses_response order _
    · exact refuses_role order _ _
  unfold encode
  split
  · exact .of_ok _
  · exact as _
  · exact as _

end Control

namespace Stream

theorem Body.refuses_ofLine (registry : Control.Registry) (line : Line) : Refuses (ofLine registry line) := by
  cases line with
  | normal header messageId arguments =>
    have raw : ∀ id, Refuses (rawPayload header.order id arguments) := by
      intro id
      unfold rawPayload
      split
      · exact .of_ok _
      · exact .of_ok _
      · exact .of_error rfl
    unfold ofLine ofArguments
    refine .ite (fun fault failed => ?_) ?_
    · cases failed
      exact .inr rfl
    · split
      · exact (raw _).map _
      · exact (Verbose.refuses_argumentFields _ _).map _
  | control header payload => exact (registry.refuses_encode _ payload).map _
  | skipped header bytes reason => exact .of_error rfl

theorem Headers.refuses_ofLine (format : CaptureFormat) (count : UInt8) (line : Line) (body : Body) :
    Refuses (ofLine format count line body) := by
  have ticks : Refuses (ticksOf line.header) := by
    unfold ticksOf
    split
    · exact Refuses.map (.ite (.of_ok _) (.of_error rfl)) _
    · exact .of_ok _
  exact ticks.bind fun _ => .ite (.of_error rfl) (.of_ok _)

/-- An encoder refuses a line for its contents or for its services. -/
theorem Encoder.refuses_encode (encoder : Encoder) (line : Line) : Refuses (encoder.encode line) :=
  (Body.refuses_ofLine encoder.control line).bind fun body =>
    (Headers.refuses_ofLine encoder.format _ line body).bind fun _ => .of_ok _

end Stream

end DiagTrace
