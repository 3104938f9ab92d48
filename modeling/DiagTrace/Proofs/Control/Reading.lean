import DiagTrace.Proofs.Control.RoundTrip
import DiagTrace.Proofs.Verbose.Reading

/-!
The control payloads that can be read with the services of the standard, from whatever bytes. All of them are written
again, but for a report with a description that has grown on the way.
-/
namespace DiagTrace

theorem Ident.plain_charsOf {wire : Bytes} (short : wire.length ≤ 4) : Plain (String.ofList (charsOf wire)) := by
  rw [Plain, String.toList_ofList, charsOf]
  constructor
  · rw [List.length_map]
    have front := (List.takeWhile_sublist (l := wire.map (· &&& 0x7F)) (· != 0)).length_le
    rw [List.length_map] at front
    omega
  · intro c present
    obtain ⟨b, there, rfl⟩ := List.mem_map.mp present
    have nonzero : b ≠ 0 := bne_iff_ne.mp (List.all_eq_true.mp List.all_takeWhile b there)
    obtain ⟨whole, _, rfl⟩ := List.mem_map.mp ((List.takeWhile_sublist _).subset there)
    have low : (whole &&& 0x7F).toNat ≤ 0x7F := by
      rw [UInt8.toNat_and]
      exact Nat.and_le_right
    have some_bit : (whole &&& 0x7F).toNat ≠ 0 := fun zero => nonzero (UInt8.toNat_inj.mp zero)
    rw [UInt8.toNat_charOf]
    omega

theorem Read.yields_ident : Yields ident Ident.Plain :=
  yields_last (yields_take 4) fun _ length => Ident.plain_charsOf (Nat.le_of_eq length)

namespace Control

open Read Layout
open Verbose (optionally TextFits yields_optionally)

variable {order : ByteOrder} {id : ServiceId} {status : UInt8}

section Requests

theorem yields_target : Yields readTarget TargetFits :=
  yields_bind yields_ident fun _ app => yields_last yields_ident fun _ ctx => ⟨app, ctx⟩

theorem yields_injection (service : ServiceId) :
    Yields (readInjection service) fun data => data.length < Bytes.capacity 4 := by
  refine yields_bind (yields_nat .little 4) fun length short => yields_bind (yields_any _) fun cursor _ => ?_
  have taken : Yields (take length) fun data => data.length < Bytes.capacity 4 := by
    intro cursor data last read
    rw [yields_take length cursor data last read]
    exact short
  simp only
  split
  · exact yields_bind (yields_any _) fun _ _ => taken
  · exact taken

theorem enable_of_entered : ∀ entry ∈ Registry.standardRequests, entry.2 = .enable → entry.1 ∈ Registry.switches := by
  decide

theorem query_of_entered : ∀ entry ∈ Registry.standardRequests, entry.2 = .query → entry.1 ∈ Registry.queries := by
  decide

theorem injection_not_entered : ∀ entry ∈ Registry.standardRequests, entry.2 ≠ .injection := by
  decide

theorem yields_request {layout : RequestLayout} (entered : (id, layout) ∈ Registry.standardRequests ∨
    layout = .injection ∧ ServiceId.firstInjection ≤ id) : Yields (layout.read id) RequestFits := by
  cases layout with
  | setLogLevel | setTraceStatus =>
    exact yields_bind yields_target fun _ target => yields_bind (yields_any _) fun _ _ =>
      yields_last yields_ident fun _ interface => ⟨target, interface⟩
  | getLogInfo =>
    exact yields_bind (yields_any _) fun _ _ => yields_bind yields_target fun _ target =>
      yields_last yields_ident fun _ interface => ⟨target, interface⟩
  | query =>
    rcases entered with entered | ⟨other, _⟩
    · exact yields_pure (query_of_entered _ entered rfl)
    · cases other
  | enable =>
    rcases entered with entered | ⟨other, _⟩
    · exact yields_last (yields_any _) fun _ _ => enable_of_entered _ entered rfl
    · cases other
  | setDefaultLogLevel | setDefaultTraceStatus =>
    exact yields_bind (yields_any _) fun _ _ => yields_last yields_ident fun _ interface => interface
  | getTraceStatus => exact yields_last yields_target fun _ target => target
  | injection =>
    rcases entered with entered | ⟨_, high⟩
    · exact absurd rfl (injection_not_entered _ entered)
    · exact yields_last (yields_injection id) fun _ short => ⟨high, short⟩

end Requests

section Reports

def ContextInfo.Overlong (context : ContextInfo) : Prop := ∃ text ∈ context.description, ¬ TextFits text

def AppInfo.Overlong (app : AppInfo) : Prop :=
  (∃ text ∈ app.description, ¬ TextFits text) ∨ ∃ context ∈ app.contexts, context.Overlong

def Payload.Overlong : Payload → Prop
  | .response (.logInfo status apps _) => Status.hasDescriptions status = true ∧ ∃ app ∈ apps, app.Overlong
  | _ => False

theorem described_of_present {α : Type} {value : Option α} {present : Bool} (there : value.isSome = present) {x : α}
    (found : x ∈ value) : present = true := by
  rw [← there, found]
  rfl

theorem fits_or_long (description : Option String) :
    (∀ text ∈ description, TextFits text) ∨ ∃ text ∈ description, ¬ TextFits text := by
  cases description with
  | none => exact .inl fun text there => nomatch there
  | some text =>
    by_cases short : TextFits text
    · refine .inl fun found there => ?_
      cases there
      exact short
    · exact .inr ⟨text, rfl, short⟩

theorem yields_context (order : ByteOrder) (status : UInt8) : Yields (readContext order status) fun context =>
    ContextFits status context ∨ Status.hasDescriptions status = true ∧ context.Overlong := by
  refine yields_bind yields_ident fun id plain => ?_
  refine yields_bind (yields_optionally (yields_any _) _) fun level levelled => ?_
  refine yields_bind (yields_optionally (yields_any _) _) fun trace traced => ?_
  refine yields_last (yields_optionally (yields_any _) _) fun description described => ?_
  rcases fits_or_long description with fits | ⟨text, there, long⟩
  · exact .inl ⟨plain, levelled.1, traced.1, described.1, fits⟩
  · exact .inr ⟨described_of_present described.1 there, text, there, long⟩

theorem yields_app (order : ByteOrder) (status : UInt8) : Yields (readApp order status) fun app =>
    AppFits status app ∨ Status.hasDescriptions status = true ∧ app.Overlong := by
  refine yields_bind yields_ident fun id plain => yields_bind (yields_u16 order) fun count few => ?_
  refine yields_bind (yields_times (yields_context order status) count) fun contexts listed => ?_
  obtain ⟨rfl, each⟩ := listed
  refine yields_last (yields_optionally (yields_any _) _) fun description described => ?_
  rcases all_or_some each with all | ⟨context, present, there, long⟩
  · rcases fits_or_long description with fits | ⟨text, there, long⟩
    · exact .inl ⟨plain, few, all, described.1, fits⟩
    · exact .inr ⟨described_of_present described.1 there, .inl ⟨text, there, long⟩⟩
  · exact .inr ⟨there, .inr ⟨context, present, long⟩⟩

end Reports

section Responses

variable {service : ServiceId} {layout : ResponseLayout}

/-- What was read of a response: it fits, or it is a report with a description that has grown. -/
def ResponseRead (response : Response) : Prop := ResponseFits response ∨ (Payload.response response).Overlong

theorem acknowledgement_of_entered :
    ∀ entry ∈ Registry.standardResponses, entry.2 = .status → entry.1 ∈ Registry.acknowledgements := by
  decide

theorem switchState_of_entered :
    ∀ entry ∈ Registry.standardResponses, entry.2 = .enabled → entry.1 ∈ Registry.switchStates := by
  decide

theorem service_of_logLevel :
    ∀ entry ∈ Registry.standardResponses, entry.2 = .logLevel → entry.1 = .getDefaultLogLevel := by
  decide

theorem registered_of_entered :
    ∀ entry ∈ Registry.standardResponses, Registry.standard.isRegistered ⟨entry.1, .response⟩ = true := by
  decide

theorem failure_fits (entered : (service, layout) ∈ Registry.standardResponses)
    (failed : Status.isFailure status = true) : ResponseFits (.status service status) :=
  .inr ⟨registered_of_entered _ entered, (isFailure_iff status).mp failed⟩

theorem yields_answer {body : UInt8 → Read Response} (entered : (service, layout) ∈ Registry.standardResponses)
    (yields : ∀ status, status ≠ 1 ∧ status ≠ 2 → Yields (body status) ResponseFits) :
    Yields (readAnswer service body) ResponseRead := by
  refine yields_bind (yields_any _) fun status _ => ?_
  split
  · rename_i failed
    exact yields_pure (.inl (failure_fits entered failed))
  · rename_i answered
    rw [isFailure_iff, not_or] at answered
    intro cursor response last read
    exact .inl (yields status answered cursor response last read)

theorem yields_logInfo (entered : (service, ResponseLayout.logInfo) ∈ Registry.standardResponses) :
    Yields (readLogInfo order service) ResponseRead := by
  refine yields_bind (yields_any _) fun status _ => yields_bind (yields_any _) fun cursor _ => ?_
  -- Only a failure without an interface is a bare status; with one it is an empty report.
  split
  · rename_i failed
    exact yields_pure (.inl (failure_fits entered (Bool.and_eq_true_iff.mp failed).1))
  · split
    · rename_i empty
      exact yields_last yields_ident fun interface plain =>
        .inl ⟨.inl ⟨(isEmptyReport_iff status).mp empty, rfl⟩, plain⟩
    · split
      · rename_i listing
        obtain ⟨low, high⟩ := (isListing_iff status).mp listing
        refine yields_bind (yields_u16 order) fun count few => ?_
        refine yields_bind (yields_times (yields_app order status) count) fun apps listed => ?_
        obtain ⟨rfl, each⟩ := listed
        refine yields_last yields_ident fun interface plain => ?_
        rcases all_or_some each with all | ⟨app, present, there, long⟩
        · exact .inl ⟨.inr ⟨low, high, few, all⟩, plain⟩
        · exact .inr ⟨there, app, present, long⟩
      · exact yields_throw _

theorem yields_seconds (order : ByteOrder) :
    Yields (readSeconds order) fun seconds => seconds.toNat < Bytes.capacity 6 := by
  refine yields_bind (yields_nat order 4) fun low low_short => ?_
  refine yields_last (yields_nat order 2) fun high high_short => ?_
  simp only [Bytes.capacity] at low_short high_short ⊢
  have whole := Nat.mod_le (high * 256 ^ 4 + low) (2 ^ 64)
  rw [UInt64.toNat_ofNat']
  omega

theorem yields_version (order : ByteOrder) : Yields (readVersion order) Latin1.Plain :=
  yields_bind (yields_any _) fun _ _ => yields_last (yields_any _) fun _ _ => Latin1.plain_decode _

theorem yields_response (order : ByteOrder) (entered : (service, layout) ∈ Registry.standardResponses) :
    Yields (layout.read order service) ResponseRead := by
  cases layout with
  | status => exact yields_last (yields_any _) fun status _ => .inl (.inl (acknowledgement_of_entered _ entered rfl))
  | logLevel =>
    exact yields_answer entered fun status answered => yields_last (yields_any _) fun level _ =>
      ⟨service_of_logLevel _ entered rfl, answered⟩
  | enabled =>
    exact yields_answer entered fun status answered => yields_last (yields_any _) fun value _ =>
      ⟨switchState_of_entered _ entered rfl, answered⟩
  | logInfo => exact yields_logInfo entered
  | softwareVersion =>
    exact yields_answer entered fun status answered => yields_last (yields_version order) fun version plain =>
      ⟨plain, answered⟩
  | bufferOverflow =>
    exact yields_answer entered fun status answered => yields_last (yields_any _) fun counter _ => answered
  | syncTimestamp =>
    exact yields_answer entered fun status answered => yields_bind (yields_any _) fun nanoseconds _ =>
      yields_last (yields_seconds order) fun seconds short => ⟨short, answered⟩
  | unregisterContext =>
    exact yields_answer entered fun status answered => yields_bind yields_target fun target named =>
      yields_last yields_ident fun interface plain => ⟨named, plain, answered⟩
  | connectionInfo =>
    exact yields_answer entered fun status answered => yields_bind (yields_any _) fun state _ =>
      yields_last yields_ident fun interface plain => ⟨plain, answered⟩
  | timeZone =>
    exact yields_answer entered fun status answered => yields_bind (yields_any _) fun offset _ =>
      yields_last (yields_any _) fun summer _ => answered
  | injection => exact absurd rfl (layout_ne_injection _ entered)

end Responses

section Payloads

variable {registry : Registry} {payload : Payload} {key : ServiceKey} {service : Service}

theorem yields_service (order : ByteOrder) (found : Registry.standard.lookup key = some service) :
    Yields (service.layout.read order key.id) fun payload =>
      payload.type = key.role.type ∧ (PayloadFits payload ∨ payload.Overlong) := by
  obtain ⟨id, role⟩ := key
  unfold Registry.lookup at found
  split at found
  · rename_i entry given
    cases found
    rcases layout_of_entry (entry_of_find given) with ⟨layout, listed, rfl, rfl⟩ | ⟨layout, listed, rfl, rfl⟩
    · exact yields_map (yields_request (.inl listed)) fun request fits => ⟨rfl, .inl fits⟩
    · exact yields_map (yields_response order listed) fun response shape => ⟨rfl, shape⟩
  · split at found
    · cases found
    · rename_i high
      have injected : ServiceId.firstInjection ≤ id := UInt32.not_lt.mp high
      cases found
      cases role with
      | request => exact yields_map (yields_request (.inr ⟨rfl, injected⟩)) fun request fits => ⟨rfl, .inl fits⟩
      | response =>
        refine yields_map (yields_last (yields_any byte) fun status _ => ?_) fun response fits => ⟨rfl, .inl fits⟩
        exact injected

theorem type_of_role {type : MessageType} {role : Role} (known : Role.ofType? type = some role) :
    role.type = type := by
  unfold Role.ofType? at known
  split at known <;> cases known <;> rfl

/-- A payload of the standard is of the type that it was read for, and can be written unless it has grown. -/
theorem decode_read {type : MessageType} {order : ByteOrder} {data : Bytes} {used : Nat}
    (read : Registry.standard.decode type order data = .ok (payload, used)) :
    payload.type = type ∧ (PayloadFits payload ∨ payload.Overlong) := by
  by_cases timed : type = .control .time
  · subst timed
    cases read
    exact ⟨rfl, .inl trivial⟩
  · cases known : Role.ofType? type with
    | none =>
      have untimed : (type == .control .time) = false := beq_eq_false_iff_ne.mpr timed
      simp only [Registry.decode, untimed, known, Bool.false_eq_true, ↓reduceIte] at read
      cases read
    | some role =>
      have yields : Yields (Registry.standard.readPayload order role) fun payload =>
          payload.type = role.type ∧ (PayloadFits payload ∨ payload.Overlong) := by
        refine yields_bind (yields_any _) fun id _ => ?_
        split
        · rename_i service found
          exact yields_service order found
        · exact yields_throw _
      rw [decode_eq known] at read
      cases given : Registry.standard.readPayload order role ⟨data, 0⟩ with
      | error fault =>
        rw [given] at read
        cases read
      | ok result =>
        rw [given] at read
        cases read
        rw [← type_of_role known]
        exact yields _ _ _ given

end Payloads

section Refused

variable {order : ByteOrder} {status : UInt8} {bs : Bytes}

theorem textFits_of_described {description : Option String} (there : Status.hasDescriptions status = true)
    (written : encodeIf (Status.hasDescriptions status) (encodeDescription order description) = .ok bs) :
    ∀ text ∈ description, TextFits text := by
  intro text present
  cases present
  rw [encodeIf, if_pos there] at written
  simp only [encodeDescription] at written
  split at written
  · rename_i short
    rw [Option.getD_some, Verbose.length_terminated] at short
    exact Nat.le_of_succ_le_succ (Nat.le_of_lt_succ short)
  · cases written

theorem overlong_context_refused {context : ContextInfo} (there : Status.hasDescriptions status = true)
    (long : context.Overlong) : context.encode order status ≠ .ok bs := by
  intro written
  obtain ⟨described, description, _⟩ := of_bind written
  obtain ⟨text, present, grown⟩ := long
  exact grown (textFits_of_described there description text present)

theorem mapM_written {α : Type} {write : α → Except Fault Bytes} {values : List α} {fields : List Bytes}
    (written : values.mapM write = .ok fields) : ∀ value ∈ values, ∃ field, write value = .ok field := by
  induction values generalizing fields with
  | nil => exact fun value there => nomatch there
  | cons value values ih =>
    rw [List.mapM_cons] at written
    obtain ⟨field, first, others⟩ := of_bind written
    obtain ⟨_, rest, _⟩ := of_bind others
    intro other present
    rcases List.mem_cons.mp present with rfl | later
    · exact ⟨field, first⟩
    · exact ih rest other later

theorem overlong_app_refused {app : AppInfo} (there : Status.hasDescriptions status = true) (long : app.Overlong) :
    app.encode order status ≠ .ok bs := by
  intro written
  obtain ⟨_, _, counted⟩ := of_bind written
  obtain ⟨contexts, each, listed⟩ := of_bind counted
  obtain ⟨described, description, _⟩ := of_bind listed
  rcases long with ⟨text, present, grown⟩ | ⟨context, present, grown⟩
  · exact grown (textFits_of_described there description text present)
  · obtain ⟨field, alone⟩ := mapM_written each context present
    exact overlong_context_refused there grown alone

theorem encode_report (order : ByteOrder) (status : UInt8) (apps : List AppInfo) (interface : String) :
    Registry.standard.encode order (.response (.logInfo status apps interface)) =
      (Response.logInfo status apps interface).encode order := by
  have found : Registry.standard.lookup ⟨.getLogInfo, .response⟩ = some ⟨.response .logInfo, .response⟩ :=
    lookup_standardResponses (.getLogInfo, .logInfo) (by decide)
  simp only [Registry.encode, Registry.encodeAs, Response.service, found]
  rfl

theorem overlong_refused {payload : Payload} (order : ByteOrder) (long : payload.Overlong) (bs : Bytes) :
    Registry.standard.encode order payload ≠ .ok bs := by
  intro written
  cases payload with
  | timeMarker => exact long
  | request request => exact long
  | response response =>
    cases response with
    | logInfo status apps interface =>
      obtain ⟨there, app, present, grown⟩ := long
      have listing : Status.isListing status = true := by
        rw [beq_iff_eq.mp there]
        rfl
      rw [encode_report] at written
      obtain ⟨_, body, _⟩ := of_bind written
      obtain ⟨_, listed, _⟩ := of_bind body
      rw [encodeApps, if_pos listing] at listed
      obtain ⟨_, _, counted⟩ := of_bind listed
      obtain ⟨_, each, _⟩ := of_bind counted
      obtain ⟨field, alone⟩ := mapM_written each app present
      exact overlong_app_refused there grown alone
    | _ => exact long

end Refused

end Control

end DiagTrace
