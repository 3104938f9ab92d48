import DiagTrace.Proofs.Control.Fits
import DiagTrace.Proofs.Verbose.Values

/-! Control payloads of the standard services come back from their bytes. -/
namespace DiagTrace.Control

open Read Layout
open Verbose (optionally terminated withoutTerminator gives_absent gives_present gives_text gives_bool
  length_terminated TextFits withoutTerminator_append)

variable {order : ByteOrder} {tail : Bytes}

section Fields

theorem gives_int8 (value : Int8) : Gives readInt8 (encodeInt8 value) value := by
  have fits : TwosComplement.Fits Width.w8.bytes value.toInt := by
    have low := value.le_toInt
    have high := value.toInt_lt
    simp only [TwosComplement.Fits, Width.bytes, Bytes.capacity]
    omega
  have read := gives_last (gives_signed .little .w8 fits) Int8.ofInt
  rw [Int8.ofInt_toInt] at read
  exact read

theorem gives_flag (value : Bool) : Gives readFlag (encodeFlag value) value := gives_bool value

theorem gives_target {target : Target} (fits : TargetFits target) : Gives readTarget target.encode target := by
  refine gives_bind (gives_ident fits.1) ?_
  exact gives_last (gives_ident fits.2) fun ctx => (⟨target.app, ctx⟩ : Target)

theorem gives_seconds {seconds : UInt64} (fits : seconds.toNat < Bytes.capacity 6) :
    Gives (readSeconds order)
      (order.encode 4 seconds.toNat ++ order.encode 2 (seconds.toNat / Bytes.capacity 4)) seconds := by
  have high : seconds.toNat / Bytes.capacity 4 < Bytes.capacity 2 := by
    simp only [Bytes.capacity] at fits ⊢
    omega
  have whole : seconds.toNat / Bytes.capacity 4 * Bytes.capacity 4 + seconds.toNat % Bytes.capacity 4 =
      seconds.toNat := by
    rw [Nat.mul_comm]
    exact Nat.div_add_mod _ _
  have read := gives_last (gives_nat order high) fun high =>
    UInt64.ofNat (high * Bytes.capacity 4 + seconds.toNat % Bytes.capacity 4)
  rw [whole, UInt64.ofNat_toNat] at read
  exact gives_bind (gives_low order 4 seconds.toNat) read

theorem gives_version {version : String} (plain : Latin1.Plain version)
    (short : (Latin1.encode version ++ [0]).length < Bytes.capacity 4) :
    Gives (readVersion order)
      (order.encode 4 (Latin1.encode version ++ [0]).length ++ (Latin1.encode version ++ [0])) version := by
  refine gives_bind (gives_nat order short) ?_
  have read := gives_last (gives_take (rfl : (Latin1.encode version ++ [0]).length = _))
    fun data => Latin1.decode (withoutTerminator data)
  rw [withoutTerminator_append, Latin1.decode_encode plain] at read
  exact read

theorem gives_injection {service : ServiceId} {data : Bytes} (short : data.length < Bytes.capacity 4) :
    GivesBefore (readInjection service) [] (ByteOrder.little.encode 4 data.length ++ data) data := by
  refine givesBefore_bind (gives_nat .little short _) ?_
  intro position
  have whole : (data.length != (⟨data ++ [], position⟩ : Cursor).remaining) = false := by
    rw [Cursor.remaining, List.append_nil, bne_self_eq_false]
  have taken := gives_take (rfl : data.length = _) [] position
  simp only [bind, StateT.bind, Except.bind, get, getThe, MonadStateOf.get, StateT.get, pure, Except.pure, whole,
    Bool.false_eq_true, ↓reduceIte]
  exact taken

theorem description_fits (order : ByteOrder) {description : Option String} {present : Bool}
    (there : description.isSome = present) (fits : ∀ text ∈ description, TextFits text) :
    ∃ bs, encodeIf present (encodeDescription order description) = .ok bs ∧
      Gives (optionally present (readDescription order)) bs description := by
  subst there
  cases description with
  | none => exact ⟨[], rfl, gives_absent _⟩
  | some text =>
    have small : (terminated text).length < 65536 := by
      have bound := fits text rfl
      simp only [TextFits] at bound
      rw [length_terminated]
      omega
    refine ⟨order.encode 2 (terminated text).length ++ terminated text, ?_, ?_⟩
    · simp only [encodeIf, encodeDescription, Option.isSome_some, Option.getD_some, small, ↓reduceIte]
    · exact gives_present (gives_bind (gives_u16 order small) (gives_text text))

theorem gives_optionalInt8 {value : Option Int8} {present : Bool} (there : value.isSome = present) :
    Gives (optionally present readInt8) (if present then encodeOptionalInt8 value else []) value := by
  subst there
  cases value with
  | none => exact gives_absent _
  | some value => exact gives_present (gives_int8 value)

end Fields

section Reports

variable {status : UInt8}

theorem context_fits {context : ContextInfo} (fits : ContextFits status context) :
    ∃ bs, context.encode order status = .ok bs ∧ Gives (readContext order status) bs context := by
  obtain ⟨described, written, read⟩ := description_fits order fits.described fits.description
  refine ⟨Ident.bytes context.id
    ++ (if Status.hasLevels status then encodeOptionalInt8 context.logLevel else [])
    ++ (if Status.hasTraces status then encodeOptionalInt8 context.traceStatus else []) ++ described, ?_, ?_⟩
  · simp only [ContextInfo.encode, written, bind, Except.bind, pure, Except.pure]
  · rw [List.append_assoc, List.append_assoc]
    refine gives_bind (gives_ident fits.id) (gives_bind (gives_optionalInt8 fits.level)
      (gives_bind (gives_optionalInt8 fits.trace) ?_))
    exact gives_last read fun description =>
      (⟨context.id, context.logLevel, context.traceStatus, description⟩ : ContextInfo)

theorem entryCount_of_le {count : Nat} (few : count ≤ 65535) :
    entryCount order count = .ok (order.encode 2 count) := by
  rw [entryCount, if_pos (Nat.lt_succ_of_le few)]

theorem app_fits {app : AppInfo} (fits : AppFits status app) :
    ∃ bs, app.encode order status = .ok bs ∧ Gives (readApp order status) bs app := by
  obtain ⟨described, written, read⟩ := description_fits order fits.described fits.description
  obtain ⟨contexts, contexts_written, contexts_read⟩ := gives_fields (f := ContextInfo.encode order status)
    fun context present => context_fits (fits.each context present)
  refine ⟨Ident.bytes app.id ++ order.encode 2 app.contexts.length ++ contexts.flatten ++ described, ?_, ?_⟩
  · simp only [AppInfo.encode, entryCount_of_le fits.few, contexts_written, written, bind, Except.bind, pure,
      Except.pure]
  · rw [List.append_assoc, List.append_assoc]
    refine gives_bind (gives_ident fits.id) (gives_bind (gives_u16 order (Nat.lt_succ_of_le fits.few))
      (gives_bind contexts_read ?_))
    exact gives_last read fun description => (⟨app.id, app.contexts, description⟩ : AppInfo)

theorem isEmptyReport_iff (status : UInt8) :
    Status.isEmptyReport status = true ↔ status ∈ [0, 1, 2, 8, 9] := by
  simp [Status.isEmptyReport, Status.isFailure, Status.ok, Status.notSupported, Status.error, Status.noMatch,
    Status.overflow, or_assoc]

theorem isListing_iff (status : UInt8) : Status.isListing status = true ↔ 3 ≤ status ∧ status ≤ 7 := by
  simp [Status.isListing]

theorem not_isEmptyReport_of_isListing (listing : Status.isListing status = true) :
    Status.isEmptyReport status = false := by
  cases empty : Status.isEmptyReport status with
  | false => rfl
  | true =>
    have short := (isEmptyReport_iff status).mp empty
    simp only [List.mem_cons, List.not_mem_nil, or_false] at short
    rcases short with rfl | rfl | rfl | rfl | rfl <;> exact absurd listing (by decide)

def readReport (order : ByteOrder) (status : UInt8) : Read Response :=
  if Status.isEmptyReport status then do return .logInfo status [] (← Read.ident)
  else if Status.isListing status then do
    let count ← Read.u16 order
    let apps ← Read.times (readApp order status) count
    return .logInfo status apps (← Read.ident)
  else throw (.logInfoStatus status.toNat)

theorem gives_logInfo {bs : Bytes} {response : Response} (enough : 4 ≤ bs.length)
    (read : Gives (readReport order status) bs response) :
    Gives (readLogInfo order .getLogInfo) (status :: bs) response := by
  refine gives_bind (gives_byte status) (gives_get (fun cursor there => ?_) read)
  have present : cursor.rest.hasAtLeast 4 = true := by
    rw [Bytes.hasAtLeast_iff]
    omega
  simp only [present, Bool.not_true, Bool.and_false, Bool.false_eq_true, ↓reduceIte]
  rfl

theorem report_fits (order : ByteOrder) {apps : List AppInfo} {interface : String} (fits : ReportFits status apps)
    (plain : Ident.Plain interface) :
    ∃ bs, Response.encodeBody order (.logInfo status apps interface) = .ok bs ∧
      Gives (readLogInfo order .getLogInfo) (status :: bs) (.logInfo status apps interface) := by
  rcases fits with ⟨empty, rfl⟩ | ⟨low, high, few, each⟩
  · have reported := (isEmptyReport_iff status).mpr empty
    have unlisted : Status.isListing status = false := by
      cases listing : Status.isListing status with
      | false => rfl
      | true =>
        rw [not_isEmptyReport_of_isListing listing] at reported
        cases reported
    refine ⟨[] ++ Ident.bytes interface, ?_, gives_logInfo ?_ ?_⟩
    · simp only [Response.encodeBody, encodeApps, unlisted, Bool.false_eq_true, ↓reduceIte, reported, bind,
        Except.bind, pure, Except.pure]
    · simp only [List.nil_append, Ident.length_bytes, Nat.le_refl]
    · rw [readReport, if_pos reported]
      exact gives_last (gives_ident plain) fun interface => Response.logInfo status [] interface
  · have listing := (isListing_iff status).mpr ⟨low, high⟩
    have unreported : ¬ Status.isEmptyReport status = true := by
      rw [not_isEmptyReport_of_isListing listing]
      exact Bool.false_ne_true
    obtain ⟨entries, entries_written, entries_read⟩ := gives_fields (f := AppInfo.encode order status)
      fun app present => app_fits (each app present)
    refine ⟨order.encode 2 apps.length ++ entries.flatten ++ Ident.bytes interface, ?_, gives_logInfo ?_ ?_⟩
    · simp only [Response.encodeBody, encodeApps, listing, ↓reduceIte, entryCount_of_le few, entries_written,
        bind, Except.bind, pure, Except.pure]
    · rw [List.length_append, Ident.length_bytes]
      exact Nat.le_add_left _ _
    · rw [readReport, if_neg unreported, if_pos listing, List.append_assoc]
      refine gives_bind (gives_u16 order (Nat.lt_succ_of_le few)) (gives_bind entries_read ?_)
      exact gives_last (gives_ident plain) fun interface => Response.logInfo status apps interface

end Reports

section Requests

def Request.layout : Request → RequestLayout
  | .setLogLevel .. => .setLogLevel
  | .setTraceStatus .. => .setTraceStatus
  | .getLogInfo .. => .getLogInfo
  | .setDefaultLogLevel .. => .setDefaultLogLevel
  | .setDefaultTraceStatus .. => .setDefaultTraceStatus
  | .getTraceStatus _ => .getTraceStatus
  | .enable .. => .enable
  | .query _ => .query
  | .injection .. | .custom .. => .injection

theorem key_lt_firstInjection :
    ∀ entry ∈ Registry.standard.entries, entry.1.id < ServiceId.firstInjection := by
  decide

theorem lookup_injection {id : ServiceId} (high : ServiceId.firstInjection ≤ id) (role : Role) :
    Registry.standard.lookup ⟨id, role⟩ = some (Registry.injection role) := by
  have unregistered : Registry.standard.find? ⟨id, role⟩ = none := by
    rw [Registry.find?, List.lookup_eq_none_iff]
    intro entry present
    have low := key_lt_firstInjection entry present
    refine bne_iff_ne.mpr fun same => ?_
    rw [← same] at low
    exact absurd low (UInt32.not_lt.mpr high)
  have above : ¬ id < ServiceId.firstInjection := UInt32.not_lt.mpr high
  simp only [Registry.lookup, unregistered, if_neg above]

theorem lookup_standardRequests : ∀ entry ∈ Registry.standardRequests,
    Registry.standard.lookup ⟨entry.1, .request⟩ = some ⟨.request entry.2, .request⟩ := by
  decide

theorem lookup_request {request : Request} (fits : RequestFits request) :
    Registry.standard.lookup ⟨request.service, .request⟩ = some ⟨.request request.layout, .request⟩ := by
  have entered : (request.service, request.layout) ∈ Registry.standardRequests →
      Registry.standard.lookup ⟨request.service, .request⟩ = some ⟨.request request.layout, .request⟩ :=
    lookup_standardRequests (request.service, request.layout)
  cases request with
  | enable service enabled => exact entered (List.mem_append_right _ (List.mem_map_of_mem fits))
  | query service =>
    exact entered (List.mem_append_left _ (List.mem_append_right _ (List.mem_map_of_mem fits)))
  | injection service data => exact lookup_injection fits.1 .request
  | custom service data => exact fits.elim
  | _ => exact entered (by simp [Registry.standardRequests, Request.service, Request.layout])

theorem gives_request {request : Request} (fits : RequestFits request) (delimited : Delimited tail (.request request)) :
    GivesBefore (request.layout.read request.service) tail request.encodeBody request := by
  cases request with
  | setLogLevel target level interface =>
    rw [Request.encodeBody, List.append_assoc]
    refine gives_bind (gives_target fits.1) (gives_bind (gives_int8 level) ?_) tail
    exact gives_last (gives_ident fits.2) (Request.setLogLevel target level)
  | setTraceStatus target status interface =>
    rw [Request.encodeBody, List.append_assoc]
    refine gives_bind (gives_target fits.1) (gives_bind (gives_int8 status) ?_) tail
    exact gives_last (gives_ident fits.2) (Request.setTraceStatus target status)
  | getLogInfo options target interface =>
    rw [Request.encodeBody, List.cons_append]
    refine gives_bind (gives_byte options) (gives_bind (gives_target fits.1) ?_) tail
    exact gives_last (gives_ident fits.2) (Request.getLogInfo options target)
  | setDefaultLogLevel level interface =>
    refine gives_bind (gives_int8 level) ?_ tail
    exact gives_last (gives_ident fits) (Request.setDefaultLogLevel level)
  | setDefaultTraceStatus enabled interface =>
    refine gives_bind (gives_flag enabled) ?_ tail
    exact gives_last (gives_ident fits) (Request.setDefaultTraceStatus enabled)
  | getTraceStatus target => exact gives_last (gives_target fits) Request.getTraceStatus tail
  | enable service enabled => exact gives_last (gives_flag enabled) (Request.enable service) tail
  | query service => exact gives_pure (Request.query service) tail
  | injection service data =>
    cases delimited
    exact givesBefore_last (gives_injection fits.2) (Request.injection service)
  | custom service data => exact fits.elim

end Requests

section Responses

variable {service : ServiceId} {status : UInt8} {layout : ResponseLayout}

theorem isFailure_iff (status : UInt8) : Status.isFailure status = true ↔ status = 1 ∨ status = 2 := by
  simp [Status.isFailure, Status.notSupported, Status.error]

theorem not_isFailure (answered : status ≠ 1 ∧ status ≠ 2) : ¬ Status.isFailure status = true := by
  rw [isFailure_iff]
  intro failed
  rcases failed with failed | failed
  · exact answered.1 failed
  · exact answered.2 failed

theorem gives_answer {body : UInt8 → Read Response} {bs : Bytes} {response : Response}
    (answered : status ≠ 1 ∧ status ≠ 2) (read : Gives (body status) bs response) :
    Gives (readAnswer service body) (status :: bs) response := by
  refine gives_bind (gives_byte status) ?_
  rw [if_neg (not_isFailure answered)]
  exact read

theorem gives_failure (own : layout ≠ .injection) (reported : layout = .logInfo → tail.length < 4)
    (failed : Status.isFailure status = true) :
    GivesBefore (layout.read order service) tail [status] (.status service status) := by
  have alone : ∀ body, GivesBefore (readAnswer service body) tail [status] (.status service status) := by
    intro body
    refine gives_bind (gives_byte status) ?_ tail
    rw [if_pos failed]
    exact gives_pure _
  cases layout with
  | status => exact gives_last (gives_byte status) (Response.status service) tail
  | logInfo =>
    have first : GivesBefore byte ([] ++ tail) [status] status := gives_byte status _
    refine givesBefore_bind first ?_
    intro position
    have missing : Bytes.hasAtLeast ([] ++ tail) 4 = false := by
      rw [List.nil_append, Bool.eq_false_iff, ne_eq, Bytes.hasAtLeast_iff, Nat.not_le]
      exact reported rfl
    simp only [bind, StateT.bind, Except.bind, get, getThe, MonadStateOf.get, StateT.get, pure, Except.pure, failed,
      missing, Bool.not_false, Bool.and_self, ↓reduceIte]
    rfl
  | injection => exact absurd rfl own
  | _ => exact alone _

theorem lookup_standardResponses : ∀ entry ∈ Registry.standardResponses,
    Registry.standard.lookup ⟨entry.1, .response⟩ = some ⟨.response entry.2, .response⟩ := by
  decide

theorem layout_ne_injection : ∀ entry ∈ Registry.standardResponses, entry.2 ≠ .injection := by
  decide

theorem service_of_logInfo :
    ∀ entry ∈ Registry.standardResponses, entry.2 = .logInfo → entry.1 = .getLogInfo := by
  decide

theorem entry_of_find {key : ServiceKey} {found : Service} (given : Registry.standard.find? key = some found) :
    (key, found) ∈ Registry.standard.entries := by
  obtain ⟨before, behind, entries, _⟩ := List.lookup_eq_some_iff.mp given
  rw [entries]
  exact List.mem_append_right _ List.mem_cons_self

theorem layout_of_entry {key : ServiceKey} {found : Service}
    (entered : (key, found) ∈ Registry.standard.entries) :
    (∃ layout, (key.id, layout) ∈ Registry.standardRequests ∧ key.role = .request ∧
      found = ⟨.request layout, .request⟩) ∨
    ∃ layout, (key.id, layout) ∈ Registry.standardResponses ∧ key.role = .response ∧
      found = ⟨.response layout, .response⟩ := by
  rcases List.mem_append.mp entered with request | response
  · obtain ⟨⟨id, layout⟩, listed, same⟩ := List.mem_map.mp request
    cases same
    exact .inl ⟨layout, listed, rfl, rfl⟩
  · obtain ⟨⟨id, layout⟩, listed, same⟩ := List.mem_map.mp response
    cases same
    exact .inr ⟨layout, listed, rfl, rfl⟩

theorem layout_of_registered (registered : Registry.standard.isRegistered ⟨service, .response⟩ = true) :
    ∃ layout, (service, layout) ∈ Registry.standardResponses := by
  obtain ⟨found, given⟩ := Option.isSome_iff_exists.mp registered
  rcases layout_of_entry (entry_of_find given) with ⟨_, _, request, _⟩ | ⟨layout, entered, _, _⟩
  · cases request
  · exact ⟨layout, entered⟩

/-- How a response is written, and read back in front of what leaves it delimited. -/
def ResponseTrips (order : ByteOrder) (response : Response) : Prop :=
  ∃ layout body, Registry.standard.lookup ⟨response.service, .response⟩ = some ⟨.response layout, .response⟩ ∧
    response.encodeBody order = .ok body ∧ ∀ tail, Delimited tail (.response response) →
      GivesBefore (layout.read order response.service) tail (response.statusCode :: body) response

theorem trips_of_entry {response : Response} {body : Bytes} (id : ServiceId) (layout : ResponseLayout)
    (own : response.service = id) (entered : (id, layout) ∈ Registry.standardResponses)
    (written : response.encodeBody order = .ok body)
    (read : ∀ tail, Delimited tail (.response response) →
      GivesBefore (layout.read order id) tail (response.statusCode :: body) response) :
    ResponseTrips order response := by
  subst own
  exact ⟨layout, body, lookup_standardResponses (response.service, layout) entered, written, read⟩

theorem status_trips (fits : ResponseFits (.status service status)) :
    ResponseTrips order (.status service status) := by
  rcases fits with acknowledged | ⟨registered, failed⟩
  · have entered : (service, ResponseLayout.status) ∈ Registry.standardResponses :=
      List.mem_append_left _ (List.mem_append_left _ (List.mem_map_of_mem acknowledged))
    exact trips_of_entry service .status rfl entered rfl fun tail _ =>
      gives_last (gives_byte status) (Response.status service) tail
  · obtain ⟨layout, entered⟩ := layout_of_registered registered
    have own := layout_ne_injection (service, layout) entered
    refine trips_of_entry service layout rfl entered rfl fun tail delimited => ?_
    refine gives_failure own (fun reported => ?_) ((isFailure_iff status).mpr failed)
    cases reported
    exact delimited (service_of_logInfo (service, .logInfo) entered rfl)

theorem response_trips (order : ByteOrder) {response : Response} (fits : ResponseFits response) :
    ResponseTrips order response := by
  cases response with
  | status service status => exact status_trips fits
  | logLevel service status level =>
    obtain ⟨rfl, answered⟩ := fits
    refine trips_of_entry .getDefaultLogLevel .logLevel rfl (by decide) rfl fun tail _ =>
      gives_answer answered ?_ tail
    exact gives_last (gives_int8 level) (Response.logLevel _ status)
  | enabled service status value =>
    obtain ⟨switch, answered⟩ := fits
    have entered : (service, ResponseLayout.enabled) ∈ Registry.standardResponses :=
      List.mem_append_left _ (List.mem_append_right _ (List.mem_map_of_mem switch))
    refine trips_of_entry service .enabled rfl entered rfl fun tail _ =>
      gives_answer answered ?_ tail
    exact gives_last (gives_flag value) (Response.enabled service status)
  | logInfo status apps interface =>
    obtain ⟨body, written, read⟩ := report_fits order fits.1 fits.2
    exact trips_of_entry .getLogInfo .logInfo rfl (by decide) written fun tail _ => read tail
  | softwareVersion status version =>
    obtain ⟨plain, answered⟩ := fits
    refine trips_of_entry .getSoftwareVersion .softwareVersion rfl (by decide) rfl fun tail short =>
      gives_answer answered ?_ tail
    have counted : (Latin1.encode version ++ [0]).length < Bytes.capacity 4 := by
      rw [List.length_append, Latin1.length_encode]
      exact short
    exact gives_last (gives_version plain counted) (Response.softwareVersion status)
  | bufferOverflow status counter =>
    refine trips_of_entry .bufferOverflow .bufferOverflow rfl (by decide) rfl fun tail _ =>
      gives_answer fits ?_ tail
    exact gives_last (gives_u32 order counter) (Response.bufferOverflow status)
  | syncTimestamp status seconds nanoseconds =>
    obtain ⟨short, answered⟩ := fits
    refine trips_of_entry .syncTimestamp .syncTimestamp rfl (by decide) rfl fun tail _ =>
      gives_answer answered ?_ tail
    rw [List.append_assoc]
    refine gives_bind (gives_u32 order nanoseconds) ?_
    exact gives_last (gives_seconds short) fun seconds => Response.syncTimestamp status seconds nanoseconds
  | unregisterContext status target interface =>
    obtain ⟨named, plain, answered⟩ := fits
    refine trips_of_entry .unregisterContext .unregisterContext rfl (by decide) rfl fun tail _ =>
      gives_answer answered ?_ tail
    refine gives_bind (gives_target named) ?_
    exact gives_last (gives_ident plain) (Response.unregisterContext status target)
  | connectionInfo status state interface =>
    obtain ⟨plain, answered⟩ := fits
    refine trips_of_entry .connectionInfo .connectionInfo rfl (by decide) rfl fun tail _ =>
      gives_answer answered ?_ tail
    refine gives_bind (gives_byte state) ?_
    exact gives_last (gives_ident plain) (Response.connectionInfo status state)
  | timeZone status offset summer =>
    refine trips_of_entry .timeZone .timeZone rfl (by decide) rfl fun tail _ =>
      gives_answer fits ?_ tail
    have low := offset.le_toInt
    have high := offset.toInt_lt
    have signed : TwosComplement.Fits Width.w32.bytes offset.toInt := by
      simp only [TwosComplement.Fits, Width.bytes, Bytes.capacity]
      omega
    refine gives_bind (gives_signed order .w32 signed) ?_
    rw [Int32.ofInt_toInt]
    exact gives_last (gives_flag summer) (Response.timeZone status offset)
  | injection service status =>
    refine ⟨.injection, [], lookup_injection fits .response, rfl, fun tail _ => ?_⟩
    exact gives_last (gives_byte status) (Response.injection service) tail
  | custom service status data => exact fits.elim

end Responses

section Payloads

variable {registry : Registry} {id : ServiceId} {role : Role} {body : Bytes} {payload : Payload}

theorem readPayload_eq (registry : Registry) (order : ByteOrder) (role : Role) (id : ServiceId) (rest : Bytes)
    (position : Nat) :
    registry.readPayload order role ⟨order.encode 4 id.toNat ++ rest, position⟩ =
      match registry.lookup ⟨id, role⟩ with
      | some service => service.layout.read order id ⟨rest, position + 4⟩
      | none => .error (.noControlDecoder id) := by
  have number := gives_u32 order id rest position
  rw [ByteOrder.length_encode] at number
  simp only [Registry.readPayload, bind, StateT.bind, Except.bind, number]
  cases registry.lookup ⟨id, role⟩ <;> rfl

theorem gives_payload (order : ByteOrder) (layout : Layout) {written : Role}
    (found : registry.lookup ⟨id, role⟩ = some ⟨layout, written⟩)
    (read : GivesBefore (layout.read order id) tail body payload) :
    GivesBefore (registry.readPayload order role) tail (order.encode 4 id.toNat ++ body) payload := by
  intro position
  have rest := read (position + 4)
  rw [List.append_assoc, readPayload_eq, found]
  simp only [rest, List.length_append, ByteOrder.length_encode, Nat.add_assoc]

theorem decode_eq {type : MessageType} (known : Role.ofType? type = some role) (order : ByteOrder) (data : Bytes) :
    registry.decode type order data =
      (registry.readPayload order role ⟨data, 0⟩).map fun (payload, cursor) => (payload, cursor.position) := by
  have timeless : (type == .control .time) = false := by
    rw [beq_eq_false_iff_ne]
    rintro rfl
    cases known
  simp only [Registry.decode, timeless, known, Cursor.ofBytes, Bool.false_eq_true, ↓reduceIte]
  cases registry.readPayload order role ⟨data, 0⟩ <;> rfl

theorem decode_of_gives {type : MessageType} {bs : Bytes} (known : Role.ofType? type = some role)
    (read : GivesBefore (registry.readPayload order role) tail bs payload) :
    registry.decode type order (bs ++ tail) = .ok (payload, bs.length) := by
  have given := read 0
  rw [Nat.zero_add] at given
  rw [decode_eq known, given]
  rfl

theorem encode_request {request : Request} (order : ByteOrder) (fits : RequestFits request) :
    Registry.standard.encode order (.request request) =
      .ok (order.encode 4 request.service.toNat ++ request.encodeBody) := by
  unfold Registry.encode Registry.encodeAs
  simp only [lookup_request fits]
  rfl

theorem encode_response {response : Response} {layout : ResponseLayout}
    (found : Registry.standard.lookup ⟨response.service, .response⟩ = some ⟨.response layout, .response⟩)
    (written : response.encodeBody order = .ok body) :
    Registry.standard.encode order (.response response) =
      .ok (order.encode 4 response.service.toNat ++ response.statusCode :: body) := by
  have whole : response.encode order =
      .ok (order.encode 4 response.service.toNat ++ response.statusCode :: body) := by
    simp only [Response.encode, written, bind, Except.bind, pure, Except.pure]
  rw [← whole]
  unfold Registry.encode Registry.encodeAs
  simp only [found]
  cases response <;> rfl

/-- A payload of the standard is written, and comes back from exactly its bytes where it is delimited. -/
theorem payload_comes_back (order : ByteOrder) (fits : PayloadFits payload) :
    ∃ bs, Registry.standard.encode order payload = .ok bs ∧ ∀ tail, Delimited tail payload →
      Registry.standard.decode payload.type order (bs ++ tail) = .ok (payload, bs.length) := by
  cases payload with
  | timeMarker => exact ⟨[], rfl, fun _ _ => rfl⟩
  | request request =>
    refine ⟨_, encode_request order fits, fun tail delimited => ?_⟩
    have read := gives_payload order (.request request.layout) (lookup_request fits)
      (givesBefore_map (gives_request fits delimited) Payload.request)
    exact decode_of_gives rfl read
  | response response =>
    obtain ⟨layout, body, found, written, read⟩ := response_trips order fits
    refine ⟨_, encode_response found written, fun tail delimited => ?_⟩
    have given := gives_payload order (.response layout) found
      (givesBefore_map (read tail delimited) Payload.response)
    exact decode_of_gives rfl given

theorem encode_version (order : ByteOrder) (status : UInt8) (version : String) :
    Registry.standard.encode order (.response (.softwareVersion status version)) =
      .ok (order.encode 4 ServiceId.getSoftwareVersion.toNat ++ status ::
        (order.encode 4 (Latin1.encode version ++ [0]).length ++ (Latin1.encode version ++ [0]))) :=
  encode_response (lookup_standardResponses (.getSoftwareVersion, .softwareVersion) (by decide)) rfl

theorem delimited_of_short {bs : Bytes} (written : Registry.standard.encode order payload = .ok bs)
    (short : bs.length < Bytes.capacity 4) : Delimited [] payload := by
  cases payload with
  | timeMarker => exact trivial
  | request request => cases request <;> first | rfl | exact trivial
  | response response =>
    cases response with
    | status service status => exact fun _ => Nat.zero_lt_succ 3
    | softwareVersion status version =>
      rw [encode_version] at written
      cases written
      simp only [List.length_append, List.length_cons, Latin1.length_encode] at short
      exact Nat.lt_of_le_of_lt (by simp only [List.length_nil]; omega) short
    | _ => exact trivial

theorem payload_roundTrips (order : ByteOrder) (fits : PayloadFits payload) :
    ∃ bs, Registry.standard.encode order payload = .ok bs ∧
      (bs.length < Bytes.capacity 4 →
        Registry.standard.decode payload.type order bs = .ok (payload, bs.length)) := by
  obtain ⟨bs, written, read⟩ := payload_comes_back order fits
  refine ⟨bs, written, fun short => ?_⟩
  have alone := read [] (delimited_of_short written short)
  rw [List.append_nil] at alone
  exact alone

end Payloads

end DiagTrace.Control
