import DiagTrace.Proofs.Control.RoundTrip

/-!
Bytes behind a control payload. Most payloads are found again in front of any tail; the others say where they
end only by what is missing behind them, and a version of four gigabytes does not say it at all.
-/
namespace DiagTrace.Control

open Read Layout
open Verbose (TextFits withoutTerminator)

variable {order : ByteOrder} {tail : Bytes} {registry : Registry} {role : Role} {payload : Payload}

theorem injection_refused (service : ServiceId) {data : Bytes} (short : data.length < Bytes.capacity 4)
    (more : tail ≠ []) (position : Nat) :
    readInjection service ⟨ByteOrder.little.encode 4 data.length ++ data ++ tail, position⟩ =
      .error (.injectionLength service data.length (data ++ tail).length) := by
  have length := gives_nat .little short (data ++ tail) position
  rw [← List.append_assoc] at length
  have longer : (data.length != (⟨data ++ tail, position + 4⟩ : Cursor).remaining) = true := by
    have some_more := List.length_pos_iff.mpr more
    rw [bne_iff_ne, Cursor.remaining, List.length_append]
    omega
  rw [ByteOrder.length_encode] at length
  simp only [readInjection, bind, StateT.bind, Except.bind, length, get, getThe, MonadStateOf.get, StateT.get, pure,
    Except.pure, longer, ↓reduceIte]
  rfl

theorem gives_failed_report (order : ByteOrder) {status : UInt8} {interface : Bytes}
    (failed : Status.isFailure status = true) (whole : interface.length = 4) :
    Gives (readLogInfo order .getLogInfo) (status :: interface)
      (.logInfo status [] (String.ofList (Ident.charsOf interface))) := by
  have reported : Status.isEmptyReport status = true := by
    simp only [Status.isEmptyReport, failed, Bool.or_true, Bool.true_or]
  refine gives_logInfo (Nat.le_of_eq whole.symm) ?_
  rw [readReport, if_pos reported]
  refine gives_last (gives_last (gives_take whole) fun wire => String.ofList (Ident.charsOf wire)) fun interface =>
    Response.logInfo status [] interface

theorem gives_cut_version (order : ByteOrder) (data : Bytes) :
    ∃ read, Gives (readVersion order)
      (order.encode 4 data.length ++ data.take (data.length % Bytes.capacity 4)) read := by
  have cut : (data.take (data.length % Bytes.capacity 4)).length = data.length % Bytes.capacity 4 := by
    rw [List.length_take, Nat.min_eq_left (Nat.mod_le _ _)]
  exact ⟨_, gives_bind (gives_low order 4 data.length)
    (gives_last (gives_take cut) fun data => Latin1.decode (withoutTerminator data))⟩

theorem length_of_same {type : MessageType} {bs own rest : Bytes} {read : Payload}
    (known : Role.ofType? type = some role) (given : GivesBefore (registry.readPayload order role) rest own read)
    (parts : bs ++ tail = own ++ rest)
    (same : registry.decode type order (bs ++ tail) = .ok (payload, bs.length)) : own.length = bs.length := by
  rw [parts, decode_of_gives known given] at same
  exact congrArg Prod.snd (Except.ok.inj same)

theorem injection_delimited {service : ServiceId} {data : Bytes} {used : Nat}
    (fits : RequestFits (.injection service data))
    (same : Registry.standard.decode (.control .request) order
      (order.encode 4 service.toNat ++ (ByteOrder.little.encode 4 data.length ++ data) ++ tail) = .ok (payload, used)) :
    tail = [] := by
  refine Decidable.byContradiction fun more => ?_
  have refused := injection_refused service fits.2 more (0 + 4)
  rw [decode_eq rfl, List.append_assoc, readPayload_eq, lookup_injection fits.1] at same
  simp only [Registry.injection, Layout.read, RequestLayout.read, Functor.map, StateT.map, bind, StateT.bind,
    Except.bind, refused] at same
  cases same

theorem status_delimited {status : UInt8} (failed : Status.isFailure status = true)
    (same : Registry.standard.decode (.control .response) order
      (order.encode 4 ServiceId.getLogInfo.toNat ++ [status] ++ tail) =
        .ok (payload, (order.encode 4 ServiceId.getLogInfo.toNat ++ [status]).length)) : tail.length < 4 := by
  refine Nat.lt_of_not_le fun long => ?_
  have whole : (tail.take 4).length = 4 := by
    rw [List.length_take, Nat.min_eq_left long]
  have found : Registry.standard.lookup ⟨.getLogInfo, .response⟩ = some ⟨.response .logInfo, .response⟩ :=
    lookup_standardResponses (.getLogInfo, .logInfo) (by decide)
  have given := gives_payload order (.response .logInfo) found
    (givesBefore_map (gives_failed_report order failed whole (tail.drop 4)) Payload.response)
  have used := length_of_same rfl given (by simp) same
  simp only [List.length_append, List.length_cons, List.length_nil, whole] at used
  omega

theorem version_delimited {status : UInt8} {data : Bytes} (answered : status ≠ 1 ∧ status ≠ 2)
    (same : Registry.standard.decode (.control .response) order
      (order.encode 4 ServiceId.getSoftwareVersion.toNat ++ status :: (order.encode 4 data.length ++ data) ++ tail) =
        .ok (payload, (order.encode 4 ServiceId.getSoftwareVersion.toNat ++
          status :: (order.encode 4 data.length ++ data)).length)) : data.length < Bytes.capacity 4 := by
  refine Nat.lt_of_not_le fun long => ?_
  have cut : data.length % Bytes.capacity 4 < data.length :=
    Nat.lt_of_lt_of_le (Nat.mod_lt _ (Bytes.capacity_pos 4)) long
  have found : Registry.standard.lookup ⟨.getSoftwareVersion, .response⟩ =
      some ⟨.response .softwareVersion, .response⟩ :=
    lookup_standardResponses (.getSoftwareVersion, .softwareVersion) (by decide)
  obtain ⟨text, read⟩ := gives_cut_version order data
  have answer : Gives ((ResponseLayout.softwareVersion).read order .getSoftwareVersion) (status :: _) _ :=
    gives_answer answered (gives_last read (Response.softwareVersion status))
  have given := gives_payload order (.response .softwareVersion) found
    (givesBefore_map (answer (data.drop (data.length % Bytes.capacity 4) ++ tail)) Payload.response)
  have parts : data.take (data.length % Bytes.capacity 4) ++ (data.drop (data.length % Bytes.capacity 4) ++ tail) =
      data ++ tail := by
    rw [← List.append_assoc, List.take_append_drop]
  have used := length_of_same rfl given (by simp [parts]) same
  simp only [List.length_append, List.length_cons, ByteOrder.length_encode, List.length_take] at used
  omega

/-- A payload comes back with the number of its bytes only where it is delimited. -/
theorem delimited_of_comes_back {bs : Bytes} (fits : PayloadFits payload)
    (written : Registry.standard.encode order payload = .ok bs)
    (same : Registry.standard.decode payload.type order (bs ++ tail) = .ok (payload, bs.length)) :
    Delimited tail payload := by
  cases payload with
  | timeMarker => exact trivial
  | request request =>
    cases request with
    | injection service data =>
      have request_fits : RequestFits (.injection service data) := fits
      rw [encode_request order request_fits] at written
      cases written
      exact injection_delimited request_fits same
    | _ => exact trivial
  | response response =>
    cases response with
    | status service status =>
      rintro rfl
      have failed : Status.isFailure status = true := by
        rcases fits with acknowledged | ⟨_, failed⟩
        · exact absurd acknowledged (by decide)
        · exact (isFailure_iff status).mpr failed
      have found := lookup_standardResponses (.getLogInfo, .logInfo) (by decide)
      have alone : Registry.standard.encode order (.response (.status .getLogInfo status)) =
          .ok (order.encode 4 ServiceId.getLogInfo.toNat ++ [status]) := encode_response found rfl
      rw [alone] at written
      cases written
      exact status_delimited failed same
    | softwareVersion status version =>
      rw [encode_version] at written
      cases written
      have short := version_delimited fits.2 same
      rw [List.length_append, Latin1.length_encode] at short
      exact short
    | _ => exact trivial

/-- A payload of the standard is written in either byte order. From its bytes and any tail behind them it comes
back, as long as the bytes, exactly if it is delimited. -/
theorem payloads_come_back_padded (order : ByteOrder) (fits : PayloadFits payload) :
    ∃ bs, Registry.standard.encode order payload = .ok bs ∧ ∀ tail,
      (Registry.standard.decode payload.type order (bs ++ tail) = .ok (payload, bs.length) ↔
        Delimited tail payload) := by
  obtain ⟨bs, written, read⟩ := payload_comes_back order fits
  exact ⟨bs, written, fun tail => ⟨delimited_of_comes_back fits written, read tail⟩⟩

def versionOf (letters : Nat) : Payload :=
  .response (.softwareVersion 0 (String.ofList (List.replicate letters 'a')))

theorem versionOf_fits (letters : Nat) : PayloadFits (versionOf letters) := by
  refine ⟨fun letter there => ?_, by decide, by decide⟩
  rw [String.toList_ofList] at there
  rw [List.eq_of_mem_replicate there]
  decide

theorem versionOf_delimited_iff (letters : Nat) :
    Delimited tail (versionOf letters) ↔ letters + 1 < Bytes.capacity 4 := by
  rw [versionOf, Delimited, String.toList_ofList, List.length_replicate]

/-- A payload that fits is written, but does not come back in front of a tail. -/
def Lost (order : ByteOrder) (tail : Bytes) (payload : Payload) : Prop :=
  PayloadFits payload ∧ ∃ bs, Registry.standard.encode order payload = .ok bs ∧
    Registry.standard.decode payload.type order (bs ++ tail) ≠ .ok (payload, bs.length)

theorem lost_of_not_delimited (order : ByteOrder) (fits : PayloadFits payload) (open_end : ¬ Delimited tail payload) :
    Lost order tail payload := by
  obtain ⟨bs, written, _⟩ := payload_comes_back order fits
  exact ⟨fits, bs, written, fun same => open_end (delimited_of_comes_back fits written same)⟩

theorem longest_version_lost (order : ByteOrder) : Lost order [] (versionOf 4294967295) := by
  apply lost_of_not_delimited order (versionOf_fits _)
  rw [versionOf_delimited_iff]
  decide

/-- With its closing zero, the length of a version of 2³² - 1 letters is cut to nothing, and so the version does not
come back. Of a request with injected data and of a failed report it depends on the padding behind them. -/
theorem undelimited_payloads_are_lost :
    Lost .little [] (versionOf 4294967295) ∧
    Lost .little [0, 0] (.request (.injection 0x1000 [0x41, 0x42])) ∧
    Lost .little [0, 0, 0, 0] (.response (.status .getLogInfo 1)) := by
  refine ⟨longest_version_lost .little, ?_, ?_⟩
  · have fits : PayloadFits (.request (.injection 0x1000 [0x41, 0x42])) := ⟨by decide, by decide⟩
    exact lost_of_not_delimited .little fits fun padded => nomatch padded
  · have fits : PayloadFits (.response (.status .getLogInfo 1)) := .inr ⟨rfl, .inl rfl⟩
    exact lost_of_not_delimited .little fits fun padded => absurd (padded rfl) (by decide)

def fullReport : Payload :=
  .response (.logInfo 7 [⟨"APP", [⟨"CTX", some 4, some (-1), some "context"⟩], some "application"⟩] "remo")

theorem fullReport_fits : PayloadFits fullReport := by
  have short : TextFits "context" ∧ TextFits "application" := by
    unfold TextFits
    decide
  have context : ContextFits 7 ⟨"CTX", some 4, some (-1), some "context"⟩ := by
    refine ⟨by decide, rfl, rfl, rfl, fun text there => ?_⟩
    cases there
    exact short.1
  refine ⟨.inr ⟨by decide, by decide, by decide, fun app there => ?_⟩, by decide⟩
  cases List.mem_singleton.mp there
  refine ⟨by decide, by decide, fun found there => ?_, rfl, fun text there => ?_⟩
  · cases List.mem_singleton.mp there
    exact context
  · cases there
    exact short.2

theorem fullReport_comes_back_padded :
    PayloadFits fullReport ∧ ∃ bs, Registry.standard.encode .big fullReport = .ok bs ∧ ∀ tail,
      (Registry.standard.decode fullReport.type .big (bs ++ tail) = .ok (fullReport, bs.length) ↔
        Delimited tail fullReport) :=
  ⟨fullReport_fits, payloads_come_back_padded .big fullReport_fits⟩

end DiagTrace.Control
