import DiagTrace.Proofs.Bytes.Delimiting
import DiagTrace.Proofs.Control.Padding
import DiagTrace.Proofs.Control.Reading

/-!
Control payloads written again after they were read, from whatever bytes, with the services of the standard. A payload
names the service whose number it was read behind, so it is written for this service and comes back from its new bytes.
-/
namespace DiagTrace.Control

open Read Layout
open Verbose (withoutTerminator)

variable {order : ByteOrder} {service : ServiceId} {status : UInt8}

section Own

def RequestLayout.owner? : RequestLayout → Option ServiceId
  | .setLogLevel => some .setLogLevel
  | .setTraceStatus => some .setTraceStatus
  | .getLogInfo => some .getLogInfo
  | .setDefaultLogLevel => some .setDefaultLogLevel
  | .setDefaultTraceStatus => some .setDefaultTraceStatus
  | .getTraceStatus => some .getTraceStatus
  | .query | .enable | .injection => none

def ResponseLayout.owner? : ResponseLayout → Option ServiceId
  | .logInfo => some .getLogInfo
  | .softwareVersion => some .getSoftwareVersion
  | .bufferOverflow => some .bufferOverflow
  | .syncTimestamp => some .syncTimestamp
  | .unregisterContext => some .unregisterContext
  | .connectionInfo => some .connectionInfo
  | .timeZone => some .timeZone
  | .status | .logLevel | .enabled | .injection => none

theorem owner_of_request : ∀ entry ∈ Registry.standardRequests, entry.2.owner?.getD entry.1 = entry.1 := by
  decide

theorem owner_of_response : ∀ entry ∈ Registry.standardResponses, entry.2.owner?.getD entry.1 = entry.1 := by
  decide

def Response.Counted : Response → Prop
  | .logInfo _ apps _ => apps.length ≤ 65535 ∧ ∀ app ∈ apps, app.contexts.length ≤ 65535
  | .softwareVersion _ version => version.toList.length < Bytes.capacity 4
  | _ => True

def Payload.Counted : Payload → Prop
  | .response answer => answer.Counted
  | _ => True

def AnswerOf (service : ServiceId) (response : Response) : Prop := response.service = service ∧ response.Counted

theorem yields_owned_request {layout : RequestLayout} (own : layout.owner?.getD service = service) :
    Yields (layout.read service) fun request => request.service = service := by
  cases layout with
  | setLogLevel | setTraceStatus | getLogInfo =>
    exact yields_bind (yields_any _) fun _ _ => yields_bind (yields_any _) fun _ _ =>
      yields_last (yields_any _) fun _ _ => own
  | setDefaultLogLevel | setDefaultTraceStatus =>
    exact yields_bind (yields_any _) fun _ _ => yields_last (yields_any _) fun _ _ => own
  | getTraceStatus => exact yields_last (yields_any _) fun _ _ => own
  | query => exact yields_pure rfl
  | enable | injection => exact yields_last (yields_any _) fun _ _ => rfl

theorem yields_answered {body : UInt8 → Read Response} (yields : ∀ status, Yields (body status) (AnswerOf service)) :
    Yields (readAnswer service body) (AnswerOf service) := by
  refine yields_bind (yields_any _) fun status _ => ?_
  split
  · exact yields_pure ⟨rfl, trivial⟩
  · exact yields status

theorem yields_counted_app (order : ByteOrder) (status : UInt8) :
    Yields (readApp order status) fun app => app.contexts.length ≤ 65535 := by
  refine yields_bind (yields_any _) fun id _ => yields_bind (yields_u16 order) fun count few => ?_
  refine yields_bind (yields_times (yields_any _) count) fun contexts listed => ?_
  have all : contexts.length ≤ 65535 := listed.1 ▸ few
  exact yields_last (yields_any _) fun _ _ => all

theorem yields_owned_report (own : ServiceId.getLogInfo = service) :
    Yields (readLogInfo order service) (AnswerOf service) := by
  refine yields_bind (yields_any _) fun status _ => yields_bind (yields_any _) fun cursor _ => ?_
  -- A bare failure keeps the number it was read behind; a report is of its one service.
  split
  · exact yields_pure ⟨rfl, trivial⟩
  · split
    · exact yields_last (yields_any _) fun _ _ => ⟨own, Nat.zero_le _, fun app there => nomatch there⟩
    · split
      · refine yields_bind (yields_u16 order) fun count few => ?_
        refine yields_bind (yields_times (yields_counted_app order status) count) fun apps listed => ?_
        obtain ⟨rfl, each⟩ := listed
        exact yields_last (yields_any _) fun _ _ => ⟨own, few, each⟩
      · exact yields_throw _

theorem length_version_le (data : Bytes) :
    (Latin1.decode (withoutTerminator data)).toList.length ≤ data.length := by
  rw [Latin1.decode, String.toList_ofList, List.length_map, withoutTerminator]
  split
  · rw [List.length_dropLast]
    exact Nat.sub_le _ _
  · exact Nat.le_refl _

theorem yields_counted_version (order : ByteOrder) :
    Yields (readVersion order) fun version => version.toList.length < Bytes.capacity 4 := by
  refine yields_bind (yields_nat order 4) fun length short => yields_last (yields_take length) fun data whole => ?_
  rw [← whole] at short
  exact Nat.lt_of_le_of_lt (length_version_le data) short

theorem yields_owned_response {layout : ResponseLayout} (own : layout.owner?.getD service = service) :
    Yields (layout.read order service) (AnswerOf service) := by
  cases layout with
  | status | injection => exact yields_last (yields_any _) fun _ _ => ⟨rfl, trivial⟩
  | logLevel | enabled =>
    exact yields_answered fun status => yields_last (yields_any _) fun _ _ => ⟨rfl, trivial⟩
  | logInfo => exact yields_owned_report own
  | softwareVersion =>
    exact yields_answered fun status => yields_last (yields_counted_version order) fun _ short => ⟨own, short⟩
  | bufferOverflow =>
    exact yields_answered fun status => yields_last (yields_any _) fun _ _ => ⟨own, trivial⟩
  | syncTimestamp | unregisterContext | connectionInfo | timeZone =>
    exact yields_answered fun status => yields_bind (yields_any _) fun _ _ =>
      yields_last (yields_any _) fun _ _ => ⟨own, trivial⟩

/-- Whatever is read behind the number of a service names this service. -/
theorem yields_owned {key : ServiceKey} {found : Service} (order : ByteOrder)
    (looked : Registry.standard.lookup key = some found) :
    Yields (found.layout.read order key.id) fun payload => payload.service? = some key.id ∧ payload.Counted := by
  obtain ⟨id, role⟩ := key
  have request : ∀ {layout : RequestLayout}, layout.owner?.getD id = id →
      Yields (Layout.read order id (.request layout)) fun payload =>
        payload.service? = some id ∧ payload.Counted := by
    intro layout own
    exact yields_map (yields_owned_request own) fun request same => ⟨congrArg some same, trivial⟩
  have response : ∀ {layout : ResponseLayout}, layout.owner?.getD id = id →
      Yields (Layout.read order id (.response layout)) fun payload =>
        payload.service? = some id ∧ payload.Counted := by
    intro layout own
    exact yields_map (yields_owned_response own) fun response answer => ⟨congrArg some answer.1, answer.2⟩
  unfold Registry.lookup at looked
  split at looked
  · rename_i entry given
    cases looked
    rcases layout_of_entry (entry_of_find given) with ⟨layout, listed, rfl, rfl⟩ | ⟨layout, listed, rfl, rfl⟩
    · exact request (owner_of_request _ listed)
    · exact response (owner_of_response _ listed)
  · split at looked
    · cases looked
    · cases looked
      cases role with
      | request => exact request rfl
      | response => exact response rfl

end Own

section Faults

variable {fault : Fault}

theorem fault_of_description {description : Option String} {present : Bool}
    (failed : encodeIf present (encodeDescription order description) = .error fault) : fault = .descriptionTooLong := by
  cases present with
  | false => cases failed
  | true =>
    simp only [encodeIf, encodeDescription, ↓reduceIte] at failed
    split at failed
    · cases failed
    · cases failed
      rfl

theorem fault_of_context {context : ContextInfo} (failed : context.encode order status = .error fault) :
    fault = .descriptionTooLong := by
  rcases error_of_bind failed with described | ⟨_, _, done⟩
  · exact fault_of_description described
  · cases done

theorem not_failed_entryCount {count : Nat} (few : count ≤ 65535) : entryCount order count ≠ .error fault := by
  rw [entryCount_of_le few]
  intro failed
  cases failed

theorem fault_of_app {app : AppInfo} (few : app.contexts.length ≤ 65535)
    (failed : app.encode order status = .error fault) : fault = .descriptionTooLong := by
  rcases error_of_bind failed with count | ⟨_, _, failed⟩
  · exact absurd count (not_failed_entryCount few)
  rcases error_of_bind failed with listed | ⟨_, _, failed⟩
  · obtain ⟨context, _, wrong⟩ := error_of_mapM listed
    exact fault_of_context wrong
  rcases error_of_bind failed with described | ⟨_, _, done⟩
  · exact fault_of_description described
  · cases done

theorem fault_of_apps {apps : List AppInfo} (listing : Status.isListing status = true) (few : apps.length ≤ 65535)
    (each : ∀ app ∈ apps, app.contexts.length ≤ 65535) (failed : encodeApps order status apps = .error fault) :
    fault = .descriptionTooLong := by
  rw [encodeApps, if_pos listing] at failed
  rcases error_of_bind failed with count | ⟨_, _, failed⟩
  · exact absurd count (not_failed_entryCount few)
  rcases error_of_bind failed with listed | ⟨_, _, done⟩
  · obtain ⟨app, present, wrong⟩ := error_of_mapM listed
    exact fault_of_app (each app present) wrong
  · cases done

theorem overlong_fault {payload : Payload} (order : ByteOrder) (long : payload.Overlong) (counted : payload.Counted) :
    Registry.standard.encode order payload = .error .descriptionTooLong := by
  cases written : Registry.standard.encode order payload with
  | ok bs => exact absurd written (overlong_refused order long bs)
  | error fault =>
    cases payload with
    | timeMarker => exact long.elim
    | request request => exact long.elim
    | response response =>
      cases response with
      | logInfo status apps interface =>
        have listing : Status.isListing status = true := by
          rw [beq_iff_eq.mp long.1]
          rfl
        rw [encode_report] at written
        rcases error_of_bind written with body | ⟨_, _, done⟩
        · rcases error_of_bind body with listed | ⟨_, _, done⟩
          · rw [fault_of_apps listing counted.1 counted.2 listed]
          · cases done
        · cases done
      | _ => exact long.elim

end Faults

section Versions

/-- A version that was read whole, whose length is cut to zero once the closing zero is counted too. -/
def Payload.Uncounted : Payload → Prop
  | .response (.softwareVersion _ version) => version.toList.length + 1 = Bytes.capacity 4
  | _ => False

theorem delimited_iff {payload : Payload} (counted : payload.Counted) : Delimited [] payload ↔ ¬ payload.Uncounted := by
  cases payload with
  | timeMarker => exact ⟨fun _ => id, fun _ => trivial⟩
  | request request =>
    cases request with
    | injection service data => exact ⟨fun _ => id, fun _ => rfl⟩
    | _ => exact ⟨fun _ => id, fun _ => trivial⟩
  | response response =>
    cases response with
    | status service status => exact ⟨fun _ => id, fun _ _ => Nat.zero_lt_succ 3⟩
    | softwareVersion status version =>
      have short : version.toList.length < Bytes.capacity 4 := counted
      simp only [Delimited, Payload.Uncounted]
      omega
    | _ => exact ⟨fun _ => id, fun _ => trivial⟩

def Response.versionLength : Response → Nat
  | .softwareVersion _ version => version.toList.length
  | _ => 0

theorem delimits_version (order : ByteOrder) :
    SelfDelimiting (readVersion order) fun version => version.toList.length := by
  refine delimits_bind (delimits_free (delimits_nat order 4)) fun length => ?_
  exact delimits_last (delimits_data length) length_version_le

theorem delimits_versionAnswer (order : ByteOrder) (service : ServiceId) :
    SelfDelimiting (ResponseLayout.softwareVersion.read order service) Response.versionLength := by
  refine delimits_bind (delimits_free delimits_byte) fun status => ?_
  split
  · exact delimits_pure rfl
  · exact delimits_last (delimits_version order) fun version => Nat.le_refl _

end Versions

section Payloads

variable {role : Role} {data : Bytes} {payload : Payload} {used : Nat}

theorem parts_of_decode {registry : Registry} (read : registry.decode role.type order data = .ok (payload, used)) :
    ∃ found last, 4 ≤ data.length ∧
      registry.lookup ⟨UInt32.ofNat (order.decode (data.take 4)), role⟩ = some found ∧
      found.layout.read order (UInt32.ofNat (order.decode (data.take 4))) ⟨data.drop 4, 4⟩ = .ok (payload, last) := by
  have known : Role.ofType? role.type = some role := by cases role <;> rfl
  rw [decode_eq known] at read
  obtain ⟨⟨payload, last⟩, whole, same⟩ := ok_of_map read
  cases same
  obtain ⟨⟨id, middle⟩, number, rest⟩ := of_bind whole
  obtain ⟨enough, rfl, rfl⟩ := u32_front number
  simp only at rest
  cases looked : registry.lookup ⟨UInt32.ofNat (order.decode (data.take 4)), role⟩ with
  | none =>
    rw [looked] at rest
    cases rest
  | some found =>
    rw [looked] at rest
    exact ⟨found, last, enough, rfl, rest⟩

theorem length_of_uncounted (read : Registry.standard.decode role.type order data = .ok (payload, used))
    (own : payload.service? = some (UInt32.ofNat (order.decode (data.take 4)))) (type : payload.type = role.type)
    (uncounted : payload.Uncounted) : Bytes.capacity 4 < data.length := by
  obtain ⟨found, last, enough, looked, rest⟩ := parts_of_decode read
  cases payload with
  | timeMarker => exact uncounted.elim
  | request request => exact uncounted.elim
  | response response =>
    cases response with
    | softwareVersion status version =>
      cases role with
      | request => cases type
      | response =>
        rw [← Option.some.inj own] at looked rest
        have entered := lookup_standardResponses (.getSoftwareVersion, .softwareVersion) (by decide)
        cases looked.symm.trans entered
        obtain ⟨⟨answer, last⟩, answered, done⟩ := of_bind rest
        cases done
        -- The version was read from bytes of its own, behind the four of the number.
        obtain ⟨front, split, paid, _⟩ := delimits_versionAnswer order _ _ _ _ answered
        have lengths := congrArg List.length split
        rw [List.length_drop, List.length_append] at lengths
        simp only [Response.versionLength] at paid
        have counted : version.toList.length + 1 = Bytes.capacity 4 := uncounted
        omega
    | _ => exact uncounted.elim

/-- A control message that is read with the services of the standard is of its role and names the service of its first
four bytes. Written again in the same byte order, it comes back as it is from exactly the bytes that are written. There
are two exceptions: a report is refused if one of its descriptions has grown too long for its length, and of a version
of more than four gigabytes the length is cut to zero. -/
theorem decoded_payloads_come_back (read : Registry.standard.decode role.type order data = .ok (payload, used)) :
    payload.type = role.type ∧ 4 ≤ data.length ∧
    payload.service? = some (UInt32.ofNat (order.decode (data.take 4))) ∧
    ((payload.Overlong ∧ Registry.standard.encode order payload = .error .descriptionTooLong) ∨
      ∃ bs, Registry.standard.encode order payload = .ok bs ∧
        (Registry.standard.decode role.type order bs = .ok (payload, bs.length) ↔ ¬ payload.Uncounted)) ∧
    (payload.Uncounted → Bytes.capacity 4 < data.length) := by
  obtain ⟨found, last, enough, looked, rest⟩ := parts_of_decode read
  obtain ⟨own, counted⟩ := yields_owned order looked _ _ _ rest
  obtain ⟨type, shape⟩ := decode_read read
  refine ⟨type, enough, own, ?_, length_of_uncounted read own type⟩
  rcases shape with fits | long
  · obtain ⟨bs, written, back⟩ := payload_comes_back order fits
    refine .inr ⟨bs, written, ?_⟩
    have alone := back []
    have delimited := @delimited_of_comes_back order [] payload bs fits written
    rw [List.append_nil, type] at alone delimited
    rw [← delimited_iff counted]
    exact ⟨delimited, alone⟩
  · exact .inl ⟨long, overlong_fault order long counted⟩

def lettersAnswer (letters : Nat) : Bytes :=
  ByteOrder.little.encode 4 ServiceId.getSoftwareVersion.toNat ++
    0 :: (ByteOrder.little.encode 4 letters ++ List.replicate letters 0x61)

theorem length_lettersAnswer (letters : Nat) : (lettersAnswer letters).length = letters + 9 := by
  simp only [lettersAnswer, List.length_append, List.length_cons, ByteOrder.length_encode, List.length_replicate]
  omega

theorem withoutTerminator_letters (letters : Nat) :
    withoutTerminator (List.replicate letters 0x61) = List.replicate letters 0x61 := by
  have open_end : (List.replicate letters (0x61 : UInt8)).getLast? ≠ some 0 := by
    intro last
    have there := List.mem_of_getLast? last
    cases List.eq_of_mem_replicate there
  rw [withoutTerminator, if_neg]
  simpa only [beq_iff_eq] using open_end

theorem decode_lettersAnswer {letters : Nat} (few : letters < Bytes.capacity 4) :
    Registry.standard.decode Role.response.type .little (lettersAnswer letters) =
      .ok (versionOf letters, letters + 9) := by
  have text : Latin1.decode (withoutTerminator (List.replicate letters 0x61)) =
      String.ofList (List.replicate letters 'a') := by
    rw [withoutTerminator_letters, Latin1.decode, List.map_replicate]
    rfl
  have version : Gives (readVersion .little) (ByteOrder.little.encode 4 letters ++ List.replicate letters 0x61)
      (String.ofList (List.replicate letters 'a')) := by
    have taken := gives_last (gives_take (List.length_replicate (n := letters) (a := (0x61 : UInt8))))
      fun data => Latin1.decode (withoutTerminator data)
    rw [text] at taken
    exact gives_bind (gives_nat .little few) taken
  have answer : Gives (ResponseLayout.softwareVersion.read .little .getSoftwareVersion) (0 :: _) _ :=
    gives_answer (by decide) (gives_last version (Response.softwareVersion 0))
  have found : Registry.standard.lookup ⟨.getSoftwareVersion, .response⟩ =
      some ⟨.response .softwareVersion, .response⟩ :=
    lookup_standardResponses (.getSoftwareVersion, .softwareVersion) (by decide)
  have given := gives_payload .little (.response .softwareVersion) found
    (givesBefore_map (answer []) Payload.response)
  have decoded := decode_of_gives (rfl : Role.ofType? Role.response.type = some .response) given
  rw [List.append_nil] at decoded
  rw [← length_lettersAnswer]
  exact decoded

/-- The longest version that can be read is not read again from what is written for it. -/
theorem longest_version_read_does_not_come_back :
    Registry.standard.decode Role.response.type .little (lettersAnswer 4294967295) =
      .ok (versionOf 4294967295, 4294967304) ∧
    ∃ bs, Registry.standard.encode .little (versionOf 4294967295) = .ok bs ∧
      Registry.standard.decode Role.response.type .little bs ≠ .ok (versionOf 4294967295, bs.length) := by
  obtain ⟨_, bs, written, lost⟩ := longest_version_lost .little
  rw [List.append_nil] at lost
  exact ⟨decode_lettersAnswer (by decide), bs, written, lost⟩

theorem failed_report_comes_back :
    Registry.standard.decode Role.response.type .little [3, 0, 0, 0, 1, 0x72, 0x65, 0x6D] =
      .ok (.response (.status .getLogInfo 1), 5) ∧
    ∃ bs, Registry.standard.encode .little (.response (.status .getLogInfo 1)) = .ok bs ∧
      Registry.standard.decode Role.response.type .little bs = .ok (.response (.status .getLogInfo 1), bs.length) := by
  have read : Registry.standard.decode Role.response.type .little [3, 0, 0, 0, 1, 0x72, 0x65, 0x6D] =
      .ok (.response (.status .getLogInfo 1), 5) := rfl
  obtain ⟨_, _, _, outcome, _⟩ := decoded_payloads_come_back read
  refine ⟨read, ?_⟩
  rcases outcome with ⟨long, _⟩ | ⟨bs, written, same⟩
  · exact long.elim
  · exact ⟨bs, written, same.mpr id⟩

end Payloads

end DiagTrace.Control
