import DiagTrace.Proofs.Control.RoundTrip
import Mathlib.Data.List.Induction

/-!
Registries after any sequence of changes. A change is about one service; what the registry does with this service
follows from the last change that was about it, and no other service notices.
-/
namespace DiagTrace.Control

inductive Change where
  | register (id : ServiceId) (type : MessageType) (service : Service)
  | unregister (key : ServiceKey)

def Change.key? : Change → Option ServiceKey
  | .register id type _ => (Role.ofType? type).map (⟨id, ·⟩)
  | .unregister key => some key

def Change.put : Change → Option Service
  | .register _ _ service => some service
  | .unregister _ => none

def Payload.key? : Payload → Option ServiceKey
  | .request body => some ⟨body.service, .request⟩
  | .response body => some ⟨body.service, .response⟩
  | .timeMarker => none

def keyOf? (type : MessageType) (order : ByteOrder) (data : Bytes) : Option ServiceKey :=
  match Role.ofType? type, Read.u32 order (Cursor.ofBytes data) with
  | some role, .ok (id, _) => some ⟨id, role⟩
  | _, _ => none

namespace Registry

variable {registry other : Registry} {key : ServiceKey}

def change (registry : Registry) : Change → Registry
  | .register id type service =>
    match registry.register id type service with
    | .ok changed => changed
    | .error _ => registry
  | .unregister key => (registry.unregister key).2

def after (changes : List Change) : Registry := changes.foldl change standard

/-- What the last change about a service put in its place. -/
def lastPut (changes : List Change) (key : ServiceKey) : Option Service :=
  match (changes.filter fun change => change.key? == some key).getLast? with
  | some change => change.put
  | none => standard.find? key

section Entries

theorem find?_erase (registry : Registry) (key wanted : ServiceKey) :
    (registry.erase key).find? wanted = if wanted = key then none else registry.find? wanted := by
  simp only [find?, erase]
  induction registry.entries with
  | nil => simp
  | cons entry entries ih =>
    obtain ⟨held, service⟩ := entry
    simp only [List.filter_cons]
    by_cases same : wanted = held
    · subst same
      cases erased : wanted != key with
      | false =>
        have own := bne_eq_false_iff_eq.mp erased
        simp only [Bool.false_eq_true, ↓reduceIte, ih, if_pos own]
      | true =>
        have apart := bne_iff_ne.mp erased
        simp only [↓reduceIte, List.lookup_cons_self, if_neg apart]
    · have other : (wanted == held) = false := beq_false_of_ne same
      cases held != key <;> simp only [Bool.false_eq_true, ↓reduceIte, List.lookup_cons, other, ih]

theorem find?_insert (registry : Registry) (key wanted : ServiceKey) (service : Service) :
    (registry.insert key service).find? wanted =
      if wanted = key then some service else registry.find? wanted := by
  have rest := find?_erase registry key wanted
  simp only [find?, insert] at rest ⊢
  rw [List.lookup_cons]
  by_cases same : wanted = key
  · rw [if_pos same, beq_iff_eq.mpr same]
  · rw [if_neg same, beq_false_of_ne same]
    rw [if_neg same] at rest
    exact rest

theorem find?_change (registry : Registry) (change : Change) (wanted : ServiceKey) :
    (registry.change change).find? wanted =
      if change.key? = some wanted then change.put else registry.find? wanted := by
  cases change with
  | register id type service =>
    cases role : Role.ofType? type with
    | none => simp [Registry.change, register, Change.key?, role]
    | some role =>
      simp only [Registry.change, register, Change.key?, Change.put, role, find?_insert, Option.map_some,
        Option.some.injEq, eq_comm]
  | unregister key =>
    simp only [Registry.change, unregister, Change.key?, Change.put, find?_erase, Option.some.injEq, eq_comm]

/-- A registry has for each service what the last change about it put there. -/
theorem find?_after (changes : List Change) (key : ServiceKey) :
    (after changes).find? key = lastPut changes key := by
  induction changes using List.reverseRecOn with
  | nil => rfl
  | append_singleton changes change ih =>
    rw [after, List.foldl_append, List.foldl_cons, List.foldl_nil, find?_change, lastPut, List.filter_append]
    by_cases own : change.key? = some key
    · rw [if_pos own]
      simp [own]
    · rw [if_neg own]
      have apart : (change.key? == some key) = false := beq_false_of_ne own
      simp only [List.filter_cons, apart, Bool.false_eq_true, ↓reduceIte, List.filter_nil, List.append_nil]
      exact ih

end Entries

section Messages

open Read

variable {type : MessageType} {order : ByteOrder} {data : Bytes} {payload : Payload}

theorem find?_of_unregistered (absent : registry.isRegistered key = false) : registry.find? key = none := by
  rw [isRegistered, Option.isSome_eq_false_iff, Option.isNone_iff_eq_none] at absent
  exact absent

/-- What a message is decoded to depends on the entry of its own service alone. -/
theorem decode_congr (same : ∀ key, keyOf? type order data = some key → registry.find? key = other.find? key) :
    registry.decode type order data = other.decode type order data := by
  unfold decode
  cases known : Role.ofType? type with
  | none => rfl
  | some role =>
    have read : registry.readPayload order role (Cursor.ofBytes data) =
        other.readPayload order role (Cursor.ofBytes data) := by
      cases number : u32 order (Cursor.ofBytes data) with
      | error fault => simp only [readPayload, bind, StateT.bind, Except.bind, number]
      | ok found =>
        have entry := same ⟨found.1, role⟩ (by simp only [keyOf?, known, number])
        simp only [readPayload, bind, StateT.bind, Except.bind, number, lookup, entry]
    simp only [read]

theorem decode_unregistered (absent : registry.isRegistered key = false) (low : key.id < .firstInjection)
    (about : keyOf? type order data = some key) :
    registry.decode type order data = .error (.noControlDecoder key.id) := by
  unfold keyOf? at about
  cases known : Role.ofType? type with
  | none =>
    rw [known] at about
    cases about
  | some role =>
    rw [decode_eq known, readPayload]
    cases number : u32 order ⟨data, 0⟩ with
    | error fault => 
      rw [known, Cursor.ofBytes, number] at about
      cases about
    | ok found =>
      rw [known, Cursor.ofBytes, number] at about
      cases about
      have missing := find?_of_unregistered absent
      simp only [bind, StateT.bind, Except.bind, number, lookup, missing, low, ↓reduceIte]
      rfl

theorem encode_congr (same : ∀ key, payload.key? = some key → registry.find? key = other.find? key) :
    registry.encode order payload = other.encode order payload := by
  cases payload with
  | timeMarker => rfl
  | request body =>
    have entry := same ⟨body.service, .request⟩ rfl
    simp only [encode, encodeAs, lookup, entry]
  | response body =>
    have entry := same ⟨body.service, .response⟩ rfl
    simp only [encode, encodeAs, lookup, entry]

theorem encode_unregistered (absent : registry.isRegistered key = false) (low : key.id < .firstInjection)
    (about : payload.key? = some key) :
    registry.encode order payload = .error (.serviceNotRegistered key.role key.id) := by
  have missing := find?_of_unregistered absent
  cases payload with
  | timeMarker => cases about
  | request body =>
    cases about
    simp only [encode, encodeAs, lookup, missing, low, ↓reduceIte]
  | response body =>
    cases about
    simp only [encode, encodeAs, lookup, missing, low, ↓reduceIte]

theorem lookup_unregistered (absent : registry.isRegistered key = false) (high : ServiceId.firstInjection ≤ key.id) :
    registry.lookup key = some (injection key.role) := by
  have missing := find?_of_unregistered absent
  have above : ¬ key.id < ServiceId.firstInjection := UInt32.not_lt.mpr high
  simp only [lookup, missing, above, ↓reduceIte]

variable {id : ServiceId}

theorem injected_request_comes_back (absent : registry.isRegistered ⟨id, .request⟩ = false)
    (high : ServiceId.firstInjection ≤ id) (order : ByteOrder) (short : data.length < Bytes.capacity 4) :
    let bs := order.encode 4 id.toNat ++ (ByteOrder.little.encode 4 data.length ++ data)
    registry.encode order (.request (.injection id data)) = .ok bs ∧
      registry.decode (.control .request) order bs = .ok (.request (.injection id data), bs.length) := by
  have found := lookup_unregistered absent high
  refine ⟨?_, ?_⟩
  · simp only [encode, encodeAs, Request.service, found, injection]
    rfl
  · have known : Role.ofType? (.control .request) = some .request := rfl
    have read : GivesBefore (Layout.readInjection id) [] _ data := gives_injection short
    have given := decode_of_gives known (gives_payload order (.request .injection) found
      (givesBefore_map (givesBefore_last read (Request.injection id)) Payload.request))
    rw [List.append_nil] at given
    exact given

theorem injected_response_comes_back (absent : registry.isRegistered ⟨id, .response⟩ = false)
    (high : ServiceId.firstInjection ≤ id) (order : ByteOrder) (status : UInt8) :
    let bs := order.encode 4 id.toNat ++ [status]
    registry.encode order (.response (.injection id status)) = .ok bs ∧
      registry.decode (.control .response) order bs = .ok (.response (.injection id status), bs.length) := by
  have found := lookup_unregistered absent high
  refine ⟨?_, ?_⟩
  · simp only [encode, encodeAs, Response.service, found, injection]
    rfl
  · have known : Role.ofType? (.control .response) = some .response := rfl
    have read := gives_last (gives_byte status) (Response.injection id) []
    have given := decode_of_gives known (gives_payload order (.response .injection) found
      (givesBefore_map read Payload.response))
    rw [List.append_nil] at given
    exact given

end Messages

structure Overridden (changes : List Change) (registry : Registry) : Prop where
  registered : ∀ key, registry.isRegistered key = (lastPut changes key).isSome
  unregistered : ∀ key, (registry.unregister key).1 = (lastPut changes key).isSome
  /-- Only requests and responses can be registered. -/
  refused : ∀ id type service, type ≠ .control .request → type ≠ .control .response →
    registry.register id type service = .error (.notRegistrable id type) ∧
      after (changes ++ [.register id type service]) = registry
  /-- A further change is noticed in the messages of its own service only. -/
  apart : ∀ change type order data, (∀ key, change.key? = some key → keyOf? type order data ≠ some key) →
    (after (changes ++ [change])).decode type order data = registry.decode type order data
  apart_written : ∀ change order payload, (∀ key, change.key? = some key → payload.key? ≠ some key) →
    (after (changes ++ [change])).encode order payload = registry.encode order payload
  unknown : ∀ key, key.id < .firstInjection → registry.isRegistered key = false →
    ∀ type order data, keyOf? type order data = some key →
      registry.decode type order data = .error (.noControlDecoder key.id)
  /-- This holds for a bare status as well, which every entry of its service can write. -/
  unknown_written : ∀ key, key.id < .firstInjection → registry.isRegistered key = false →
    ∀ order payload, payload.key? = some key →
      ∃ fault, registry.encode order payload = .error fault ∧ fault.kind = .encodeNotSupported
  injected : ∀ id, ServiceId.firstInjection ≤ id → registry.isRegistered ⟨id, .request⟩ = false →
    ∀ (order : ByteOrder) (data : Bytes), data.length < Bytes.capacity 4 →
      let bs := order.encode 4 id.toNat ++ (ByteOrder.little.encode 4 data.length ++ data)
      registry.encode order (.request (.injection id data)) = .ok bs ∧
        registry.decode (.control .request) order bs = .ok (.request (.injection id data), bs.length)
  acknowledged : ∀ id, ServiceId.firstInjection ≤ id → registry.isRegistered ⟨id, .response⟩ = false →
    ∀ (order : ByteOrder) (status : UInt8),
      let bs := order.encode 4 id.toNat ++ [status]
      registry.encode order (.response (.injection id status)) = .ok bs ∧
        registry.decode (.control .response) order bs = .ok (.response (.injection id status), bs.length)

theorem after_append (changes : List Change) (change : Change) :
    after (changes ++ [change]) = (after changes).change change := by
  rw [after, List.foldl_append]
  rfl

/-- Whatever was registered and unregistered before, the last change about a service decides on it and on
nothing else. -/
theorem last_change_decides (changes : List Change) : Overridden changes (after changes) := by
  have registered : ∀ key, (after changes).isRegistered key = (lastPut changes key).isSome := by
    intro key
    rw [isRegistered, find?_after]
  have kept : ∀ change key wanted, (∀ own, change.key? = some own → wanted ≠ some own) → wanted = some key →
      (after (changes ++ [change])).find? key = (after changes).find? key := by
    intro change key wanted apart about
    rw [after_append, find?_change, if_neg]
    exact fun own => apart key own about
  refine ⟨registered, registered, ?_, ?_, ?_, ?_, ?_, ?_, ?_⟩
  · intro id type service request response
    have roleless : Role.ofType? type = none := by
      unfold Role.ofType?
      split
      · exact absurd rfl request
      · exact absurd rfl response
      · rfl
    have failed : (after changes).register id type service = .error (.notRegistrable id type) := by
      simp only [register, roleless]
    refine ⟨failed, ?_⟩
    rw [after_append, change, failed]
  · exact fun change type order data apart => decode_congr fun key about => kept change key _ apart about
  · exact fun change order payload apart => encode_congr fun key about => kept change key _ apart about
  · exact fun key low absent type order data about => decode_unregistered absent low about
  · exact fun key low absent order payload about => ⟨_, encode_unregistered absent low about, rfl⟩
  · exact fun id high absent order data short => injected_request_comes_back absent high order short
  · exact fun id high absent order status => injected_response_comes_back absent high order status

/-- The numbers around the first injected service. -/
example : (standard.encode .big (.response (.injection 0xFFE 0))).toOption = none ∧
    (standard.encode .big (.response (.injection 0xFFF 0))).toOption = some [0x00, 0x00, 0x0F, 0xFF, 0x00] := by
  decide

end Registry

end DiagTrace.Control
