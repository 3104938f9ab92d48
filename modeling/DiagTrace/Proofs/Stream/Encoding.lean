import DiagTrace.Proofs.Header.RoundTrip
import DiagTrace.Proofs.Stream.Refusing
import Mathlib.Data.List.Induction

/-!
The use of an encoder over time. Its calls are spelled out here effect by effect (`build`, `write`): the counter
goes on once the packet is complete, and is put back where the buffer then turns out to be too small. So written,
a call could fail with half of its effects done; that it never does is `perform_build` and `perform_write`, which
say that the effects are those of `Encoder.encode` and `Encoder.encodeInto`.
-/
namespace DiagTrace.Stream

theorem Headers.ofLine_front {format : CaptureFormat} {count : UInt8} {line : Line} {body : Body} {headers : Headers}
    (announced : ofLine format count line body = .ok headers) :
    headers.standard.count = count ∧ (headers.preamble format).length = format.headerOffset := by
  obtain ⟨ticks, _, counted⟩ := of_bind announced
  simp only at counted
  split at counted
  · cases counted
  · cases counted
    refine ⟨rfl, ?_⟩
    cases format with
    | file => exact StorageHeader.length_encode _
    | network | serial => rfl

namespace Encoder

variable {encoder next : Encoder} {line : Line} {packet buffer : Bytes}

def countOf (encoder : Encoder) (line : Line) : UInt8 := line.header.count.getD encoder.nextCount

theorem encode_ok (written : encoder.encode line = .ok (packet, next)) :
    ∃ body headers, Headers.ofLine encoder.format (encoder.countOf line) line body = .ok headers ∧
      packet = headers.encode encoder.format ++ body.payload ∧
      next = { encoder with nextCount := encoder.countOf line + 1 } := by
  obtain ⟨body, _, rest⟩ := of_bind written
  obtain ⟨headers, announced, done⟩ := of_bind rest
  cases done
  exact ⟨body, headers, announced, rfl, rfl⟩

theorem encode_count (written : encoder.encode line = .ok (packet, next)) :
    packet[encoder.format.headerOffset + 1]? = some (encoder.countOf line) := by
  obtain ⟨body, headers, announced, rfl, _⟩ := encode_ok written
  obtain ⟨counted, front⟩ := Headers.ofLine_front announced
  rw [← counted, ← front, Headers.encode, List.append_assoc, List.append_assoc,
    List.getElem?_append_right (Nat.le_add_right ..), Nat.add_sub_cancel_left]
  rfl

theorem encodeInto_eq (encoder : Encoder) (buffer : Bytes) (line : Line) :
    encoder.encodeInto buffer line =
      match encoder.encode line with
      | .ok (packet, next) =>
        if packet.length ≤ buffer.length then .ok (packet.length, packet ++ buffer.drop packet.length, next)
        else .error (.bufferTooSmall packet.length buffer.length)
      | .error fault => .error fault := by
  unfold encodeInto
  cases encoder.encode line with
  | error fault => rfl
  | ok built =>
    obtain ⟨packet, next⟩ := built
    simp only [bind, Except.bind, pure, Except.pure, Bytes.hasAtLeast_iff]
    rfl

theorem encodeInto_ok_iff {length : Nat} {written : Bytes} :
    encoder.encodeInto buffer line = .ok (length, written, next) ↔
      ∃ packet, encoder.encode line = .ok (packet, next) ∧ packet.length = length ∧ length ≤ buffer.length ∧
        written = packet ++ buffer.drop length := by
  rw [encodeInto_eq]
  cases encoder.encode line with
  | error fault =>
    constructor
    · intro impossible
      cases impossible
    · rintro ⟨_, impossible, _⟩
      cases impossible
  | ok built =>
    obtain ⟨packet, after⟩ := built
    by_cases room : packet.length ≤ buffer.length
    · simp only [if_pos room]
      constructor
      · intro done
        cases done
        exact ⟨packet, rfl, rfl, room, rfl⟩
      · rintro ⟨_, same, rfl, _, rfl⟩
        cases same
        rfl
    · simp only [if_neg room]
      constructor
      · intro impossible
        cases impossible
      · rintro ⟨_, same, rfl, enough, _⟩
        cases same
        exact absurd enough room

theorem encodeInto_short_iff {needed available : Nat} :
    encoder.encodeInto buffer line = .error (.bufferTooSmall needed available) ↔
      available = buffer.length ∧ available < needed ∧
        ∃ packet next, encoder.encode line = .ok (packet, next) ∧ packet.length = needed := by
  rw [encodeInto_eq]
  cases refused : encoder.encode line with
  | error fault =>
    constructor
    · intro same
      cases same
      rcases refuses_encode encoder line _ refused with kind | kind
      · cases kind
      · cases kind
    · rintro ⟨_, _, _, _, impossible, _⟩
      cases impossible
  | ok built =>
    obtain ⟨packet, next⟩ := built
    by_cases room : packet.length ≤ buffer.length
    · simp only [if_pos room]
      constructor
      · intro impossible
        cases impossible
      · rintro ⟨rfl, less, _, _, same, rfl⟩
        cases same
        omega
    · simp only [if_neg room]
      constructor
      · intro same
        cases same
        exact ⟨rfl, Nat.lt_of_not_le room, packet, next, rfl, rfl⟩
      · rintro ⟨rfl, _, _, _, same, rfl⟩
        cases same
        rfl

end Encoder

structure Writing where
  encoder : Encoder
  buffer : Bytes

abbrev Effect (α : Type) := ExceptT Fault (StateM Writing) α

namespace Effect

variable {α : Type}

def ofExcept (result : Except Fault α) : Effect α := ExceptT.mk (pure result)

def perform (effect : Effect α) (writing : Writing) : Except Fault α × Writing := (effect.run.run writing).run

def setCount (count : UInt8) : Effect Unit :=
  modify fun writing => { writing with encoder := { writing.encoder with nextCount := count } }

def build (line : Line) : Effect Bytes := do
  let encoder := (← get).encoder
  let body ← ofExcept (Body.ofLine encoder.control line)
  let count := line.header.count.getD encoder.nextCount
  let headers ← ofExcept (Headers.ofLine encoder.format count line body)
  setCount (count + 1)
  return headers.encode encoder.format ++ body.payload

def write (line : Line) : Effect Nat := do
  let count := (← get).encoder.nextCount
  let packet ← build line
  let available := (← get).buffer.length
  if available < packet.length then
    setCount count
    throw (.bufferTooSmall packet.length available)
  modify fun writing => { writing with buffer := Bytes.overwrite writing.buffer packet }
  return packet.length

section Perform

variable {β : Type} (writing : Writing)

@[simp] theorem perform_bind (effect : Effect α) (next : α → Effect β) :
    perform (effect >>= next) writing =
      match perform effect writing with
      | (.ok value, after) => perform (next value) after
      | (.error fault, after) => (.error fault, after) := by
  unfold perform
  rw [ExceptT.run_bind, StateT.run_bind, Id.run_bind]
  rcases (effect.run.run writing).run with ⟨result, after⟩
  cases result with
  | error fault => rfl
  | ok value => rfl

@[simp] theorem perform_pure (value : α) : perform (pure value) writing = (.ok value, writing) := rfl

@[simp] theorem perform_throw (fault : Fault) : perform (throw fault : Effect α) writing = (.error fault, writing) :=
  rfl

@[simp] theorem perform_get : perform get writing = (.ok writing, writing) := rfl

@[simp] theorem perform_modify (change : Writing → Writing) :
    perform (modify change) writing = (.ok (), change writing) := rfl

@[simp] theorem perform_ofExcept (result : Except Fault α) : perform (ofExcept result) writing = (result, writing) :=
  rfl

end Perform

theorem perform_build (encoder : Encoder) (buffer : Bytes) (line : Line) :
    perform (build line) ⟨encoder, buffer⟩ =
      match encoder.encode line with
      | .ok (packet, next) => (.ok packet, ⟨next, buffer⟩)
      | .error fault => (.error fault, ⟨encoder, buffer⟩) := by
  unfold build Encoder.encode
  simp only [perform_bind, perform_get, perform_ofExcept]
  cases Body.ofLine encoder.control line with
  | error fault => rfl
  | ok body =>
    simp only [bind, Except.bind]
    cases Headers.ofLine encoder.format (line.header.count.getD encoder.nextCount) line body with
    | error fault => rfl
    | ok headers => rfl

/-- A packet that does not fit the buffer has counted, and the counter is put back. -/
theorem perform_write (encoder : Encoder) (buffer : Bytes) (line : Line) :
    perform (write line) ⟨encoder, buffer⟩ =
      match encoder.encodeInto buffer line with
      | .ok (length, written, next) => (.ok length, ⟨next, written⟩)
      | .error fault => (.error fault, ⟨encoder, buffer⟩) := by
  unfold write Encoder.encodeInto
  simp only [perform_bind, perform_get, perform_build]
  cases written : encoder.encode line with
  | error fault => rfl
  | ok built =>
    obtain ⟨packet, next⟩ := built
    obtain ⟨body, headers, _, _, rfl⟩ := Encoder.encode_ok written
    simp only [bind, Except.bind, pure, Except.pure]
    by_cases short : buffer.length < packet.length
    · have lacking : buffer.hasAtLeast packet.length = false := by
        rw [Bool.eq_false_iff, ne_eq, Bytes.hasAtLeast_iff]
        omega
      rw [if_pos short, lacking]
      rfl
    · have enough : buffer.hasAtLeast packet.length = true := by
        rw [Bytes.hasAtLeast_iff]
        omega
      rw [if_neg short, enough]
      rfl

end Effect

open Effect

/-- What the calls for one line do: all of their effects or none, in the same way for any room there is. -/
structure Atomic (encoder : Encoder) (buffer : Bytes) (line : Line) : Prop where
  build : perform (build line) ⟨encoder, buffer⟩ =
    match encoder.encode line with
    | .ok (packet, next) => (.ok packet, ⟨next, buffer⟩)
    | .error fault => (.error fault, ⟨encoder, buffer⟩)
  write : perform (write line) ⟨encoder, buffer⟩ =
    match encoder.encodeInto buffer line with
    | .ok (length, written, next) => (.ok length, ⟨next, written⟩)
    | .error fault => (.error fault, ⟨encoder, buffer⟩)
  /-- A packet is put at the front of a buffer with room for it, with nothing behind it changed. -/
  succeeds : ∀ length written next, encoder.encodeInto buffer line = .ok (length, written, next) ↔
    ∃ packet, encoder.encode line = .ok (packet, next) ∧ packet.length = length ∧ length ≤ buffer.length ∧
      written = packet ++ buffer.drop length
  /-- A buffer that is too small is told the length of the packet that is there. -/
  short : ∀ needed available, encoder.encodeInto buffer line = .error (.bufferTooSmall needed available) ↔
    available = buffer.length ∧ available < needed ∧
      ∃ packet next, encoder.encode line = .ok (packet, next) ∧ packet.length = needed
  /-- With that much room another try writes this packet, and with less it fails again. -/
  again : ∀ needed available, encoder.encodeInto buffer line = .error (.bufferTooSmall needed available) →
    ∃ packet next, encoder.encode line = .ok (packet, next) ∧ ∀ room : Bytes,
      (room.length = needed → encoder.encodeInto room line = .ok (needed, packet, next)) ∧
      (room.length < needed → encoder.encodeInto room line = .error (.bufferTooSmall needed room.length))

theorem atomic (encoder : Encoder) (buffer : Bytes) (line : Line) : Atomic encoder buffer line := by
  constructor
  case build => exact perform_build encoder buffer line
  case write => exact perform_write encoder buffer line
  case succeeds =>
    intro length written next
    exact Encoder.encodeInto_ok_iff
  case short =>
    intro needed available
    exact Encoder.encodeInto_short_iff
  case again =>
    intro needed available failed
    obtain ⟨_, _, packet, next, encoded, rfl⟩ := Encoder.encodeInto_short_iff.mp failed
    refine ⟨packet, next, encoded, ?_⟩
    intro room
    constructor
    · intro exact_room
      have filled : packet = packet ++ room.drop packet.length := by
        rw [List.drop_eq_nil_of_le (Nat.le_of_eq exact_room), List.append_nil]
      exact Encoder.encodeInto_ok_iff.mpr ⟨packet, encoded, rfl, Nat.le_of_eq exact_room.symm, filled⟩
    · intro less
      exact Encoder.encodeInto_short_iff.mpr ⟨rfl, less, packet, next, encoded, rfl⟩

inductive Request where
  | write (buffer : Bytes) (line : Line)
  | encode (line : Line)
  /-- Any change of the services. -/
  | adjust (control : Control.Registry)

structure Encoding where
  encoder : Encoder
  packets : List (Line × Bytes)

namespace Encoding

def start (format : CaptureFormat) : Encoding := ⟨.start format, []⟩

def serve (session : Encoding) : Request → Encoding
  | .write buffer line =>
    match perform (write line) ⟨session.encoder, buffer⟩ with
    | (.ok length, after) => ⟨after.encoder, session.packets ++ [(line, after.buffer.take length)]⟩
    | (.error _, after) => { session with encoder := after.encoder }
  | .encode line =>
    match perform (build line) ⟨session.encoder, []⟩ with
    | (.ok packet, after) => ⟨after.encoder, session.packets ++ [(line, packet)]⟩
    | (.error _, after) => { session with encoder := after.encoder }
  | .adjust control => { session with encoder := { session.encoder with control } }

def run (session : Encoding) (requests : List Request) : Encoding := requests.foldl serve session

theorem serve_cases (session : Encoding) (request : Request) :
    (∃ control, session.serve request = { session with encoder := { session.encoder with control } }) ∨
    ∃ line packet next, session.encoder.encode line = .ok (packet, next) ∧
      session.serve request = ⟨next, session.packets ++ [(line, packet)]⟩ := by
  cases request with
  | adjust control => exact .inl ⟨control, rfl⟩
  | encode line =>
    rw [serve, perform_build]
    cases encoded : session.encoder.encode line with
    | error fault => exact .inl ⟨session.encoder.control, rfl⟩
    | ok built => exact .inr ⟨line, built.1, built.2, encoded, rfl⟩
  | write buffer line =>
    rw [serve, perform_write]
    cases done : session.encoder.encodeInto buffer line with
    | error fault => exact .inl ⟨session.encoder.control, rfl⟩
    | ok result =>
      obtain ⟨length, written, next⟩ := result
      obtain ⟨packet, encoded, rfl, _, rfl⟩ := Encoder.encodeInto_ok_iff.mp done
      refine .inr ⟨line, packet, next, encoded, ?_⟩
      simp only [List.take_left]

def countAt (format : CaptureFormat) (packet : Bytes) : UInt8 := packet.getD (format.headerOffset + 1) 0

def countBehind (format : CaptureFormat) (packets : List (Line × Bytes)) : UInt8 :=
  packets.getLast?.elim 0 fun last => countAt format last.2 + 1

/-- Each packet has the counter of its line, or else the one behind the packet before. -/
def Counted (format : CaptureFormat) (packets : List (Line × Bytes)) : Prop :=
  ∀ front line packet back, packets = front ++ (line, packet) :: back →
    packet[format.headerOffset + 1]? = some (line.header.count.getD (countBehind format front))

theorem counted_concat {format : CaptureFormat} {packets : List (Line × Bytes)} {line : Line} {packet : Bytes}
    (counted : Counted format packets)
    (last : packet[format.headerOffset + 1]? = some (line.header.count.getD (countBehind format packets))) :
    Counted format (packets ++ [(line, packet)]) := by
  intro front other found back split
  rcases List.eq_nil_or_concat back with rfl | ⟨behind, final, rfl⟩
  · obtain ⟨rfl, same⟩ := List.append_inj' split rfl
    cases same
    exact last
  · rw [List.concat_eq_append, ← List.cons_append, ← List.append_assoc] at split
    exact counted front other found behind (List.append_inj' split rfl).1

theorem countBehind_concat {format : CaptureFormat} {packets : List (Line × Bytes)} {line : Line} {packet : Bytes}
    {count : UInt8} (counted : packet[format.headerOffset + 1]? = some count) :
    countBehind format (packets ++ [(line, packet)]) = count + 1 := by
  rw [countBehind, List.getLast?_concat, Option.elim_some, countAt, List.getD_eq_getElem?_getD, counted,
    Option.getD_some]

theorem run_counted (format : CaptureFormat) (requests : List Request) :
    let session := (start format).run requests
    session.encoder.format = format ∧ session.encoder.nextCount = countBehind format session.packets ∧
      Counted format session.packets := by
  induction requests using List.reverseRecOn with
  | nil =>
    have none_made : Counted format ((start format).run []).packets := by
      intro front line packet back split
      exact absurd split.symm (List.append_ne_nil_of_right_ne_nil front (List.cons_ne_nil _ _))
    exact ⟨rfl, rfl, none_made⟩
  | append_singleton requests request ih =>
    have last : (start format).run (requests ++ [request]) = ((start format).run requests).serve request :=
      List.foldl_append
    rw [last]
    generalize (start format).run requests = session at ih
    obtain ⟨framed, next_count, counted⟩ := ih
    rcases serve_cases session request with ⟨control, served⟩ | ⟨line, packet, next, encoded, served⟩
    · rw [served]
      exact ⟨framed, next_count, counted⟩
    · have byte := Encoder.encode_count encoded
      obtain ⟨_, _, _, _, after⟩ := Encoder.encode_ok encoded
      rw [framed] at byte
      have behind : countBehind format (session.packets ++ [(line, packet)]) = session.encoder.countOf line + 1 :=
        countBehind_concat byte
      rw [Encoder.countOf, next_count] at byte
      rw [served, after]
      exact ⟨framed, behind.symm, counted_concat counted byte⟩

/-- After any requests: each packet so far has the counter of its line, or else one more than the packet before it,
or zero if it is the first; and the next call for any line, with any buffer, does all that it has to do or nothing. -/
theorem calls_are_atomic_and_counted (format : CaptureFormat) (requests : List Request) :
    let session := (start format).run requests
    session.encoder.format = format ∧ Counted format session.packets ∧
      ∀ buffer line, Atomic session.encoder buffer line := by
  intro session
  obtain ⟨framed, _, counted⟩ := run_counted format requests
  exact ⟨framed, counted, fun buffer line => atomic session.encoder buffer line⟩

end Encoding

end DiagTrace.Stream
