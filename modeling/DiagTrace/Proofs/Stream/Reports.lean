import DiagTrace.Proofs.Stream.Framing
import DiagTrace.Proofs.Stream.PacketRoundTrip
import DiagTrace.Proofs.Stream.Resync

/-!
What a report of skipped bytes says about the time before them and about their device. Every candidate that is
tried leaves its capture time and its device in the builder, whether it is read or rejected. The time is taken
when the first byte is given up, the device when the report is made: behind the packet that ends the skipped
bytes, if one does.
-/
namespace DiagTrace

namespace Builder

theorem takeLine_known {builder rest : Builder} {line : Line} (taken : builder.takeLine = .ok (line, rest)) :
    line.header.ecuId = rest.ecuId ∧ line.header.time = rest.clock.read rest.time := by
  unfold takeLine at taken
  split at taken
  · split at taken
    · cases taken
      exact ⟨rfl, rfl⟩
    · cases taken
  · cases taken
    exact ⟨rfl, rfl⟩

end Builder

namespace Stream

/-- A candidate that was read or rejected, with what a new decoder knows behind it. -/
structure Attempt where
  position : Nat
  time : Timestamp
  ecuId : String
  accepted : Bool

def Attempt.ofPacket (setting : Setting) (packet : Bytes) (position : Nat) : Attempt :=
  let result := Packet.decode setting (Builder.start .recorded) packet 0
  ⟨position, result.2.time, result.2.lastEcuId, result.1.isOk⟩

def timeBehind (last : Option Attempt) : Timestamp := last.elim .epoch Attempt.time

def ecuIdBehind (last : Option Attempt) : String := last.elim "" Attempt.ecuId

namespace Packet

variable {setting : Setting} {builder : Builder} {packet payload : Bytes} {position : Nat}

theorem finish_rest_moveTo (setting : Setting) (builder : Builder) (place : Builder.Place) (payload : Bytes) :
    ∃ other, (finish setting (builder.moveTo place) payload).2 =
      (finish setting builder payload).2.moveTo other := by
  unfold finish
  rw [readPayload_moveTo]
  cases readPayload setting builder payload with
  | error fault => exact ⟨place, rfl⟩
  | ok filled =>
    simp only [Except.map, Builder.takeLine_moveTo]
    cases filled.takeLine with
    | error fault => exact ⟨place, rfl⟩
    | ok taken => exact ⟨_, rfl⟩

theorem finish_known {line : Line} (recorded : builder.clock = .recorded)
    (read : (finish setting builder payload).1 = .ok line) :
    line.header.ecuId = (finish setting builder payload).2.ecuId ∧
      line.header.time = (finish setting builder payload).2.time := by
  have clock : (finish setting builder payload).2.clock = .recorded :=
    (congrArg Prod.fst (finish_kept setting builder payload).1).trans recorded
  obtain ⟨filled, rest, given, taken⟩ := finish_inv read
  have left : (finish setting builder payload).2 = rest := by
    unfold finish
    rw [given]
    simp only [taken]
  rw [left] at clock ⊢
  obtain ⟨ecuId, time⟩ := Builder.takeLine_known taken
  rw [clock] at time
  exact ⟨ecuId, time⟩

theorem time_ofPacket (file : setting.format = .file)
    (found : Finding.ofBytes .file packet = .candidate packet.length) (position : Nat) :
    ∃ storage, StorageHeader.parse packet = .ok storage ∧ (Attempt.ofPacket setting packet position).time =
      Timestamp.ofParts storage.seconds.toNat storage.microseconds.toNat := by
  obtain ⟨headers, payload, parsed⟩ := Headers.parse_of_candidate found
  obtain ⟨storage, given, there⟩ := Headers.parseStorage_inv (Headers.parseStorage_of_parse parsed)
  refine ⟨storage, given, ?_⟩
  have lasting := (finish_kept setting (headers.apply ((Builder.start .recorded).setPosition 0)) payload).1.trans
    (Headers.apply_lasting _ headers)
  rw [there] at lasting
  simp only [Attempt.ofPacket, decode, file, parsed]
  exact congrArg Prod.snd lasting

/-- What a candidate leaves in an idle builder is what it leaves in a new one, and so is what its line says. -/
theorem decode_leaves (idle : Idle setting.format builder)
    (found : Finding.ofBytes setting.format packet = .candidate packet.length) (position : Nat) :
    let attempt := Attempt.ofPacket setting packet position
    let result := decode setting builder packet position
    result.2.time = attempt.time ∧ result.2.lastEcuId = attempt.ecuId ∧ result.1.isOk = attempt.accepted ∧
      ∀ line, result.1 = .ok line → line.header.time = attempt.time ∧ line.header.ecuId = attempt.ecuId := by
  intro attempt result
  obtain ⟨headers, payload, parsed⟩ := Headers.parse_of_candidate found
  have same := decode_of_idle idle packet position
  have accepted : result.1.isOk = attempt.accepted := by
    simp only [attempt, Attempt.ofPacket, result, same]
    cases (decode setting (Builder.start .recorded) packet 0).1 with
    | error fault => rfl
    | ok line => rfl
  obtain ⟨bigEndian, time, held, unset⟩ := idle
  have absent : headers.storage = none → time = .epoch := by
    intro none_stored
    refine unset fun file => ?_
    have stored := Headers.storage_of_parse parsed
    simp [none_stored, file] at stored
  have placed : builder.setPosition position =
      (Builder.cleared .recorded bigEndian time).moveTo { builder.place with position } := by
    rw [held]
    rfl
  have begun : (Builder.start .recorded).setPosition 0 = Builder.start .recorded := rfl
  have filled : headers.apply (builder.setPosition position) =
      (headers.apply (Builder.start .recorded)).moveTo { builder.place with position } := by
    rw [placed, Headers.apply_moveTo, Headers.apply_cleared headers bigEndian time absent]
  have recorded : (headers.apply (Builder.start .recorded)).clock = .recorded :=
    congrArg Prod.fst (Headers.apply_lasting (Builder.start .recorded) headers)
  have finished : result = ((finish setting (headers.apply (builder.setPosition position)) payload).1,
      (finish setting (headers.apply (builder.setPosition position)) payload).2.reset) := by
    simp only [result, decode, parsed]
  have first : decode setting (Builder.start .recorded) packet 0 =
      ((finish setting (headers.apply (Builder.start .recorded)) payload).1,
        (finish setting (headers.apply (Builder.start .recorded)) payload).2.reset) := by
    simp only [decode, parsed, begun]
  obtain ⟨other, moved⟩ := finish_rest_moveTo setting (headers.apply (Builder.start .recorded))
    { builder.place with position } payload
  rw [← filled] at moved
  have known : result.2.time = attempt.time ∧ result.2.lastEcuId = attempt.ecuId := by
    simp only [attempt, Attempt.ofPacket, first, finished, moved]
    exact ⟨rfl, rfl⟩
  refine ⟨known.1, known.2, accepted, fun line read => ?_⟩
  rw [← known.1, ← known.2]
  rw [finished] at read ⊢
  have clock : (headers.apply (builder.setPosition position)).clock = .recorded := by
    rw [filled]
    exact recorded
  obtain ⟨ecuId, time⟩ := finish_known clock read
  exact ⟨time, ecuId⟩

end Packet

namespace Sweep

def attempts (setting : Setting) (flush : Bool) (input : Cursor) : List Attempt :=
  match found : Finding.ofBytes setting.format input.rest with
  | .short => []
  | .noise bytes _ =>
    have := Finding.noise_bounds found
    attempts setting flush (input.advance bytes)
  | .incomplete =>
    have := Finding.four_le_length (by rw [found]; exact Finding.noConfusion)
    have := Finding.minimumDiscard_pos setting.format
    if flush then attempts setting flush (input.advance setting.format.minimumDiscard) else []
  | .candidate length =>
    have := Finding.candidate_bounds found
    have := Finding.minimumDiscard_pos setting.format
    let attempt := Attempt.ofPacket setting (input.rest.take length) input.position
    attempt :: attempts setting flush
      (input.advance (if attempt.accepted then length else setting.format.minimumDiscard))
termination_by input.rest.length
decreasing_by
  all_goals simp only [Cursor.advance, List.length_drop]
  · omega
  · omega
  · split <;> omega

variable {setting : Setting} {flush : Bool} {input : Cursor} {builder after : Builder}
variable {bytes length : Nat} {reason : SkipReason} {line : Line}

theorem attempts_eq (setting : Setting) (flush : Bool) (input : Cursor) :
    attempts setting flush input =
      match Finding.ofBytes setting.format input.rest with
      | .short => []
      | .noise bytes _ => attempts setting flush (input.advance bytes)
      | .incomplete =>
        if flush then attempts setting flush (input.advance setting.format.minimumDiscard) else []
      | .candidate length =>
        let attempt := Attempt.ofPacket setting (input.rest.take length) input.position
        attempt :: attempts setting flush
          (input.advance (if attempt.accepted then length else setting.format.minimumDiscard)) := by
  rw [attempts]
  split
  · rename_i found
    simp only [found]
  · rename_i found
    simp only [found]
  · rename_i found
    simp only [found]
  · rename_i found
    simp only [found]

theorem attempts_stop (move : Move.next setting flush input builder = .stop) :
    attempts setting flush input = [] := by
  rw [attempts_eq]
  rcases Move.next_stop move with found | ⟨found, rfl⟩
  · rw [found]
  · rw [found]
    rfl

theorem attempts_position (setting : Setting) (flush : Bool) (input : Cursor) :
    ∀ attempt ∈ attempts setting flush input, input.position ≤ attempt.position := by
  fun_induction attempts setting flush input with
  | case1 =>
    intro attempt present
    cases present
  | case2 input bytes _ _ _ ih =>
    intro attempt present
    exact Nat.le_of_add_right_le (ih attempt present)
  | case3 input _ _ _ _ ih =>
    intro attempt present
    exact Nat.le_of_add_right_le (ih attempt present)
  | case4 =>
    intro attempt present
    cases present
  | case5 input length _ _ _ _ ih =>
    intro attempt present
    rcases List.mem_cons.mp present with rfl | later
    · exact Nat.le_refl _
    · exact Nat.le_of_add_right_le (ih attempt later)

end Sweep

def Attempt.Stamped (attempt : Attempt) (stream : Bytes) : Prop :=
  ∃ storage, StorageHeader.parse (stream.drop attempt.position) = .ok storage ∧
    attempt.time = Timestamp.ofParts storage.seconds.toNat storage.microseconds.toNat

theorem Attempt.Stamped.more {attempt : Attempt} {stream : Bytes} (stamped : attempt.Stamped stream) (more : Bytes) :
    attempt.Stamped (stream ++ more) := by
  obtain ⟨storage, parsed, time⟩ := stamped
  refine ⟨storage, ?_, time⟩
  rw [List.drop_append]
  exact StorageHeader.parse_append parsed _

theorem Sweep.attempts_stamped {stream : Bytes} (setting : Setting) (file : setting.format = .file) (flush : Bool)
    (input : Cursor) (held : input.rest = stream.drop input.position) :
    ∀ attempt ∈ attempts setting flush input, attempt.Stamped stream := by
  have behind : ∀ {input : Cursor} (n : Nat), input.rest = stream.drop input.position →
      (input.advance n).rest = stream.drop (input.advance n).position := by
    intro input n held
    rw [Cursor.advance, held, List.drop_drop]
  fun_induction attempts setting flush input with
  | case1 =>
    intro attempt present
    cases present
  | case2 input bytes _ _ _ ih => exact ih (behind bytes held)
  | case3 input _ _ _ _ ih => exact ih (behind setting.format.minimumDiscard held)
  | case4 =>
    intro attempt present
    cases present
  | case5 input length found _ _ tried ih =>
    intro attempt present
    rcases List.mem_cons.mp present with rfl | later
    · have whole : (input.rest.take length).length = length :=
        List.length_take_of_le (Finding.candidate_bounds found).2
      have alone : Finding.ofBytes .file (input.rest.take length) =
          .candidate (input.rest.take length).length := by
        rw [whole, ← file]
        exact Finding.candidate_take found
      obtain ⟨storage, parsed, time⟩ := Packet.time_ofPacket file alone input.position
      have more := StorageHeader.parse_append parsed (input.rest.drop length)
      rw [List.take_append_drop, held] at more
      exact ⟨storage, more, time⟩
    · exact ih (behind _ held) attempt later

structure Attempt.Made (attempt : Attempt) (position : Nat) (before after : Builder) : Prop where
  position : attempt.position = position
  time : after.time = attempt.time
  ecuId : after.lastEcuId = attempt.ecuId
  skip : after.skip = before.skip

namespace Sweep

variable {setting : Setting} {flush : Bool} {input : Cursor} {builder after : Builder}
variable {bytes length : Nat} {reason : SkipReason} {line : Line}

theorem made_of_candidate (idle : Idle setting.format builder)
    (found : Finding.ofBytes setting.format input.rest = .candidate length) :
    let attempt := Attempt.ofPacket setting (input.rest.take length) input.position
    let result := Packet.decode setting builder (input.rest.take length) input.position
    attempt.Made input.position builder result.2 ∧ result.1.isOk = attempt.accepted ∧
      ∀ line, result.1 = .ok line → line.header.time = attempt.time ∧ line.header.ecuId = attempt.ecuId := by
  have present := (Finding.candidate_bounds found).2
  have whole : (input.rest.take length).length = length := List.length_take_of_le present
  have alone : Finding.ofBytes setting.format (input.rest.take length) =
      .candidate (input.rest.take length).length := by
    rw [whole]
    exact Finding.candidate_take found
  obtain ⟨time, ecuId, accepted, known⟩ := Packet.decode_leaves idle alone input.position
  have kept := (Packet.decode_kept setting builder (input.rest.take length) input.position).1
  exact ⟨⟨rfl, time, ecuId, kept⟩, accepted, known⟩

theorem attempts_giveUp (idle : Idle setting.format builder)
    (move : Move.next setting flush input builder = .giveUp bytes reason after) :
    (attempts setting flush input = attempts setting flush (input.advance bytes) ∧ after = builder) ∨
    ∃ attempt, attempts setting flush input = attempt :: attempts setting flush (input.advance bytes) ∧
      attempt.accepted = false ∧ attempt.Made input.position builder after := by
  rcases Move.next_giveUp move with ⟨found, rfl⟩ | ⟨found, rfl, rfl, _, rfl⟩ | ⟨length, fault, found, decoded, rfl, _⟩
  · left
    constructor
    · rw [attempts_eq, found]
    · rfl
  · left
    constructor
    · rw [attempts_eq, found]
      rfl
    · rfl
  · right
    obtain ⟨made, accepted, _⟩ := made_of_candidate idle found
    rw [decoded] at made accepted
    refine ⟨_, ?_, accepted.symm, made⟩
    rw [attempts_eq, found]
    simp only [← accepted]
    rfl

theorem attempts_packet (idle : Idle setting.format builder)
    (move : Move.next setting flush input builder = .packet length line after) :
    ∃ attempt, attempts setting flush input = attempt :: attempts setting flush (input.advance length) ∧
      attempt.accepted = true ∧ attempt.Made input.position builder after ∧
      line.header.time = attempt.time ∧ line.header.ecuId = attempt.ecuId ∧ line.isSkipped = false := by
  obtain ⟨found, decoded⟩ := Move.next_packet move
  obtain ⟨made, accepted, known⟩ := made_of_candidate idle found
  rw [decoded] at made accepted known
  obtain ⟨time, ecuId⟩ := known line rfl
  refine ⟨_, ?_, accepted.symm, made, time, ecuId, (Packet.decode_line decoded).2.2⟩
  rw [attempts_eq, found]
  simp only [← accepted]
  rfl

end Sweep

def lastAt (tried : List Attempt) (position : Nat) : Option Attempt :=
  (tried.filter fun attempt => attempt.position ≤ position).getLast?

def timeOfLast (lines : List Line) : Timestamp :=
  ((lines.filter fun line => !line.isSkipped).getLast?).elim .epoch (·.header.time)

section Attempts

variable {tried later : List Attempt} {lines : List Line} {position : Nat}

theorem lastAt_of_all (all : ∀ attempt ∈ tried, attempt.position ≤ position) :
    lastAt tried position = tried.getLast? := by
  rw [lastAt, List.filter_eq_self.mpr]
  intro attempt present
  exact decide_eq_true (all attempt present)

theorem lastAt_append (behind : ∀ attempt ∈ later, position < attempt.position) :
    lastAt (tried ++ later) position = lastAt tried position := by
  have none_later : (later.filter fun attempt => attempt.position ≤ position) = [] := by
    rw [List.filter_eq_nil_iff]
    intro attempt present before
    exact absurd (of_decide_eq_true before) (Nat.not_le_of_lt (behind attempt present))
  rw [lastAt, List.filter_append, none_later, List.append_nil, lastAt]

theorem timeOfLast_whole {line : Line} (whole : line.isSkipped = false) :
    timeOfLast (lines ++ [line]) = line.header.time := by
  simp [timeOfLast, whole]

theorem timeOfLast_skipped {line : Line} (skipped : line.isSkipped = true) :
    timeOfLast (lines ++ [line]) = timeOfLast lines := by
  simp [timeOfLast, skipped]

end Attempts

/-- What a builder knows at a position, after some attempts and with some lines returned. -/
structure Recalls (tried : List Attempt) (done : List Line) (position : Nat) (builder : Builder) : Prop where
  time : builder.time = timeBehind tried.getLast?
  ecuId : builder.lastEcuId = ecuIdBehind tried.getLast?
  earlier : ∀ attempt ∈ tried, attempt.position < position
  /-- Behind a packet that was read, its line is the last whole one. -/
  whole : (∀ attempt ∈ tried.getLast?, attempt.accepted = true) → builder.time = timeOfLast done
  opened : builder.skip.bytes ≠ 0 → builder.skip.position < position
  spanTime : builder.skip.bytes ≠ 0 → builder.skip.time = timeBehind (lastAt tried builder.skip.position)
  spanWhole : builder.skip.bytes ≠ 0 →
    (∀ attempt ∈ lastAt tried builder.skip.position, attempt.accepted = true) → builder.skip.time = timeOfLast done

namespace Recalls

variable {tried : List Attempt} {done : List Line} {position : Nat} {builder after : Builder} {attempt : Attempt}

theorem further (recalls : Recalls tried done position builder) {more : Nat} (le : position ≤ more) :
    Recalls tried done more builder :=
  ⟨recalls.time, recalls.ecuId, fun attempt present => Nat.lt_of_lt_of_le (recalls.earlier attempt present) le,
    recalls.whole, fun open_span => Nat.lt_of_lt_of_le (recalls.opened open_span) le, recalls.spanTime,
    recalls.spanWhole⟩

theorem reject (recalls : Recalls tried done position builder) (failed : attempt.accepted = false)
    (made : attempt.Made position builder after) : Recalls (tried ++ [attempt]) done (position + 1) after := by
  have last : (tried ++ [attempt]).getLast? = some attempt := List.getLast?_concat
  have before : builder.skip.bytes ≠ 0 →
      lastAt (tried ++ [attempt]) builder.skip.position = lastAt tried builder.skip.position := by
    intro open_span
    refine lastAt_append fun other present => ?_
    obtain rfl := List.mem_singleton.mp present
    rw [made.position]
    exact recalls.opened open_span
  constructor
  case time =>
    rw [last]
    exact made.time
  case ecuId =>
    rw [last]
    exact made.ecuId
  case earlier =>
    intro other present
    rcases List.mem_append.mp present with earlier | now
    · have less := recalls.earlier other earlier
      omega
    · obtain rfl := List.mem_singleton.mp now
      rw [made.position]
      exact Nat.lt_succ_self _
  case whole =>
    intro accepted
    rw [last] at accepted
    rw [accepted attempt rfl] at failed
    cases failed
  case opened =>
    rw [made.skip]
    exact fun open_span => Nat.lt_succ_of_lt (recalls.opened open_span)
  case spanTime =>
    rw [made.skip]
    intro open_span
    rw [before open_span]
    exact recalls.spanTime open_span
  case spanWhole =>
    rw [made.skip]
    intro open_span
    rw [before open_span]
    exact recalls.spanWhole open_span

theorem skip (recalls : Recalls tried done (position + 1) builder) (recorded : builder.clock = .recorded)
    {bytes : Nat} (positive : 0 < bytes) (reason : SkipReason) :
    Recalls tried done (position + bytes) (Pass.skip builder bytes position reason) := by
  have all : ∀ attempt ∈ tried, attempt.position ≤ position :=
    fun attempt present => Nat.le_of_lt_succ (recalls.earlier attempt present)
  have further := recalls.further (Nat.add_le_add_left positive position)
  have some_bytes : bytes ≠ 0 := Nat.ne_of_gt positive
  by_cases reported : builder.skip.bytes = 0
  · have begun : Pass.skip builder bytes position reason =
        { builder with
          position := position
          skip := { (builder.setPosition position).openSkip reason.text with bytes := 0 + bytes } } := by
      simp only [Pass.skip, if_neg some_bytes, if_pos reported, Builder.countSkipped, Builder.setPosition]
      rfl
    have time : ((builder.setPosition position).openSkip reason.text).time = builder.time := by
      simp only [Builder.openSkip, Builder.setPosition, recorded]
      rfl
    rw [begun]
    constructor
    case time => exact further.time
    case ecuId => exact further.ecuId
    case earlier => exact further.earlier
    case whole => exact further.whole
    case opened => exact fun _ => Nat.lt_add_of_pos_right positive
    case spanTime =>
      intro _
      have last : lastAt tried position = tried.getLast? := lastAt_of_all all
      exact time.trans (recalls.time.trans (congrArg timeBehind last.symm))
    case spanWhole =>
      intro _ accepted
      have last : lastAt tried position = tried.getLast? := lastAt_of_all all
      refine time.trans (recalls.whole ?_)
      rw [← last]
      exact accepted
  · rw [Pass.skip_open reported]
    exact ⟨further.time, further.ecuId, further.earlier, further.whole, fun _ => further.opened reported,
      fun _ => further.spanTime reported, fun _ => further.spanWhole reported⟩

theorem accept (recalls : Recalls tried done position builder) (made : attempt.Made position builder after)
    {line : Line} (whole : line.isSkipped = false) (time : line.header.time = attempt.time) {bytes : Nat}
    (positive : 0 < bytes) (rest : Cursor) :
    Recalls (tried ++ [attempt]) (done ++ (Pass.deliver line rest after).lines) (position + bytes)
      (Pass.deliver line rest after).builder := by
  have last : (tried ++ [attempt]).getLast? = some attempt := List.getLast?_concat
  have reported := deliver_reported line rest after
  have kept : (Pass.deliver line rest after).builder.time = after.time ∧
      (Pass.deliver line rest after).builder.lastEcuId = after.lastEcuId := by
    simp only [Pass.deliver]
    split
    · exact ⟨rfl, rfl⟩
    · exact ⟨rfl, rfl⟩
  have latest : timeOfLast (done ++ (Pass.deliver line rest after).lines) = line.header.time := by
    simp only [Pass.deliver]
    split
    · exact timeOfLast_whole whole
    · have numbered : ∀ number, (line.withNumber number).isSkipped = false := by
        intro number
        rw [isSkipped_withNumber]
        exact whole
      simp only [Pass.lines, Option.toList_some]
      rw [List.append_cons, timeOfLast_whole (numbered _), header_withNumber]
  constructor
  case time =>
    rw [last]
    exact kept.1.trans made.time
  case ecuId =>
    rw [last]
    exact kept.2.trans made.ecuId
  case earlier =>
    intro other present
    rcases List.mem_append.mp present with earlier | now
    · exact Nat.lt_add_right bytes (recalls.earlier other earlier)
    · obtain rfl := List.mem_singleton.mp now
      rw [made.position]
      exact Nat.lt_add_of_pos_right positive
  case whole =>
    intro _
    rw [latest, time]
    exact kept.1.trans made.time
  case opened => exact fun open_span => absurd reported open_span
  case spanTime => exact fun open_span => absurd reported open_span
  case spanWhole => exact fun open_span => absurd reported open_span

end Recalls

/-- What the header of a report says, after all attempts up to the end of a call and with the lines returned
before it and behind it. -/
structure Explained (tried : List Attempt) (done back : List Line) (header : LineHeader) : Prop where
  /-- The time is that of the last packet that was tried up to the first byte given up, read or rejected. -/
  time : header.time = timeBehind (lastAt tried header.position)
  /-- The device is that of the packet behind, and at the end of a stream that of the last packet tried. -/
  ecuId : header.ecuId = back.head?.elim (ecuIdBehind tried.getLast?) (·.header.ecuId)
  /-- Where no rejected packet came last, the time is that of the last line that reports no skipped bytes. -/
  whole : (∀ attempt ∈ lastAt tried header.position, attempt.accepted = true) → header.time = timeOfLast done

section Run

variable {tried later : List Attempt} {done back : List Line} {position : Nat} {builder after : Builder}
variable {input : Cursor}

theorem explained_takeSkipped (recalls : Recalls tried done position builder) (kept : after.skip = builder.skip)
    (open_span : after.skip.bytes ≠ 0) (later : List Attempt)
    (behind : ∀ attempt ∈ later, position ≤ attempt.position) (back : List Line) (number : Nat)
    (ecuId : after.lastEcuId = back.head?.elim (ecuIdBehind (tried ++ later).getLast?) (·.header.ecuId)) :
    Explained (tried ++ later) done back (after.takeSkipped.1.withNumber number).header := by
  have time : (after.takeSkipped.1.withNumber number).header.time = builder.skip.time := congrArg SkipSpan.time kept
  have place : (after.takeSkipped.1.withNumber number).header.position = builder.skip.position :=
    congrArg SkipSpan.position kept
  rw [kept] at open_span
  have opened := recalls.opened open_span
  have same : lastAt (tried ++ later) builder.skip.position = lastAt tried builder.skip.position :=
    lastAt_append fun attempt present => Nat.lt_of_lt_of_le opened (behind attempt present)
  constructor
  case time =>
    rw [time, place, same]
    exact recalls.spanTime open_span
  case ecuId => exact ecuId
  case whole =>
    rw [time, place, same]
    exact recalls.spanWhole open_span

theorem Recalls.takeSkipped (recalls : Recalls tried done position builder) :
    Recalls tried (done ++ [builder.takeSkipped.1]) position builder.takeSkipped.2 := by
  have latest : timeOfLast (done ++ [builder.takeSkipped.1]) = timeOfLast done := timeOfLast_skipped rfl
  constructor
  case time => exact recalls.time
  case ecuId => exact recalls.ecuId
  case earlier => exact recalls.earlier
  case whole =>
    intro accepted
    rw [latest]
    exact recalls.whole accepted
  case opened => exact fun open_span => absurd rfl open_span
  case spanTime => exact fun open_span => absurd rfl open_span
  case spanWhole => exact fun open_span => absurd rfl open_span

def AllExplained (tried : List Attempt) (done lines : List Line) : Prop :=
  ∀ front header bytes reason back, lines = front ++ .skipped header bytes reason :: back →
    Explained tried (done ++ front) back header

theorem allExplained_nil (tried : List Attempt) (done : List Line) : AllExplained tried done [] := by
  intro front header bytes reason back split
  exact absurd split.symm (List.append_ne_nil_of_right_ne_nil front (List.cons_ne_nil _ _))

theorem allExplained_cons {line : Line} {lines : List Line}
    (first : ∀ header bytes reason, line = .skipped header bytes reason → Explained tried done lines header)
    (others : AllExplained tried (done ++ [line]) lines) : AllExplained tried done (line :: lines) := by
  intro front header bytes reason back split
  cases front with
  | nil =>
    obtain ⟨same, rfl⟩ := List.cons.inj split
    rw [List.append_nil]
    exact first header bytes reason same
  | cons head front =>
    obtain ⟨rfl, rest⟩ := List.cons.inj split
    rw [List.append_cons]
    exact others front header bytes reason back rest

theorem allExplained_whole {line : Line} {lines : List Line} (whole : line.isSkipped = false)
    (others : AllExplained tried (done ++ [line]) lines) : AllExplained tried done (line :: lines) := by
  apply allExplained_cons
  · intro header bytes reason same
    rw [same] at whole
    cases whole
  · exact others

theorem atEnd_recalls (recalls : Recalls tried done input.position builder) (recorded : builder.clock = .recorded) :
    let pass := Pass.atEnd input builder
    Recalls tried (done ++ pass.lines) pass.rest.position pass.builder ∧ AllExplained tried done pass.lines := by
  intro pass
  have left : Recalls tried done (input.position + input.remaining)
      (Pass.skip builder input.remaining input.position .endOfStream) := by
    by_cases empty : input.remaining = 0
    · rw [empty, Pass.skip_zero]
      exact recalls
    · exact (recalls.further (Nat.le_succ _)).skip recorded (Nat.pos_of_ne_zero empty) .endOfStream
  simp only [pass, Pass.atEnd]
  generalize Pass.skip builder input.remaining input.position .endOfStream = skipped at left
  split
  · rw [Pass.lines, List.append_nil]
    exact ⟨left, allExplained_nil tried done⟩
  · rename_i open_span
    refine ⟨left.takeSkipped, allExplained_cons ?_ (allExplained_nil _ _)⟩
    intro header bytes reason same
    cases same
    have none_later : ∀ attempt ∈ ([] : List Attempt), input.position + input.remaining ≤ attempt.position := by
      intro attempt present
      cases present
    have device : skipped.lastEcuId = ecuIdBehind (tried ++ []).getLast? := by
      rw [List.append_nil]
      exact left.ecuId
    have told := explained_takeSkipped left rfl open_span [] none_later [] skipped.nextNumber device
    rw [List.append_nil] at told
    exact told

theorem deliver_explained {attempt : Attempt} {line : Line} {lines : List Line}
    (recalls : Recalls tried done position builder) (made : attempt.Made position builder after)
    (whole : line.isSkipped = false) (ecuId : line.header.ecuId = attempt.ecuId) (rest : Cursor)
    (behind : ∀ attempt ∈ later, position ≤ attempt.position)
    (others : AllExplained (tried ++ attempt :: later) (done ++ (Pass.deliver line rest after).lines) lines) :
    AllExplained (tried ++ attempt :: later) done ((Pass.deliver line rest after).lines ++ lines) := by
  have from_here : ∀ other ∈ attempt :: later, position ≤ other.position := by
    intro other present
    rcases List.mem_cons.mp present with rfl | present
    · exact Nat.le_of_eq made.position.symm
    · exact behind other present
  unfold Pass.deliver at others ⊢
  split at others
  · rename_i reported
    rw [if_pos reported]
    exact allExplained_whole whole others
  · rename_i open_span
    rw [if_neg open_span]
    have numbered : (line.withNumber after.takeSkipped.1.number).isSkipped = false := by
      rw [isSkipped_withNumber]
      exact whole
    have device : after.lastEcuId = (line.withNumber after.takeSkipped.1.number).header.ecuId := by
      rw [header_withNumber]
      exact made.ecuId.trans ecuId.symm
    apply allExplained_cons
    · intro header bytes reason same
      cases same
      exact explained_takeSkipped recalls made.skip open_span (attempt :: later) from_here
        (line.withNumber after.takeSkipped.1.number :: lines) line.number device
    · apply allExplained_whole numbered
      rw [List.append_assoc]
      exact others

theorem run_recalls (setting : Setting) (flush : Bool) (input : Cursor) (builder : Builder)
    (idle : Idle setting.format builder) (recalls : Recalls tried done input.position builder) :
    let sweep := Sweep.run setting flush input builder
    Recalls (tried ++ Sweep.attempts setting flush input) (done ++ sweep.lines) sweep.rest.position sweep.builder ∧
      AllExplained (tried ++ Sweep.attempts setting flush input) done sweep.lines := by
  have clock : ∀ {builder : Builder}, Idle setting.format builder → builder.clock = .recorded := by
    rintro builder ⟨_, _, held, _⟩
    rw [held]
    rfl
  intro sweep
  fun_induction Sweep.run setting flush input builder generalizing tried done with
  | case1 input builder move =>
    rw [Sweep.attempts_stop move, List.append_nil]
    cases flush with
    | false =>
      simp only [sweep, Sweep.atStop, Bool.false_eq_true, ↓reduceIte, List.append_nil]
      exact ⟨recalls, allExplained_nil tried done⟩
    | true => exact atEnd_recalls recalls (clock idle)
  | case2 input builder bytes reason after move bounds ih =>
    have left := idle_giveUp idle move
    have next := idle_skip left bytes input.position reason
    rcases Sweep.attempts_giveUp idle move with ⟨tries, rfl⟩ | ⟨attempt, tries, failed, made⟩
    · rw [tries]
      exact ih next ((recalls.further (Nat.le_succ _)).skip (clock left) bounds.1 reason)
    · rw [tries, List.append_cons]
      exact ih next ((recalls.reject failed made).skip (clock left) bounds.1 reason)
  | case3 input builder length line after move bounds ih =>
    obtain ⟨attempt, tries, accepted, made, time, ecuId, whole⟩ := Sweep.attempts_packet idle move
    have left : Idle setting.format after := by
      have decoded := Packet.decode_idle idle (input.rest.take length) input.position
      rw [(Move.next_packet move).2] at decoded
      exact decoded
    have positive : 0 < length := Nat.lt_of_lt_of_le (by decide) bounds.1
    obtain ⟨later, explained⟩ := ih (idle_deliver left line (input.advance length))
      (recalls.accept made whole time positive (input.advance length))
    have behind : ∀ attempt ∈ Sweep.attempts setting flush (input.advance length), input.position ≤ attempt.position :=
      fun attempt present => Nat.le_of_add_right_le (Sweep.attempts_position setting flush _ attempt present)
    rw [List.append_assoc done] at later
    rw [← List.append_cons] at later explained
    rw [tries]
    constructor
    · exact later
    · exact deliver_explained recalls made whole ecuId (input.advance length) behind explained

end Run

namespace Call

def attempts (decoder : Decoder) : Call → List Attempt
  | .feed data => Sweep.attempts decoder.setting false ⟨decoder.input.rest ++ data, decoder.input.position⟩
  | .flush => Sweep.attempts decoder.setting true decoder.input
  | .adjust .. => []

end Call

namespace Session

def attempts (session : Session) : List Call → List Attempt
  | [] => []
  | call :: calls => call.attempts session.decoder ++ (session.call call).attempts calls

theorem attempts_append (session : Session) (calls others : List Call) :
    session.attempts (calls ++ others) = session.attempts calls ++ (session.run calls).attempts others := by
  induction calls generalizing session with
  | nil => rfl
  | cons call calls ih =>
    rw [List.cons_append, attempts, attempts, ih, List.append_assoc]
    rfl

theorem attempts_singleton (session : Session) (call : Call) :
    session.attempts [call] = call.attempts session.decoder := List.append_nil _

theorem call_recalls {session : Session} {tried : List Attempt} (nothing_held : session.decoder.heldBack = none)
    (idle : Idle session.decoder.setting.format session.decoder.builder)
    (recalls : Recalls tried session.lines session.decoder.input.position session.decoder.builder) (call : Call) :
    let after := session.call call
    Recalls (tried ++ call.attempts session.decoder) after.lines after.decoder.input.position after.decoder.builder ∧
      ∃ answered, after.lines = session.lines ++ answered ∧
        AllExplained (tried ++ call.attempts session.decoder) session.lines answered := by
  intro after
  cases call with
  | feed data =>
    obtain ⟨left, explained⟩ := run_recalls session.decoder.setting false
      ⟨session.decoder.input.rest ++ data, session.decoder.input.position⟩ session.decoder.builder idle recalls
    refine ⟨?_, _, lines_feed nothing_held data, explained⟩
    rw [lines_feed nothing_held data]
    simp only [after, Session.call, record, Decoder.feed_eq_run]
    exact left
  | flush =>
    obtain ⟨left, explained⟩ := run_recalls session.decoder.setting true session.decoder.input
      session.decoder.builder idle recalls
    refine ⟨?_, _, lines_flush nothing_held, explained⟩
    rw [lines_flush nothing_held]
    simp only [after, Session.call, record, Decoder.flush_eq_run]
    exact left
  | adjust control nonVerbose =>
    rw [Call.attempts, List.append_nil]
    exact ⟨recalls, [], (List.append_nil _).symm, allExplained_nil _ _⟩

theorem call_stamped {session : Session} (aligned : Aligned session.fed session.decoder.input session.decoder.builder)
    (file : session.decoder.setting.format = .file) (call : Call) :
    ∀ attempt ∈ call.attempts session.decoder, attempt.Stamped (session.call call).fed := by
  cases call with
  | feed data =>
    exact Sweep.attempts_stamped session.decoder.setting file false _ (aligned_more aligned data).held
  | flush => exact Sweep.attempts_stamped session.decoder.setting file true _ aligned.held
  | adjust control nonVerbose =>
    intro attempt present
    cases present

theorem fed_call (session : Session) (call : Call) : ∃ more, (session.call call).fed = session.fed ++ more := by
  cases call with
  | feed data => exact ⟨data, rfl⟩
  | flush => exact ⟨[], (List.append_nil _).symm⟩
  | adjust control nonVerbose => exact ⟨[], (List.append_nil _).symm⟩

/-- In a capture file, every attempt has the time that is stored in front of its packet. -/
theorem attempts_stamped {setting : Setting} (file : setting.format = .file) (calls : List Call) :
    ∀ attempt ∈ (Session.start setting).attempts calls, attempt.Stamped ((Session.start setting).run calls).fed := by
  induction calls using List.reverseRecOn with
  | nil =>
    intro attempt present
    cases present
  | append_singleton calls call ih =>
    obtain ⟨balanced, same⟩ := balanced_run setting calls
    rw [attempts_append, attempts_singleton, run_append, run_singleton]
    intro attempt present
    rcases List.mem_append.mp present with earlier | new
    · obtain ⟨more, fed⟩ := fed_call ((Session.start setting).run calls) call
      rw [fed]
      exact (ih attempt earlier).more more
    · exact call_stamped balanced.aligned (same.trans file) call attempt new

theorem recalls_run (setting : Setting) (calls : List Call) :
    let session := (Session.start setting).run calls
    Recalls ((Session.start setting).attempts calls) session.lines session.decoder.input.position
      session.decoder.builder := by
  induction calls using List.reverseRecOn with
  | nil =>
    have none_tried : ∀ attempt ∈ ([] : List Attempt), attempt.position < 0 := by
      intro attempt present
      cases present
    exact ⟨rfl, rfl, none_tried, fun _ => rfl, fun open_span => absurd rfl open_span,
      fun open_span => absurd rfl open_span, fun open_span => absurd rfl open_span⟩
  | append_singleton calls call ih =>
    obtain ⟨balanced, same⟩ := balanced_run setting calls
    have idle := idle_run setting calls
    rw [← same] at idle
    rw [attempts_append, attempts_singleton, run_append, run_singleton]
    exact (call_recalls balanced.nothing_held idle ih call).1

/-- A report of skipped bytes has the time of the last packet that was tried up to its first byte, be it one
that was rejected, and the device of the packet behind it. The time is that of the last line before that
reports no skipped bytes unless a rejected packet came last; in a capture file, the time of a packet that was tried is
the one stored in front of it. -/
theorem reports_know_the_last_packet_tried (setting : Setting) (calls : List Call) (call : Call)
    (front back : List Line) (header : LineHeader) (bytes : Nat) (reason : Option String)
    (answered : (((Session.start setting).run calls).call call).lines =
      ((Session.start setting).run calls).lines ++ (front ++ .skipped header bytes reason :: back)) :
    Explained ((Session.start setting).attempts (calls ++ [call]))
      (((Session.start setting).run calls).lines ++ front) back header ∧
    (setting.format = .file → ∀ attempt ∈ (Session.start setting).attempts (calls ++ [call]),
      attempt.Stamped (((Session.start setting).run calls).call call).fed) := by
  obtain ⟨balanced, same⟩ := balanced_run setting calls
  have idle := idle_run setting calls
  rw [← same] at idle
  obtain ⟨_, lines, whole, explained⟩ := call_recalls balanced.nothing_held idle (recalls_run setting calls) call
  constructor
  · rw [attempts_append, attempts_singleton]
    exact explained front header bytes reason back (List.append_cancel_left (whole.symm.trans answered))
  · intro file
    have stamped := attempts_stamped file (calls ++ [call])
    rw [run_append, run_singleton] at stamped
    exact stamped

def overlong : Bytes :=
  [0x44, 0x4C, 0x54, 1, 200, 0, 0, 0, 0, 0, 0, 0, 0x45, 0x43, 0x55, 0x32, 0x21, 0, 0, 15, 0x41, 0, 0x41, 0x50, 0x50,
    0x31, 0x43, 0x54, 0x58, 0x31, 0]

def behindOverlong : Bytes :=
  [0x44, 0x4C, 0x54, 1, 44, 1, 0, 0, 0, 0, 0, 0, 0x45, 0x43, 0x55, 0x33, 0x20, 0, 0, 8, 2, 0, 0, 0]

def afterOverlong : Builder := { Builder.start .recorded with time := ⟨200, 0⟩, lastEcuId := "ECU2" }

def skippedOverlong : Builder :=
  { afterOverlong with skip := ⟨31, some SkipReason.invalidPacket.text, ⟨200, 0⟩, false, .zero, 0⟩ }

theorem overlong_reported : ∃ header line,
    ((Session.start (plainSetting .file)).call (.feed (overlong ++ behindOverlong))).lines =
      [.skipped header 31 (some SkipReason.invalidPacket.text), line] ∧
    header.position = 0 ∧ header.time = ⟨200, 0⟩ ∧ header.ecuId = "ECU3" ∧ line.header.ecuId = "ECU3" := by
  have nothing_held : (Session.start (plainSetting .file)).decoder.heldBack = none := rfl
  have rejected : Move.next (plainSetting .file) false ⟨overlong ++ behindOverlong, 0⟩ (Builder.start .recorded) =
      .giveUp 4 .invalidPacket afterOverlong := rfl
  have searched : Move.next (plainSetting .file) false ⟨overlong.drop 4 ++ behindOverlong, 4⟩
      (Pass.skip afterOverlong 4 0 .invalidPacket) =
      .giveUp 27 .searching (Pass.skip afterOverlong 4 0 .invalidPacket) := rfl
  obtain ⟨line, after, read, device, known, span⟩ : ∃ line after,
      Move.next (plainSetting .file) false ⟨behindOverlong, 31⟩ skippedOverlong = .packet 24 line after ∧
        line.header.ecuId = "ECU3" ∧ after.lastEcuId = "ECU3" ∧ after.skip = skippedOverlong.skip :=
    ⟨_, _, rfl, rfl, rfl, rfl⟩
  have swept : (Sweep.run (plainSetting .file) false ⟨overlong ++ behindOverlong, 0⟩ (Builder.start .recorded)).lines =
      (Pass.deliver line (Cursor.advance ⟨behindOverlong, 31⟩ 24) after).lines := by
    have rest : Sweep.run (plainSetting .file) false (Cursor.advance ⟨behindOverlong, 31⟩ 24)
        (Pass.deliver line (Cursor.advance ⟨behindOverlong, 31⟩ 24) after).builder = ⟨[], _, _⟩ :=
      Sweep.run_nothing rfl (deliver_reported ..)
    have third := Sweep.run_packet read
    rw [rest, Sweep.behind, List.append_nil] at third
    exact congrArg Sweep.lines ((Sweep.run_giveUp rejected).trans ((Sweep.run_giveUp searched).trans third))
  have open_span : ¬ after.skip.bytes = 0 := by
    rw [span]
    decide
  refine ⟨(after.takeSkipped.1.withNumber line.number).header, line.withNumber after.takeSkipped.1.number,
    ?_, ?_, ?_, known, ?_⟩
  · rw [lines_feed nothing_held]
    refine (List.nil_append _).trans (swept.trans ?_)
    rw [Pass.deliver, if_neg open_span, Builder.takeSkipped, span]
    rfl
  · exact congrArg SkipSpan.position span
  · exact congrArg SkipSpan.time span
  · rw [header_withNumber]
    exact device

theorem overlong_report_explained : ∃ header line,
    ((Session.start (plainSetting .file)).call (.feed (overlong ++ behindOverlong))).lines =
      [.skipped header 31 (some SkipReason.invalidPacket.text), line] ∧
    Explained ((Session.start (plainSetting .file)).attempts [.feed (overlong ++ behindOverlong)]) [] [line] header ∧
    ∀ attempt ∈ (Session.start (plainSetting .file)).attempts [.feed (overlong ++ behindOverlong)],
      attempt.Stamped (overlong ++ behindOverlong) := by
  obtain ⟨header, line, lines, _⟩ := overlong_reported
  obtain ⟨explained, stamped⟩ := reports_know_the_last_packet_tried (plainSetting .file) []
    (.feed (overlong ++ behindOverlong)) [] [line] header 31 _ lines
  exact ⟨header, line, lines, explained, stamped rfl⟩

/-- Before the first line that reports no skipped bytes, a report has a time and a device all the same. -/
theorem report_has_time_of_rejected_packet : ∃ header line,
    ((Session.start (plainSetting .file)).call (.feed (overlong ++ behindOverlong))).lines =
      [.skipped header 31 (some SkipReason.invalidPacket.text), line] ∧
    header.time ≠ .epoch ∧ header.ecuId ≠ "" := by
  obtain ⟨header, line, lines, _, time, ecuId, _⟩ := overlong_reported
  have captured : header.time ≠ .epoch := by
    rw [time]
    decide
  have named : header.ecuId ≠ "" := by
    rw [ecuId]
    decide
  exact ⟨header, line, lines, captured, named⟩

end Session

end Stream

end DiagTrace
