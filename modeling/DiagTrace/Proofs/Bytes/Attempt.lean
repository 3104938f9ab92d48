import DiagTrace.Proofs.Bytes.Schedule

/-!
A reader that is asked for one thing after the other, and goes on after a failure. It keeps one buffer and a position in
it, and its effects are spelled out one by one; `perform_eq` says that they are those of a cursor. The reads that
succeed cover the buffer from its start without gap or overlap, and those that fail leave no trace.
-/
namespace DiagTrace

structure Reader where
  buffer : Bytes
  position : Nat
  order : ByteOrder

namespace Reader

inductive Call where
  | read (type : FieldType)
  | skip (n : Nat)

namespace Call

def size : Call → Nat
  | read type => type.size
  | skip n => n

def ofBytes (order : ByteOrder) : Call → Bytes → Option Field
  | read type, bs => some (type.ofBytes order bs)
  | skip _, _ => none

def step (order : ByteOrder) : Call → Read (Option Field)
  | read type => do return some (← type.read order)
  | skip n => do
    Read.skip n
    return none

theorem step_eq (order : ByteOrder) (call : Call) (cursor : Cursor) :
    call.step order cursor =
      if call.size ≤ cursor.rest.length then
        .ok (call.ofBytes order (cursor.rest.take call.size), cursor.advance call.size)
      else .error (.truncated call.size cursor.rest.length) := by
  have taken : call.step order = Read.take call.size >>= fun bs => pure (call.ofBytes order bs) := by
    cases call with
    | read type =>
      simp only [step, FieldType.read_eq, bind_assoc, pure_bind]
      rfl
    | skip n =>
      simp only [step, Read.skip, bind_assoc, pure_bind]
      rfl
  rw [taken]
  by_cases room : call.size ≤ cursor.rest.length
  · rw [if_pos room]
    simp only [bind, StateT.bind, Except.bind, Read.take, Bytes.hasAtLeast_iff, if_pos room]
    rfl
  · rw [if_neg room]
    simp only [bind, StateT.bind, Except.bind, Read.take, Bytes.hasAtLeast_iff, if_neg room]
    rfl

end Call

variable {reader : Reader} {call : Call}

def start (order : ByteOrder) (buffer : Bytes) : Reader := ⟨buffer, 0, order⟩

def remaining (reader : Reader) : Nat := reader.buffer.length - reader.position

def cursor (reader : Reader) : Cursor := ⟨reader.buffer.drop reader.position, reader.position⟩

def moveTo (reader : Reader) (position : Nat) : Reader := { reader with position }

section Effects

/-- An effect on a reader; one that fails leaves behind what it has done. -/
abbrev Effect := EStateM Fault Reader

def take (n : Nat) : Effect Bytes := do
  let reader ← get
  if reader.remaining < n then throw (.truncated n reader.remaining)
  let bs := (reader.buffer.drop reader.position).take n
  modify fun reader => reader.moveTo (reader.position + n)
  return bs

def perform (call : Call) : Effect (Option Field) := do
  let bs ← take call.size
  return call.ofBytes (← get).order bs

theorem run_take (reader : Reader) (n : Nat) :
    (take n).run reader =
      if reader.remaining < n then .error (.truncated n reader.remaining) reader
      else .ok ((reader.buffer.drop reader.position).take n) (reader.moveTo (reader.position + n)) := by
  have branches : (take n).run reader =
      (do if reader.remaining < n then throw (.truncated n reader.remaining)
          modify fun reader => reader.moveTo (reader.position + n)
          return (reader.buffer.drop reader.position).take n : Effect Bytes).run reader := rfl
  rw [branches]
  split <;> rfl

theorem run_perform (reader : Reader) (call : Call) :
    (perform call).run reader =
      if reader.remaining < call.size then .error (.truncated call.size reader.remaining) reader
      else .ok (call.ofBytes reader.order ((reader.buffer.drop reader.position).take call.size))
        (reader.moveTo (reader.position + call.size)) := by
  rw [perform, EStateM.run_bind, run_take]
  by_cases short : reader.remaining < call.size
  · rw [if_pos short, if_pos short]
  · rw [if_neg short, if_neg short]
    rfl

/-- The effects of a call are the step of a cursor, and a call that fails has none. -/
theorem perform_eq (reader : Reader) (call : Call) :
    (perform call).run reader =
      match call.step reader.order reader.cursor with
      | .ok (value, next) => .ok value (reader.moveTo next.position)
      | .error fault => .error fault reader := by
  have unread : reader.cursor.rest.length = reader.remaining := List.length_drop
  rw [run_perform, Call.step_eq, unread]
  by_cases short : reader.remaining < call.size
  · rw [if_pos short, if_neg (Nat.not_le.mpr short)]
  · rw [if_neg short, if_pos (Nat.not_lt.mp short)]
    rfl

theorem cursor_moveTo (reader : Reader) (n : Nat) :
    (reader.moveTo (reader.position + n)).cursor = reader.cursor.advance n :=
  congrArg (Cursor.mk · (reader.position + n)) List.drop_drop.symm

end Effects

structure Attempt where
  call : Call
  start : Nat
  outcome : Except Fault (Option Field)

def Attempt.span (attempt : Attempt) : Option (Nat × Nat) :=
  match attempt.outcome with
  | .ok _ => some (attempt.start, attempt.call.size)
  | .error _ => none

def attempt (reader : Reader) (call : Call) : Attempt × Reader :=
  match (perform call).run reader with
  | .ok value next => (⟨call, reader.position, .ok value⟩, next)
  | .error fault next => (⟨call, reader.position, .error fault⟩, next)

def run : Reader → List Call → List Attempt × Reader
  | reader, [] => ([], reader)
  | reader, call :: calls =>
    ((reader.attempt call).1 :: ((reader.attempt call).2.run calls).1, ((reader.attempt call).2.run calls).2)

def outcome (buffer : Bytes) (order : ByteOrder) (call : Call) (start : Nat) : Except Fault (Option Field) :=
  if start + call.size ≤ buffer.length then .ok (call.ofBytes order ((buffer.drop start).take call.size))
  else .error (.truncated call.size (buffer.length - start))

def Inside (reader : Reader) : Prop := reader.position ≤ reader.buffer.length

theorem inside_start (order : ByteOrder) (buffer : Bytes) : (start order buffer).Inside := Nat.zero_le buffer.length

theorem attempt_cases (inside : reader.Inside) (call : Call) :
    (∃ value, reader.attempt call =
        (⟨call, reader.position, .ok value⟩, reader.moveTo (reader.position + call.size)) ∧
      outcome reader.buffer reader.order call reader.position = .ok value ∧
      reader.position + call.size ≤ reader.buffer.length) ∨
    (∃ fault, reader.attempt call = (⟨call, reader.position, .error fault⟩, reader) ∧
      outcome reader.buffer reader.order call reader.position = .error fault) := by
  have short_iff : reader.remaining < call.size ↔ ¬ reader.position + call.size ≤ reader.buffer.length := by
    unfold Inside at inside
    unfold remaining
    omega
  rw [attempt, run_perform, outcome]
  by_cases room : reader.position + call.size ≤ reader.buffer.length
  · rw [if_neg (fun short => short_iff.mp short room), if_pos room]
    exact .inl ⟨_, rfl, rfl, room⟩
  · rw [if_pos (short_iff.mpr room), if_neg room]
    exact .inr ⟨_, rfl, rfl⟩

theorem inside_attempt (inside : reader.Inside) (call : Call) : (reader.attempt call).2.Inside := by
  obtain ⟨_, done, _, room⟩ | ⟨_, failed, _⟩ := attempt_cases inside call
  · rw [done]
    exact room
  · rw [failed]
    exact inside

theorem attempt_keeps (reader : Reader) (call : Call) :
    (reader.attempt call).2.buffer = reader.buffer ∧ (reader.attempt call).2.order = reader.order := by
  rw [attempt, run_perform]
  by_cases short : reader.remaining < call.size
  · rw [if_pos short]
    exact ⟨rfl, rfl⟩
  · rw [if_neg short]
    exact ⟨rfl, rfl⟩

theorem reader_of_failed {fault : Fault} (failed : (reader.attempt call).1.outcome = .error fault) :
    (reader.attempt call).2 = reader := by
  rw [attempt, run_perform] at failed ⊢
  by_cases short : reader.remaining < call.size
  · rw [if_pos short]
  · rw [if_neg short] at failed
    nomatch failed

section Runs

/-- Places and numbers of bytes that cover what lies between two positions, without gap or overlap. -/
inductive Consecutive : Nat → List (Nat × Nat) → Nat → Prop where
  | nil {position : Nat} : Consecutive position [] position
  | cons {position size stop : Nat} {spans : List (Nat × Nat)} (rest : Consecutive (position + size) spans stop) :
    Consecutive position ((position, size) :: spans) stop

variable {calls : List Call}

theorem consecutive_run (inside : reader.Inside) (calls : List Call) :
    Consecutive reader.position ((reader.run calls).1.filterMap Attempt.span) (reader.run calls).2.position := by
  induction calls generalizing reader with
  | nil => exact .nil
  | cons call calls ih =>
    have later := ih (inside_attempt inside call)
    rw [run]
    obtain ⟨_, done, -⟩ | ⟨_, failed, -⟩ := attempt_cases inside call
    · rw [done] at later ⊢
      exact .cons later
    · rw [failed] at later ⊢
      exact later

theorem inside_run (inside : reader.Inside) (calls : List Call) : (reader.run calls).2.Inside := by
  induction calls generalizing reader with
  | nil => exact inside
  | cons call calls ih => exact ih (inside_attempt inside call)

theorem run_keeps (reader : Reader) (calls : List Call) :
    (reader.run calls).2.buffer = reader.buffer ∧ (reader.run calls).2.order = reader.order := by
  induction calls generalizing reader with
  | nil => exact ⟨rfl, rfl⟩
  | cons call calls ih =>
    have kept := reader.attempt_keeps call
    rw [← kept.1, ← kept.2]
    exact ih (reader.attempt call).2

theorem calls_of_run (reader : Reader) (calls : List Call) : (reader.run calls).1.map Attempt.call = calls := by
  induction calls generalizing reader with
  | nil => rfl
  | cons call calls ih =>
    have same : (reader.attempt call).1.call = call := by
      rw [attempt]
      split <;> rfl
    rw [run, List.map_cons, same, ih]

theorem outcome_of_run (inside : reader.Inside) (calls : List Call) :
    ∀ attempt ∈ (reader.run calls).1,
      attempt.outcome = outcome reader.buffer reader.order attempt.call attempt.start := by
  induction calls generalizing reader with
  | nil => exact fun _ absent => nomatch absent
  | cons call calls ih =>
    intro attempt present
    rcases List.mem_cons.mp present with rfl | later
    · obtain ⟨_, done, gives, _⟩ | ⟨_, failed, gives⟩ := attempt_cases inside call
      · rw [done, gives]
      · rw [failed, gives]
    · have kept := reader.attempt_keeps call
      rw [← kept.1, ← kept.2]
      exact ih (inside_attempt inside call) attempt later

/-- A call that failed could as well not have been made: the others find what they found, and give what they gave. -/
theorem run_eraseIdx {attempt : Attempt} {fault : Fault} {i : Nat}
    (made : (reader.run calls).1[i]? = some attempt) (failed : attempt.outcome = .error fault) :
    reader.run (calls.eraseIdx i) = ((reader.run calls).1.eraseIdx i, (reader.run calls).2) := by
  induction calls generalizing reader i with
  | nil => nomatch made
  | cons call calls ih =>
    cases i with
    | zero =>
      obtain rfl : (reader.attempt call).1 = attempt := Option.some.inj made
      rw [run, reader_of_failed failed]
      rfl
    | succ i => rw [List.eraseIdx_cons_succ, run, ih made, run, List.eraseIdx_cons_succ]

def onCursor (order : ByteOrder) : Cursor → List Call → List (Except Fault (Option Field)) × Cursor
  | cursor, [] => ([], cursor)
  | cursor, call :: calls =>
    match call.step order cursor with
    | .ok (value, next) => (.ok value :: (onCursor order next calls).1, (onCursor order next calls).2)
    | .error fault => (.error fault :: (onCursor order cursor calls).1, (onCursor order cursor calls).2)

theorem onCursor_eq (reader : Reader) (calls : List Call) :
    onCursor reader.order reader.cursor calls =
      ((reader.run calls).1.map Attempt.outcome, (reader.run calls).2.cursor) := by
  induction calls generalizing reader with
  | nil => rfl
  | cons call calls ih =>
    have later := ih (reader.attempt call).2
    rw [(reader.attempt_keeps call).2] at later
    have unread : reader.cursor.rest.length = reader.remaining := List.length_drop
    rw [run, onCursor, Call.step_eq, unread]
    rw [attempt, run_perform] at later ⊢
    by_cases short : reader.remaining < call.size
    · rw [if_pos short] at later ⊢
      rw [if_neg (Nat.not_le.mpr short)]
      simp only [List.map_cons, later]
    · rw [if_neg short] at later ⊢
      rw [cursor_moveTo] at later
      rw [if_pos (Nat.not_lt.mp short)]
      simp only [List.map_cons, later]
      rfl

/-- What is true of all attempts on a buffer, those that succeeded and those that failed. -/
structure Accounted (order : ByteOrder) (buffer : Bytes) (calls : List Call) (attempts : List Attempt)
    (last : Reader) : Prop where
  made : attempts.map Attempt.call = calls
  cursors : onCursor order (Cursor.ofBytes buffer) calls = (attempts.map Attempt.outcome, last.cursor)
  balance : last.position + last.remaining = buffer.length
  consecutive : Consecutive 0 (attempts.filterMap Attempt.span) last.position
  settled : ∀ attempt ∈ attempts, attempt.outcome = outcome buffer order attempt.call attempt.start
  untried : ∀ i attempt fault, attempts[i]? = some attempt → attempt.outcome = .error fault →
    (start order buffer).run (calls.eraseIdx i) = (attempts.eraseIdx i, last)

theorem accounted (order : ByteOrder) (buffer : Bytes) (calls : List Call) :
    Accounted order buffer calls ((start order buffer).run calls).1 ((start order buffer).run calls).2 where
  made := calls_of_run _ calls
  cursors := onCursor_eq (start order buffer) calls
  balance := by
    have inside : _ ≤ _ := inside_run (inside_start order buffer) calls
    have same : _ = buffer := (run_keeps (start order buffer) calls).1
    rw [remaining, Nat.add_sub_cancel' inside, same]
  consecutive := consecutive_run (inside_start order buffer) calls
  settled := outcome_of_run (inside_start order buffer) calls
  untried _ _ _ made failed := run_eraseIdx made failed

/-- Fields that were written are read again, with their numbers reversed where the byte order is the other one; and
whatever is asked for, a reader gives what a cursor gives, accounts for every byte, and forgets what failed. -/
theorem schedules_come_back_and_failures_leave_no_trace :
    (∀ (order : ByteOrder) (fields : List Field), (∀ field ∈ fields, field.Fits) →
      Read.each (FieldType.read order) (fields.map Field.type) (Cursor.ofBytes (Writer.putAll order fields)) =
          .ok (fields, ⟨[], (Writer.putAll order fields).length⟩) ∧
        Read.each (FieldType.read order.other) (fields.map Field.type)
            (Cursor.ofBytes (Writer.putAll order fields)) =
          .ok (fields.map Field.reversed, ⟨[], (Writer.putAll order fields).length⟩)) ∧
    (∀ (reader : Reader) (call : Call),
      (perform call).run reader =
        match call.step reader.order reader.cursor with
        | .ok (value, next) => .ok value (reader.moveTo next.position)
        | .error fault => .error fault reader) ∧
    ∀ (order : ByteOrder) (buffer : Bytes) (calls : List Call),
      Accounted order buffer calls ((start order buffer).run calls).1 ((start order buffer).run calls).2 := by
  refine ⟨fun order fields fits => ⟨?_, ?_⟩, perform_eq, accounted⟩
  · have read := Writer.each_putAll fun field present => Field.ofBytes_encode (fits field present) order
    rwa [List.map_id'] at read
  · exact Writer.each_putAll fun field present => Field.ofBytes_other_encode (fits field present) order

def mixedFields : List Field := [.unsigned .w16 258, .signed .w32 (-2), .ident "ECU", .bytes [9, 9]]

theorem mixedFields_come_back :
    (∀ field ∈ mixedFields, field.Fits) ∧
    Writer.putAll .big mixedFields = [1, 2, 255, 255, 255, 254, 69, 67, 85, 0, 9, 9] ∧
    Read.each (FieldType.read .big) (mixedFields.map Field.type) (Cursor.ofBytes (Writer.putAll .big mixedFields)) =
      .ok (mixedFields, ⟨[], 12⟩) ∧
    Read.each (FieldType.read .little) (mixedFields.map Field.type)
        (Cursor.ofBytes (Writer.putAll .big mixedFields)) =
      .ok ([.unsigned .w16 513, .signed .w32 (-16777217), .ident "ECU", .bytes [9, 9]], ⟨[], 12⟩) := by
  have fits : ∀ field ∈ mixedFields, field.Fits := by
    have number : 258 < Bytes.capacity Width.w16.bytes := by decide
    have negative : TwosComplement.Fits Width.w32.bytes (-2) := ⟨by decide, by decide⟩
    have plain : Ident.Plain "ECU" := by decide
    simp only [mixedFields, List.forall_mem_cons]
    exact ⟨number, negative, plain, trivial, fun _ absent => nomatch absent⟩
  obtain ⟨back, other⟩ := schedules_come_back_and_failures_leave_no_trace.1 .big mixedFields fits
  exact ⟨fits, rfl, back, other⟩

end Runs

end Reader

end DiagTrace
