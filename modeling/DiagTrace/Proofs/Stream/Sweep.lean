import DiagTrace.Stream.Decoder

/-!
All lines of one input in a single recursion. A sweep makes one move at a time: it stops, gives bytes up, or
reads a packet. `drain_eq_run` says that draining a decoder is the line held back and then a sweep.
-/
namespace DiagTrace

theorem Cursor.advance_front (front more : Bytes) (position : Nat) :
    Cursor.advance ⟨front ++ more, position⟩ front.length = ⟨more, position + front.length⟩ := by
  rw [advance, List.drop_left]

namespace Stream

/-- What the front of an input makes a decoder do next. -/
inductive Move where
  /-- No further packet can be looked for. -/
  | stop
  /-- These bytes start no packet. -/
  | giveUp (bytes : Nat) (reason : SkipReason) (builder : Builder)
  /-- A packet of this length was read. -/
  | packet (length : Nat) (line : Line) (builder : Builder)

namespace Move

def ofCandidate (setting : Setting) (input : Cursor) (builder : Builder) (length : Nat) : Move :=
  match Packet.decode setting builder (input.rest.take length) input.position with
  | (.ok line, builder) => packet length line builder
  | (.error _, builder) => giveUp setting.format.minimumDiscard .invalidPacket builder

def next (setting : Setting) (flush : Bool) (input : Cursor) (builder : Builder) : Move :=
  match Finding.ofBytes setting.format input.rest with
  | .short => stop
  | .noise bytes reason => giveUp bytes reason builder
  | .incomplete => if flush then giveUp setting.format.minimumDiscard .incomplete builder else stop
  | .candidate length => ofCandidate setting input builder length

variable {setting : Setting} {flush : Bool} {input : Cursor} {builder after : Builder}
variable {bytes length : Nat} {reason : SkipReason} {line : Line}

theorem next_of_candidate {packet more : Bytes}
    (found : Finding.ofBytes setting.format (packet ++ more) = .candidate packet.length) (flush : Bool)
    (builder : Builder) (position : Nat) :
    next setting flush ⟨packet ++ more, position⟩ builder =
      match Packet.decode setting builder packet position with
      | (.ok line, after) => .packet packet.length line after
      | (.error _, after) => giveUp setting.format.minimumDiscard .invalidPacket after := by
  have whole : (packet ++ more).take packet.length = packet := List.take_left
  unfold next
  simp only [found, ofCandidate, whole]

theorem next_packet (move : next setting flush input builder = .packet length line after) :
    Finding.ofBytes setting.format input.rest = .candidate length ∧
      Packet.decode setting builder (input.rest.take length) input.position = (.ok line, after) := by
  unfold next at move
  split at move
  · cases move
  · cases move
  · split at move <;> cases move
  · rename_i found
    unfold ofCandidate at move
    split at move
    · rename_i decoded
      cases move
      exact ⟨found, decoded⟩
    · cases move

/-- Bytes are given up for one of three reasons, and only a rejected packet touches the builder. -/
theorem next_giveUp (move : next setting flush input builder = .giveUp bytes reason after) :
    (Finding.ofBytes setting.format input.rest = .noise bytes reason ∧ after = builder) ∨
    (Finding.ofBytes setting.format input.rest = .incomplete ∧ flush = true ∧
      bytes = setting.format.minimumDiscard ∧ reason = .incomplete ∧ after = builder) ∨
    (∃ length fault, Finding.ofBytes setting.format input.rest = .candidate length ∧
      Packet.decode setting builder (input.rest.take length) input.position = (.error fault, after) ∧
      bytes = setting.format.minimumDiscard ∧ reason = .invalidPacket) := by
  unfold next at move
  split at move
  · cases move
  · rename_i found
    cases move
    exact .inl ⟨found, rfl⟩
  · rename_i found
    split at move
    · rename_i flushed
      cases move
      exact .inr (.inl ⟨found, flushed, rfl, rfl, rfl⟩)
    · cases move
  · rename_i found
    unfold ofCandidate at move
    split at move
    · cases move
    · rename_i fault _ decoded
      cases move
      exact .inr (.inr ⟨_, fault, found, decoded, rfl, rfl⟩)

theorem next_stop (move : next setting flush input builder = .stop) :
    Finding.ofBytes setting.format input.rest = .short ∨
      Finding.ofBytes setting.format input.rest = .incomplete ∧ flush = false := by
  unfold next at move
  split at move
  · rename_i found
    exact .inl found
  · cases move
  · rename_i found
    split at move
    · cases move
    · rename_i unflushed
      exact .inr ⟨found, by simpa using unflushed⟩
  · unfold ofCandidate at move
    split at move <;> cases move

theorem next_flushed {other : Move} (move : next setting false input builder = other)
    (moves : other ≠ .stop) : next setting true input builder = other := by
  subst move
  unfold next at *
  split at moves
  · exact absurd rfl moves
  · rfl
  · exact absurd rfl moves
  · rfl

theorem packet_bounds (move : next setting flush input builder = .packet length line after) :
    4 ≤ length ∧ length ≤ input.rest.length :=
  Finding.candidate_bounds (next_packet move).1

theorem giveUp_bounds (move : next setting flush input builder = .giveUp bytes reason after) :
    0 < bytes ∧ bytes ≤ input.rest.length := by
  have positive := Finding.minimumDiscard_pos setting.format
  have least := Finding.minimumDiscard_le setting.format
  rcases next_giveUp move with ⟨found, _⟩ | ⟨found, _, rfl, _⟩ | ⟨_, _, found, _, rfl, _⟩
  · exact Finding.noise_bounds found
  · have present := Finding.four_le_length (by rw [found]; exact Finding.noConfusion)
    omega
  · have present := Finding.four_le_length (by rw [found]; exact Finding.noConfusion)
    omega

end Move

theorem Pass.scan_eq_next (setting : Setting) (flush : Bool) (input : Cursor) (builder : Builder) :
    Pass.scan setting flush input builder =
      match Move.next setting flush input builder with
      | .stop => if flush then Pass.atEnd input builder else ⟨.needMore, input, builder⟩
      | .giveUp bytes reason after =>
        Pass.scan setting flush (input.advance bytes) (Pass.skip after bytes input.position reason)
      | .packet length line after => Pass.deliver line (input.advance length) after := by
  rw [Pass.scan, Move.next]
  split
  · rename_i found
    simp only [found]
  · rename_i found
    simp only [found]
  · rename_i found
    simp only [found]
    cases flush <;> simp
  · rename_i length found
    simp only [found, Move.ofCandidate]
    rcases Packet.decode setting builder (input.rest.take length) input.position with ⟨_ | _, _⟩
    · rfl
    · rfl

namespace Pass

def lines (pass : Pass) : List Line :=
  match pass.delivery with
  | .line line heldBack => line :: heldBack.toList
  | .needMore => []

theorem atEnd_spent (input : Cursor) (builder : Builder) :
    (atEnd input builder).rest.rest = [] ∧ (atEnd input builder).builder.skip.bytes = 0 := by
  have last : (input.advance input.remaining).rest = [] := List.drop_length
  unfold atEnd
  simp only
  split
  · rename_i reported
    exact ⟨last, reported⟩
  · exact ⟨last, rfl⟩

end Pass

structure Sweep where
  lines : List Line
  rest : Cursor
  builder : Builder

namespace Sweep

def behind (pass : Pass) (sweep : Sweep) : Sweep := { sweep with lines := pass.lines ++ sweep.lines }

def atStop (flush : Bool) (input : Cursor) (builder : Builder) : Sweep :=
  if flush then
    ⟨(Pass.atEnd input builder).lines, (Pass.atEnd input builder).rest, (Pass.atEnd input builder).builder⟩
  else ⟨[], input, builder⟩

def run (setting : Setting) (flush : Bool) (input : Cursor) (builder : Builder) : Sweep :=
  match move : Move.next setting flush input builder with
  | .stop => atStop flush input builder
  | .giveUp bytes reason after =>
    have := Move.giveUp_bounds move
    run setting flush (input.advance bytes) (Pass.skip after bytes input.position reason)
  | .packet length line after =>
    have := Move.packet_bounds move
    behind (Pass.deliver line (input.advance length) after)
      (run setting flush (input.advance length) (Pass.deliver line (input.advance length) after).builder)
termination_by input.rest.length
decreasing_by all_goals simp only [Cursor.advance, List.length_drop]; omega

variable {setting : Setting} {flush : Bool} {input : Cursor} {builder after : Builder}
variable {bytes length : Nat} {reason : SkipReason} {line : Line}

theorem run_stop (move : Move.next setting flush input builder = .stop) :
    run setting flush input builder = atStop flush input builder := by
  rw [run]
  split <;> rename_i other <;> rw [move] at other <;> cases other

theorem run_giveUp (move : Move.next setting flush input builder = .giveUp bytes reason after) :
    run setting flush input builder =
      run setting flush (input.advance bytes) (Pass.skip after bytes input.position reason) := by
  rw [run]
  split <;> rename_i other <;> rw [move] at other <;> cases other
  rfl

theorem run_packet (move : Move.next setting flush input builder = .packet length line after) :
    run setting flush input builder =
      behind (Pass.deliver line (input.advance length) after)
        (run setting flush (input.advance length)
          (Pass.deliver line (input.advance length) after).builder) := by
  rw [run]
  split <;> rename_i other <;> rw [move] at other <;> cases other
  rfl

theorem run_nothing (empty : input.rest = []) (reported : builder.skip.bytes = 0) :
    run setting flush input builder = ⟨[], input, builder⟩ := by
  have move : Move.next setting flush input builder = .stop := by
    cases format : setting.format <;>
      simp [Move.next, Finding.ofBytes, format, empty, Bytes.hasAtLeast, CaptureFormat.headerOffset,
        StorageHeader.length]
  obtain ⟨rest, position⟩ := input
  cases empty
  rw [run_stop move, atStop]
  cases flush
  · rfl
  · simp [Pass.lines, Pass.atEnd, Pass.skip, Cursor.remaining, Cursor.advance, reported]

theorem run_alone {packet : Bytes} {position : Nat}
    (move : Move.next setting flush ⟨packet, position⟩ builder = .packet packet.length line after)
    (reported : after.skip.bytes = 0) :
    run setting flush ⟨packet, position⟩ builder = ⟨[line], ⟨[], position + packet.length⟩, after⟩ := by
  have behind_it : Cursor.advance ⟨packet, position⟩ packet.length = ⟨[], position + packet.length⟩ := by
    rw [Cursor.advance, List.drop_length]
  have nothing : run setting flush ⟨[], position + packet.length⟩ after =
      ⟨[], ⟨[], position + packet.length⟩, after⟩ := run_nothing rfl reported
  rw [run_packet move, Pass.deliver, if_pos reported, behind_it, nothing]
  rfl

theorem atEnd_run (input : Cursor) (builder : Builder) (flush : Bool) :
    run setting flush (Pass.atEnd input builder).rest (Pass.atEnd input builder).builder =
      ⟨[], (Pass.atEnd input builder).rest, (Pass.atEnd input builder).builder⟩ := by
  obtain ⟨spent, reported⟩ := Pass.atEnd_spent input builder
  exact run_nothing spent reported

theorem run_empties (setting : Setting) (input : Cursor) (builder : Builder) :
    (run setting true input builder).rest.rest = [] ∧ (run setting true input builder).builder.skip.bytes = 0 := by
  induction input, builder using run.induct setting true with
  | case1 input builder move =>
    rw [run_stop move]
    exact Pass.atEnd_spent input builder
  | case2 input builder bytes reason after move bounds ih =>
    rw [run_giveUp move]
    exact ih
  | case3 input builder length line after move bounds ih =>
    rw [run_packet move]
    exact ih

/-- A sweep is one pass after another. -/
theorem run_eq_scan (setting : Setting) (flush : Bool) (input : Cursor) (builder : Builder) :
    run setting flush input builder =
      match (Pass.scan setting flush input builder).delivery with
      | .line _ _ =>
        behind (Pass.scan setting flush input builder)
          (run setting flush (Pass.scan setting flush input builder).rest
            (Pass.scan setting flush input builder).builder)
      | .needMore =>
        ⟨[], (Pass.scan setting flush input builder).rest,
          (Pass.scan setting flush input builder).builder⟩ := by
  fun_induction run setting flush input builder with
  | case1 input builder move =>
    rw [Pass.scan_eq_next, move]
    cases flush
    · rfl
    · simp only [atStop, ↓reduceIte, atEnd_run, behind, List.append_nil]
      split <;> simp [Pass.lines, *]
  | case2 input builder bytes reason after move bounds ih =>
    rw [Pass.scan_eq_next, move]
    exact ih
  | case3 input builder length line after move bounds ih =>
    rw [Pass.scan_eq_next, move]
    simp only [Pass.deliver]
    split <;> rfl

end Sweep

namespace Decoder

theorem drain_eq_run (decoder : Decoder) (flush : Bool) (input : Cursor) (done : List Line) :
    decoder.drain flush input done =
      let sweep := Sweep.run decoder.setting flush input decoder.builder
      (done.reverse ++ decoder.heldBack.toList ++ sweep.lines,
        ⟨decoder.setting, sweep.builder, none, sweep.rest⟩) := by
  fun_induction drain flush decoder input done with
  | case1 decoder input done line rest next step less ih =>
    rw [ih]
    unfold Decoder.step at step
    split at step
    · rename_i waiting
      cases step
      simp [waiting]
    · rename_i nothing
      simp only at step
      split at step <;> cases step
      rename_i delivered
      rw [Sweep.run_eq_scan decoder.setting flush input decoder.builder, delivered]
      simp [nothing, Sweep.behind, Pass.lines, delivered]
  | case2 decoder input done rest next step =>
    unfold Decoder.step at step
    split at step
    · cases step
    · rename_i nothing
      simp only at step
      split at step <;> cases step
      rename_i delivered
      rw [Sweep.run_eq_scan decoder.setting flush input decoder.builder, delivered]
      simp [nothing]

theorem feed_eq_run (decoder : Decoder) (data : Bytes) :
    decoder.feed data =
      let sweep := Sweep.run decoder.setting false
        ⟨decoder.input.rest ++ data, decoder.input.position⟩ decoder.builder
      (decoder.heldBack.toList ++ sweep.lines, ⟨decoder.setting, sweep.builder, none, sweep.rest⟩) := by
  simp [feed, drain_eq_run]

theorem flush_eq_run (decoder : Decoder) :
    decoder.flush =
      let sweep := Sweep.run decoder.setting true decoder.input decoder.builder
      (decoder.heldBack.toList ++ sweep.lines, ⟨decoder.setting, sweep.builder, none, sweep.rest⟩) := by
  simp [flush, drain_eq_run]

theorem decodeAll_alone {setting : Setting} {clock : Clock} {packet : Bytes} {line : Line} {after : Builder}
    (move : Move.next setting false ⟨packet, 0⟩ (Builder.start clock) = .packet packet.length line after)
    (reported : after.skip.bytes = 0) : ((start setting clock).decodeAll packet).1 = [line] := by
  have fed : (start setting clock).feed packet = ([line], ⟨setting, after, none, ⟨[], 0 + packet.length⟩⟩) := by
    rw [feed_eq_run]
    simp only [start, Cursor.ofBytes, List.nil_append, Sweep.run_alone move reported]
    rfl
  have flushed : Sweep.run setting true ⟨[], 0 + packet.length⟩ after = ⟨[], ⟨[], 0 + packet.length⟩, after⟩ :=
    Sweep.run_nothing rfl reported
  simp only [decodeAll, fed, flush_eq_run, flushed]
  rfl

end Decoder

end Stream

end DiagTrace
