import DiagTrace.Proofs.Stream.Resync

/-!
Where the lines of a decoder come from: each line that reports no skipped bytes stands at a packet of the stream,
and a new decoder reads the same from this packet alone.
-/
namespace DiagTrace.Stream

/-- A new builder reads the line from bytes of the stream, but for its place and its number. -/
def ReadFrom (setting : Setting) (stream : Bytes) (line : Line) : Prop :=
  ∃ position number length fresh, position + length ≤ stream.length ∧
    (Packet.decode setting (Builder.start .recorded) ((stream.drop position).take length) 0).1 = .ok fresh ∧
    line = fresh.placedAt position number

variable {setting : Setting} {stream : Bytes} {line : Line}

theorem readFrom_more (origin : ReadFrom setting stream line) (more : Bytes) :
    ReadFrom setting (stream ++ more) line := by
  obtain ⟨position, number, length, fresh, inside, read, placed⟩ := origin
  refine ⟨position, number, length, fresh, ?_, ?_, placed⟩
  · rw [List.length_append]
    exact Nat.le_add_right_of_le inside
  · rw [Bytes.take_drop_append stream more _ _ inside]
    exact read

theorem readFrom_withNumber (origin : ReadFrom setting stream line) (number : Nat) :
    ReadFrom setting stream (line.withNumber number) := by
  obtain ⟨position, before, length, fresh, inside, read, rfl⟩ := origin
  refine ⟨position, number, length, fresh, inside, read, ?_⟩
  cases fresh <;> rfl

section Sweep

variable {flush : Bool} {input : Cursor} {builder after : Builder} {length : Nat}

theorem atStop_skipped (flush : Bool) (input : Cursor) (builder : Builder) :
    ∀ line ∈ (Sweep.atStop flush input builder).lines, line.isSkipped = true := by
  intro line present
  cases flush with
  | false => cases present
  | true =>
    simp only [Sweep.atStop, Pass.atEnd, ↓reduceIte] at present
    split at present
    · cases present
    · obtain rfl := List.mem_singleton.mp present
      rfl

theorem deliver_whole {line other : Line} {rest : Cursor} {builder : Builder}
    (present : other ∈ (Pass.deliver line rest builder).lines) (whole : other.isSkipped = false) :
    ∃ number, other = line.withNumber number := by
  simp only [Pass.deliver] at present
  split at present
  · refine ⟨line.number, (List.mem_singleton.mp present).trans ?_⟩
    cases line <;> rfl
  · rcases List.mem_cons.mp present with rfl | second
    · cases whole
    · exact ⟨_, List.mem_singleton.mp second⟩

theorem packet_readFrom (aligned : Aligned stream input builder) (idle : Idle setting.format builder)
    (move : Move.next setting flush input builder = .packet length line after) : ReadFrom setting stream line := by
  obtain ⟨_, decoded⟩ := Move.next_packet move
  have present := (Move.packet_bounds move).2
  have within := aligned.inside
  have read := Packet.decode_of_idle idle (input.rest.take length) input.position
  rw [decoded] at read
  rw [aligned.held, List.length_drop] at present
  cases begun : (Packet.decode setting (Builder.start .recorded) (input.rest.take length) 0).1 with
  | error fault =>
    rw [begun] at read
    cases read
  | ok fresh =>
    rw [begun] at read
    rw [aligned.held] at begun
    cases read
    exact ⟨input.position, builder.nextNumber, length, fresh, by omega, begun, rfl⟩

theorem run_readFrom (setting : Setting) (flush : Bool) (input : Cursor) (builder : Builder)
    (aligned : Aligned stream input builder) (idle : Idle setting.format builder) :
    ∀ line ∈ (Sweep.run setting flush input builder).lines, line.isSkipped = false → ReadFrom setting stream line := by
  fun_induction Sweep.run setting flush input builder with
  | case1 input builder move =>
    intro line present whole
    rw [atStop_skipped flush input builder line present] at whole
    cases whole
  | case2 input builder bytes reason after move bounds ih =>
    exact ih ((aligned.same_skip (giveUp_kept move).1).skip_bytes bounds.1 bounds.2)
      (idle_skip (idle_giveUp idle move) bytes input.position reason)
  | case3 input builder length line after move bounds ih =>
    obtain ⟨_, decoded⟩ := Move.next_packet move
    have left := Packet.decode_idle idle (input.rest.take length) input.position
    rw [decoded] at left
    have later := ih (aligned.advance bounds.2 (deliver_reported line (input.advance length) after))
      (idle_deliver left line (input.advance length))
    intro other present whole
    -- In front of the packet a report may stand, which takes its number.
    rcases List.mem_append.mp present with first | rest
    · obtain ⟨number, rfl⟩ := deliver_whole first whole
      exact readFrom_withNumber (packet_readFrom aligned idle move) number
    · exact later other rest whole

end Sweep

def Call.keepsSetting : Call → Bool
  | .adjust .. => false
  | _ => true

namespace Session

/-- Unless the setting is changed, every line but the reports was read from the bytes fed so far. -/
theorem lines_readFrom (setting : Setting) (calls : List Call) (steady : ∀ call ∈ calls, call.keepsSetting = true) :
    let session := (Session.start setting).run calls
    session.decoder.setting = setting ∧
      ∀ line ∈ session.lines, line.isSkipped = false → ReadFrom setting session.fed line := by
  induction calls using List.reverseRecOn with
  | nil => exact ⟨rfl, fun line present => nomatch present⟩
  | append_singleton calls call ih =>
    obtain ⟨same, before⟩ := ih fun other present => steady other (List.mem_append_left _ present)
    obtain ⟨balanced, _⟩ := balanced_run setting calls
    have idle := idle_run setting calls
    have kept := steady call (List.mem_append_right _ List.mem_cons_self)
    simp only [run_append, run_singleton]
    generalize (Session.start setting).run calls = session at same before balanced idle
    subst same
    cases call with
    | adjust control nonVerbose => cases kept
    | feed data =>
      refine ⟨by rw [Session.call, Decoder.feed_eq_run]; rfl, fun line present whole => ?_⟩
      rw [lines_feed balanced.nothing_held] at present
      rcases List.mem_append.mp present with earlier | now
      · exact readFrom_more (before line earlier whole) data
      · exact run_readFrom _ false _ _ (aligned_more balanced.aligned data) idle line now whole
    | flush =>
      refine ⟨by rw [Session.call, Decoder.flush_eq_run]; rfl, fun line present whole => ?_⟩
      rw [lines_flush balanced.nothing_held] at present
      rcases List.mem_append.mp present with earlier | now
      · exact before line earlier whole
      · exact run_readFrom _ true _ _ balanced.aligned idle line now whole

end Session

end DiagTrace.Stream
