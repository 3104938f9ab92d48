import DiagTrace.Proofs.Stream.PlainScan

/-!
A sweep to the end of a stream gives the pieces of a plain scan.
-/
namespace DiagTrace.Stream

variable {setting : Setting} {flush : Bool} {input : Cursor} {builder : Builder}

/-- The pieces behind the skipped bytes that a builder has not yet reported. -/
def pending (builder : Builder) (pieces : List Piece) : List Piece :=
  if builder.skip.bytes = 0 then pieces
  else Piece.join (.gap builder.skip.position builder.skip.bytes builder.skip.reason) pieces

theorem pending_reported (reported : builder.skip.bytes = 0) (pieces : List Piece) :
    pending builder pieces = pieces := by
  rw [pending, if_pos reported]

theorem pending_open (open_span : builder.skip.bytes ≠ 0) (pieces : List Piece) :
    pending builder pieces =
      Piece.join (.gap builder.skip.position builder.skip.bytes builder.skip.reason) pieces := by
  rw [pending, if_neg open_span]

theorem pending_skip {bytes : Nat} {reason : SkipReason} {rest : Bytes} (builder : Builder) (position : Nat)
    (some_bytes : 0 < bytes) (present : bytes ≤ rest.length)
    (absent : ∀ i < bytes, packetAt? setting (rest.drop i) = none)
    (explained : reasonAt setting.format rest = reason) :
    pending (Pass.skip builder bytes position reason)
        (Piece.merge (plainScan setting (position + bytes) (rest.drop bytes))) =
      pending builder (Piece.merge (plainScan setting position rest)) := by
  have counted := Pass.skip_bytes builder bytes position reason
  rw [pending_open (by omega)]
  by_cases reported : builder.skip.bytes = 0
  · rw [pending_reported reported, merge_plainScan absent some_bytes present, explained]
    simp only [Pass.skip, Nat.ne_of_gt some_bytes, reported, ↓reduceIte, Builder.countSkipped,
      Builder.setPosition, Builder.openSkip, Nat.zero_add]
  · rw [pending_open reported, join_plainScan position bytes _ _ _ absent present, Pass.skip_open reported]

theorem pending_takeSkipped (open_span : builder.skip.bytes ≠ 0) (position : Nat) (line : Line) (number : Nat)
    (pieces : List Piece) :
    pending builder (.packet position line :: pieces) =
      Piece.ofLine (builder.takeSkipped.1.withNumber number) :: .packet position line :: pieces := by
  rw [pending_open open_span, Piece.join_gap_packet]
  rfl

theorem deliver_pieces {line fresh : Line} {number : Nat} (after : Builder)
    (placed : line = fresh.placedAt input.position number) (whole : line.isSkipped = false)
    (unplaced : fresh.placedAt 0 0 = fresh) (rest : Cursor) (pieces : List Piece) :
    (Pass.deliver line rest after).lines.map Piece.ofLine ++ pieces =
      pending after (.packet input.position fresh :: pieces) := by
  have piece : ∀ next, Piece.ofLine (line.withNumber next) = .packet input.position fresh := by
    intro next
    have same_place : (line.withNumber next).header.position = input.position := by
      rw [placed]
      cases fresh <;> rfl
    have cleared : (line.withNumber next).placedAt 0 0 = fresh.placedAt 0 0 := by
      rw [placed]
      cases fresh <;> rfl
    rw [Piece.ofLine_whole (by rw [isSkipped_withNumber, whole]), same_place, cleared, unplaced]
  simp only [Pass.deliver]
  split
  · rename_i reported
    have same : line.withNumber line.number = line := by cases line <;> rfl
    have first := piece line.number
    rw [same] at first
    rw [pending_reported reported]
    simp only [Pass.lines, Option.toList_none, List.map_cons, List.map_nil, List.cons_append, List.nil_append,
      first]
  · rename_i open_span
    rw [pending_takeSkipped open_span input.position fresh line.number]
    simp only [Pass.lines, Option.toList_some, List.map_cons, List.map_nil, List.cons_append, List.nil_append,
      piece]

theorem atStop_pieces (builder : Builder) (short : Finding.ofBytes setting.format input.rest = .short) :
    (Sweep.atStop true input builder).lines.map Piece.ofLine =
      pending builder (Piece.merge (plainScan setting input.position input.rest)) := by
  have few := Finding.short_iff.mp short
  have absent : ∀ i < input.remaining, packetAt? setting (input.rest.drop i) = none := by
    intro i _
    refine absent_of_short ?_
    rw [List.length_drop]
    omega
  have explained : reasonAt setting.format input.rest = .endOfStream := by
    rw [reasonAt, if_pos few]
  have given_up : pending (Pass.skip builder input.remaining input.position .endOfStream) [] =
      pending builder (Piece.merge (plainScan setting input.position input.rest)) := by
    by_cases some_bytes : 0 < input.remaining
    · have skipped := pending_skip builder input.position some_bytes (Nat.le_refl _) absent explained
      rw [Cursor.remaining, List.drop_length] at skipped
      rw [← skipped, plainScan]
      rfl
    · have empty : input.rest = [] := by
        rw [← List.length_eq_zero_iff]
        simp only [Cursor.remaining] at some_bytes
        omega
      rw [Cursor.remaining, empty, plainScan]
      rfl
  rw [← given_up]
  by_cases reported : (Pass.skip builder input.remaining input.position .endOfStream).skip.bytes = 0
  · simp [Sweep.atStop, Pass.atEnd, Pass.lines, reported, pending]
  · simp only [Sweep.atStop, Pass.atEnd, Pass.lines, reported, pending, ↓reduceIte]
    rfl

theorem packet_of_idle {length : Nat} {line : Line} {after : Builder} (idle : Idle setting.format builder)
    (found : Finding.ofBytes setting.format input.rest = .candidate length)
    (decoded : Packet.decode setting builder (input.rest.take length) input.position = (.ok line, after)) :
    ∃ fresh, line = fresh.placedAt input.position builder.nextNumber ∧
      packetAt? setting input.rest = some (length, fresh) ∧ fresh.placedAt 0 0 = fresh := by
  have read := Packet.decode_of_idle idle (input.rest.take length) input.position
  rw [decoded] at read
  obtain ⟨result, begun⟩ : ∃ result, Packet.decode setting (Builder.start .recorded)
      (input.rest.take length) 0 = result := ⟨_, rfl⟩
  obtain ⟨answer, rest⟩ := result
  rw [begun] at read
  cases answer with
  | error fault => cases read
  | ok fresh =>
    cases read
    obtain ⟨position, number, _⟩ := Packet.decode_line begun
    refine ⟨fresh, rfl, ?_, ?_⟩
    · rw [packetAt?_of_candidate found, begun]
    · exact Line.placedAt_self position number

theorem run_idle (setting : Setting) (input : Cursor) (builder : Builder)
    (idle : Idle setting.format builder) :
    Idle setting.format (Sweep.run setting flush input builder).builder := by
  fun_induction Sweep.run setting flush input builder with
  | case1 input builder move =>
    cases flush with
    | false => exact idle
    | true =>
      have skipped := idle_skip idle input.remaining input.position .endOfStream
      by_cases reported : (Pass.skip builder input.remaining input.position .endOfStream).skip.bytes = 0
      · simp only [Sweep.atStop, Pass.atEnd, reported, ↓reduceIte]
        exact skipped
      · simp only [Sweep.atStop, Pass.atEnd, reported, ↓reduceIte]
        exact idle_takeSkipped skipped
  | case2 input builder bytes reason after move bounds ih =>
    exact ih (idle_skip (idle_giveUp idle move) bytes input.position reason)
  | case3 input builder length line after move bounds ih =>
    obtain ⟨_, decoded⟩ := Move.next_packet move
    have left := Packet.decode_idle idle (input.rest.take length) input.position
    rw [decoded] at left
    exact ih (idle_deliver left line (input.advance length))

theorem run_pieces (setting : Setting) (input : Cursor) (builder : Builder)
    (idle : Idle setting.format builder) (ends : flush = true) :
    (Sweep.run setting flush input builder).lines.map Piece.ofLine =
      pending builder (Piece.merge (plainScan setting input.position input.rest)) := by
  fun_induction Sweep.run setting flush input builder with
  | case1 input builder move =>
    rw [ends]
    refine atStop_pieces builder ?_
    rcases Move.next_stop move with short | ⟨_, waits⟩
    · exact short
    · rw [ends] at waits
      cases waits
  | case2 input builder bytes reason after move bounds ih =>
    obtain ⟨absent, explained⟩ := giveUp_absent idle move
    rw [ih (idle_skip (idle_giveUp idle move) bytes input.position reason)]
    have same := (giveUp_kept move).1
    have skipped := pending_skip after input.position bounds.1 bounds.2 absent explained
    simp only [Cursor.advance]
    rw [skipped, pending, pending, same]
  | case3 input builder length line after move bounds ih =>
    obtain ⟨found, decoded⟩ := Move.next_packet move
    have left := Packet.decode_idle idle (input.rest.take length) input.position
    have kept := (Packet.decode_kept setting builder (input.rest.take length) input.position).1
    rw [decoded] at left kept
    obtain ⟨fresh, placed, present, unplaced⟩ := packet_of_idle idle found decoded
    have reported := deliver_reported line (input.advance length) after
    have swept := ih (idle_deliver left line (input.advance length))
    rw [pending_reported reported] at swept
    have some_bytes : input.rest ≠ [] := by
      intro empty
      rw [empty] at bounds
      simp only [List.length_nil] at bounds
      omega
    have pieces := deliver_pieces after placed (Packet.decode_line decoded).2.2 unplaced (input.advance length)
      (Piece.merge (plainScan setting (input.position + length) (input.rest.drop length)))
    simp only [Sweep.behind, List.map_append, swept]
    simp only [Cursor.advance] at pieces ⊢
    have same : after.skip = builder.skip := kept
    rw [pieces, plainScan_packet present some_bytes, Piece.merge_packet, pending, pending, same]

theorem run_flush (setting : Setting) (input : Cursor) (builder : Builder) (fed : flush = false) :
    (Sweep.run setting true input builder).lines =
      (Sweep.run setting flush input builder).lines ++
        (Sweep.run setting true (Sweep.run setting flush input builder).rest
          (Sweep.run setting flush input builder).builder).lines := by
  fun_induction Sweep.run setting flush input builder with
  | case1 input builder move =>
    rw [fed]
    rfl
  | case2 input builder bytes reason after move bounds ih =>
    have moves := Move.next_flushed (fed ▸ move) Move.noConfusion
    rw [Sweep.run_giveUp moves, ih]
  | case3 input builder length line after move bounds ih =>
    have moves := Move.next_flushed (fed ▸ move) Move.noConfusion
    rw [Sweep.run_packet moves]
    simp only [Sweep.behind, List.append_assoc, ih]

namespace Session

theorem idle_run (setting : Setting) (calls : List Call) :
    Idle setting.format ((Session.start setting).run calls).decoder.builder := by
  refine (run_invariant (fun session => Idle setting.format session.decoder.builder) ?_ ?_ calls).1
  · exact idle_start setting.format
  · intro session call format idle
    rw [← format] at idle ⊢
    cases call with
    | feed data =>
      simp only [Session.call, record, Decoder.feed_eq_run]
      exact run_idle _ _ _ idle
    | flush =>
      simp only [Session.call, record, Decoder.flush_eq_run]
      exact run_idle _ _ _ idle
    | adjust control nonVerbose => exact idle

/-- A decoder that was last flushed reads a whole stream as the plain scan does, whatever it read or rejected
before. -/
theorem decodeAll_eq_plainScan (setting : Setting) (calls : List Call) (control : Control.Registry)
    (nonVerbose : NonVerbose.Codec) (data : Bytes) :
    let decoder := ((Session.start setting).run (calls ++ [.flush, .adjust control nonVerbose])).decoder
    (decoder.decodeAll data).1.map Piece.ofLine =
      Piece.merge (plainScan ⟨setting.format, control, nonVerbose⟩ decoder.input.position data) := by
  intro decoder
  let session := (Session.start setting).run calls
  obtain ⟨balanced, same⟩ := balanced_run setting calls
  obtain ⟨settled, emptied, reported⟩ := balanced_flush balanced
  have left : decoder =
      { (session.call .flush).decoder with
        setting := { (session.call .flush).decoder.setting with control, nonVerbose } } := by
    simp only [decoder, run_append]
    rfl
  have format : (session.call .flush).decoder.setting.format = setting.format := by
    rw [format_call, same]
  have knows : decoder.setting = ⟨setting.format, control, nonVerbose⟩ := by
    rw [left]
    exact congrArg (Setting.mk · control nonVerbose) format
  have idle : Idle decoder.setting.format decoder.builder := by
    rw [knows]
    exact idle_run setting (calls ++ [.flush, .adjust control nonVerbose])
  have nothing_held : decoder.heldBack = none := by
    rw [left]
    exact settled.nothing_held
  have nothing_left : decoder.input.rest = [] := by
    rw [left]
    exact emptied
  have nothing_skipped : decoder.builder.skip.bytes = 0 := by
    rw [left]
    exact reported
  have lines : (decoder.decodeAll data).1 =
      (Sweep.run decoder.setting true ⟨data, decoder.input.position⟩ decoder.builder).lines := by
    rw [run_flush decoder.setting _ decoder.builder rfl]
    simp only [Decoder.decodeAll, Decoder.feed_eq_run, Decoder.flush_eq_run, nothing_held, nothing_left,
      Option.toList_none, List.nil_append]
  rw [lines, run_pieces decoder.setting _ decoder.builder idle rfl, pending_reported nothing_skipped, knows]

end Session

end DiagTrace.Stream
