import DiagTrace.Proofs.Stream.Accounting

/-!
Where a stream is cut into chunks does not show in its lines. Two decoders that got the same bytes may differ
in how far they have looked for a marker, and `trim` takes that difference away.
-/
namespace DiagTrace

namespace Cursor

def append (input : Cursor) (more : Bytes) : Cursor := ⟨input.rest ++ more, input.position⟩

theorem advance_append {input : Cursor} {n : Nat} (present : n ≤ input.rest.length) (more : Bytes) :
    (input.append more).advance n = (input.advance n).append more := by
  simp only [append, advance, List.drop_append_of_le_length present]

theorem advance_advance (input : Cursor) (n m : Nat) :
    (input.advance n).advance m = input.advance (n + m) := by
  simp only [advance, List.drop_drop, Nat.add_assoc]

@[simp] theorem advance_zero (input : Cursor) : input.advance 0 = input := rfl

end Cursor

namespace Stream

namespace Pass

@[simp] theorem skip_zero (builder : Builder) (position : Nat) (reason : SkipReason) :
    skip builder 0 position reason = builder := rfl

theorem skip_open {builder : Builder} (open_span : builder.skip.bytes ≠ 0) (bytes position : Nat)
    (reason : SkipReason) :
    skip builder bytes position reason =
      { builder with skip := { builder.skip with bytes := builder.skip.bytes + bytes } } := by
  by_cases nothing : bytes = 0
  · rw [nothing, skip_zero]
    rfl
  · simp [skip, nothing, open_span, Builder.countSkipped]

theorem skip_skip (builder : Builder) {bytes : Nat} (some_bytes : bytes ≠ 0) (more position later : Nat)
    (reason other : SkipReason) :
    skip (skip builder bytes position reason) more later other =
      skip builder (bytes + more) position reason := by
  have opened : (skip builder bytes position reason).skip.bytes ≠ 0 := by
    rw [skip_bytes]
    omega
  rw [skip_open opened]
  by_cases open_span : builder.skip.bytes = 0
  · simp [skip, some_bytes, open_span, Builder.countSkipped, Builder.setPosition, Builder.openSkip]
  · rw [skip_open open_span, skip_open open_span, Nat.add_assoc]

theorem deliver_rest (line : Line) (builder : Builder) (rest other : Cursor) :
    (deliver line rest builder).lines = (deliver line other builder).lines ∧
      (deliver line rest builder).builder = (deliver line other builder).builder := by
  simp only [deliver]
  split <;> exact ⟨rfl, rfl⟩

end Pass

def trim (format : CaptureFormat) (input : Cursor) (builder : Builder) : Cursor × Builder :=
  if builder.skip.bytes = 0 then (input, builder)
  else
    let bytes := Finding.leadIn format input.rest
    (input.advance bytes, Pass.skip builder bytes input.position .searching)

variable {format : CaptureFormat} {setting : Setting} {flush : Bool} {input : Cursor}
variable {builder after : Builder} {bytes length : Nat} {reason : SkipReason} {line : Line}

theorem trim_reported (reported : builder.skip.bytes = 0) : trim format input builder = (input, builder) := by
  rw [trim, if_pos reported]

theorem trim_open (open_span : builder.skip.bytes ≠ 0) :
    trim format input builder =
      (input.advance (Finding.leadIn format input.rest),
        Pass.skip builder (Finding.leadIn format input.rest) input.position .searching) := by
  rw [trim, if_neg open_span]

theorem trim_trim (format : CaptureFormat) (input : Cursor) (builder : Builder) :
    trim format (trim format input builder).1 (trim format input builder).2 = trim format input builder := by
  by_cases reported : builder.skip.bytes = 0
  · rw [trim_reported reported, trim_reported reported]
  · have opened : (Pass.skip builder (Finding.leadIn format input.rest) input.position
        .searching).skip.bytes ≠ 0 := by
      rw [Pass.skip_bytes]
      omega
    have none_before : Finding.leadIn format (input.advance (Finding.leadIn format input.rest)).rest = 0 := by
      rw [Cursor.advance, Finding.leadIn_drop (Nat.le_refl _), Nat.sub_self]
    rw [trim_open reported, trim_open opened, none_before, Cursor.advance_zero, Pass.skip_zero]

theorem Pass.atEnd_trim (format : CaptureFormat) (input : Cursor) (builder : Builder) :
    atEnd (trim format input builder).1 (trim format input builder).2 = atEnd input builder := by
  by_cases reported : builder.skip.bytes = 0
  · rw [trim_reported reported]
  · have within := Finding.leadIn_le format input.rest
    have left : Finding.leadIn format input.rest +
        (input.advance (Finding.leadIn format input.rest)).remaining = input.remaining := by
      simp only [Cursor.remaining, Cursor.advance, List.length_drop]
      omega
    have same_last : (input.advance (Finding.leadIn format input.rest)).advance
        (input.advance (Finding.leadIn format input.rest)).remaining = input.advance input.remaining := by
      rw [Cursor.advance_advance, left]
    have same_skip : skip (skip builder (Finding.leadIn format input.rest) input.position .searching)
        (input.advance (Finding.leadIn format input.rest)).remaining
        (input.advance (Finding.leadIn format input.rest)).position .endOfStream =
          skip builder input.remaining input.position .endOfStream := by
      by_cases none_before : Finding.leadIn format input.rest = 0
      · rw [none_before, skip_zero, Cursor.advance_zero]
      · rw [skip_skip builder none_before, left, skip_open reported, skip_open reported]
    rw [trim_open reported]
    simp only [atEnd, same_skip, same_last]

namespace Move

theorem next_short (found : Finding.ofBytes setting.format input.rest = .short) :
    next setting flush input builder = .stop := by
  unfold next
  rw [found]

theorem next_searching (enough : setting.format.headerOffset + 4 ≤ input.rest.length)
    (some_before : Finding.leadIn setting.format input.rest ≠ 0) :
    next setting flush input builder =
      .giveUp (Finding.leadIn setting.format input.rest) .searching builder := by
  unfold next
  rw [Finding.searching_of_leadIn enough some_before]

/-- A move that does not depend on what follows is made again when more bytes have come. -/
theorem next_append {more : Bytes}
    (same : Finding.ofBytes setting.format (input.rest ++ more) = Finding.ofBytes setting.format input.rest) :
    next setting flush (input.append more) builder = next setting flush input builder := by
  unfold next
  simp only [Cursor.append, same]
  cases found : Finding.ofBytes setting.format input.rest with
  | short => rfl
  | noise bytes reason => rfl
  | incomplete => rfl
  | candidate length =>
    simp only [ofCandidate]
    rw [List.take_append_of_le_length (Finding.candidate_bounds found).2]

end Move

namespace Sweep

def trimmed (format : CaptureFormat) (sweep : Sweep) : Sweep :=
  ⟨sweep.lines, (trim format sweep.rest sweep.builder).1, (trim format sweep.rest sweep.builder).2⟩

def andThen (setting : Setting) (sweep : Sweep) (more : Bytes) : Sweep :=
  let next := run setting false (sweep.rest.append more) sweep.builder
  { next with lines := sweep.lines ++ next.lines }

theorem trimmed_behind (pass : Pass) (sweep : Sweep) :
    (behind pass sweep).trimmed format = behind pass (sweep.trimmed format) := rfl

theorem andThen_behind (pass : Pass) (sweep : Sweep) (more : Bytes) :
    (behind pass sweep).andThen setting more = behind pass (sweep.andThen setting more) := by
  simp only [andThen, behind, List.append_assoc]

theorem run_trim_or (setting : Setting) (flush : Bool) (input : Cursor) (builder : Builder) :
    run setting flush (trim setting.format input builder).1 (trim setting.format input builder).2 =
        run setting flush input builder ∨
      Move.next setting flush (trim setting.format input builder).1
          (trim setting.format input builder).2 = .stop ∧
        Move.next setting flush input builder = .stop := by
  by_cases reported : builder.skip.bytes = 0
  · rw [trim_reported reported]
    exact .inl rfl
  · rw [trim_open reported]
    by_cases none_before : Finding.leadIn setting.format input.rest = 0
    · rw [none_before, Cursor.advance_zero, Pass.skip_zero]
      exact .inl rfl
    · by_cases enough : setting.format.headerOffset + 4 ≤ input.rest.length
      · rw [run_giveUp (Move.next_searching enough none_before)]
        exact .inl rfl
      · refine .inr ⟨Move.next_short (Finding.short_iff.mpr ?_), Move.next_short (Finding.short_iff.mpr ?_)⟩
        · rw [Cursor.advance, List.length_drop]
          omega
        · omega

theorem run_trim (setting : Setting) (input : Cursor) (builder : Builder) :
    (run setting false (trim setting.format input builder).1
        (trim setting.format input builder).2).trimmed setting.format =
      (run setting false input builder).trimmed setting.format := by
  rcases run_trim_or setting false input builder with same | ⟨stops_trimmed, stops⟩
  · rw [same]
  · rw [run_stop stops_trimmed, run_stop stops]
    simp only [atStop, Bool.false_eq_true, ↓reduceIte, trimmed, trim_trim]

theorem run_flush_trim (setting : Setting) (input : Cursor) (builder : Builder) :
    run setting true (trim setting.format input builder).1 (trim setting.format input builder).2 =
      run setting true input builder := by
  rcases run_trim_or setting true input builder with same | ⟨stops_trimmed, stops⟩
  · exact same
  · rw [run_stop stops_trimmed, run_stop stops]
    simp only [atStop, ↓reduceIte, Pass.atEnd_trim]

theorem run_append_searching {more : Bytes} (enough : setting.format.headerOffset + 4 ≤ input.rest.length)
    (some_before : Finding.leadIn setting.format input.rest ≠ 0) (before : Nat) (position : before = input.position) :
    (run setting false (input.append more) builder).trimmed setting.format =
      (run setting false
        ((input.advance (Finding.leadIn setting.format input.rest)).append more)
        (Pass.skip builder (Finding.leadIn setting.format input.rest) before
          .searching)).trimmed setting.format := by
  have further := Finding.leadIn_le_append setting.format input.rest more
  have within := Finding.leadIn_le setting.format input.rest
  have enough_after : setting.format.headerOffset + 4 ≤ (input.append more).rest.length := by
    rw [Cursor.append, List.length_append]
    omega
  have opened : (Pass.skip builder (Finding.leadIn setting.format input.rest) input.position
      .searching).skip.bytes ≠ 0 := by
    rw [Pass.skip_bytes]
    omega
  have remaining : Finding.leadIn setting.format
      ((input.advance (Finding.leadIn setting.format input.rest)).append more).rest =
        Finding.leadIn setting.format (input.rest ++ more) - Finding.leadIn setting.format input.rest := by
    rw [← Cursor.advance_append within, Cursor.advance, Cursor.append, Finding.leadIn_drop further]
  subst position
  rw [← run_trim setting ((input.advance _).append more), trim_open opened, remaining,
    Pass.skip_skip builder some_before, ← Cursor.advance_append within, Cursor.advance_advance,
    Nat.add_sub_cancel' further]
  rw [run_giveUp (Move.next_searching enough_after (Nat.ne_of_gt (Nat.lt_of_lt_of_le
    (Nat.pos_of_ne_zero some_before) further)))]
  rfl

/-- A sweep over bytes and then over more comes out like a sweep over all of them. -/
theorem run_append (setting : Setting) (input : Cursor) (builder : Builder) (more : Bytes)
    (fed : flush = false) :
    (run setting false (input.append more) builder).trimmed setting.format =
      ((run setting flush input builder).andThen setting more).trimmed setting.format := by
  fun_induction run setting flush input builder with
  | case1 input builder move =>
    rw [fed]
    rfl
  | case2 input builder bytes reason after move bounds ih =>
    rcases Move.next_giveUp move with ⟨found, rfl⟩ | ⟨_, flushed, _⟩ | ⟨length, _, found, _⟩
    · rcases Finding.noise_cases found with ⟨rfl, rfl, some_before⟩ | ⟨rfl, _, none_before⟩
      · rw [← ih]
        exact run_append_searching
          (Finding.enough_of_not_short (by rw [found]; exact Finding.noConfusion)) some_before _ rfl
      · have same := Finding.ofBytes_append
          (Finding.enough_of_not_short (by rw [found]; exact Finding.noConfusion)) none_before
          (by rw [found]; exact Finding.noConfusion) more
        rw [run_giveUp (fed ▸ (Move.next_append same).trans move), Cursor.advance_append bounds.2]
        exact ih
    · rw [fed] at flushed
      cases flushed
    · have same := (Finding.candidate_append found more).trans found.symm
      rw [run_giveUp (fed ▸ (Move.next_append same).trans move), Cursor.advance_append bounds.2]
      exact ih
  | case3 input builder length line after move bounds ih =>
    obtain ⟨found, _⟩ := Move.next_packet move
    have same := (Finding.candidate_append found more).trans found.symm
    rw [run_packet (fed ▸ (Move.next_append same).trans move), Cursor.advance_append bounds.2,
      andThen_behind, trimmed_behind, trimmed_behind, ← ih]
    obtain ⟨same_lines, same_builder⟩ :=
      Pass.deliver_rest line after ((input.advance length).append more) (input.advance length)
    rw [behind, behind, same_lines, same_builder]

theorem run_waits (setting : Setting) (input : Cursor) (builder : Builder) (fed : flush = false) :
    Finding.ofBytes setting.format (run setting flush input builder).rest.rest = .short ∨
      Finding.ofBytes setting.format (run setting flush input builder).rest.rest = .incomplete := by
  fun_induction run setting flush input builder with
  | case1 input builder move =>
    rw [fed]
    rcases Move.next_stop move with short | ⟨incomplete, _⟩
    · exact .inl short
    · exact .inr incomplete
  | case2 input builder bytes reason after move bounds ih => exact ih
  | case3 input builder length line after move bounds ih => exact ih

end Sweep

namespace Decoder

def feedAll (decoder : Decoder) : List Bytes → List Line × Decoder
  | [] => ([], decoder)
  | data :: chunks =>
    let (lines, next) := decoder.feed data
    let (more, last) := next.feedAll chunks
    (lines ++ more, last)

def trimmed (decoder : Decoder) : Decoder :=
  { decoder with
    input := (trim decoder.setting.format decoder.input decoder.builder).1
    builder := (trim decoder.setting.format decoder.input decoder.builder).2 }

/-- A decoder that has nothing to give before more bytes come. -/
structure Quiet (decoder : Decoder) : Prop where
  nothing_held : decoder.heldBack = none
  waits : Finding.ofBytes decoder.setting.format decoder.input.rest = .short ∨
    Finding.ofBytes decoder.setting.format decoder.input.rest = .incomplete

variable {decoder : Decoder}

theorem flush_trimmed (decoder : Decoder) : decoder.trimmed.flush = decoder.flush := by
  rw [flush_eq_run, flush_eq_run]
  simp only [trimmed, Sweep.run_flush_trim]

theorem feed_append (decoder : Decoder) (data more : Bytes) :
    (decoder.feed (data ++ more)).1 = (decoder.feed data).1 ++ ((decoder.feed data).2.feed more).1 ∧
      (decoder.feed (data ++ more)).2.trimmed = ((decoder.feed data).2.feed more).2.trimmed := by
  have swept := Sweep.run_append decoder.setting (decoder.input.append data) decoder.builder more rfl
  have lines := congrArg Sweep.lines swept
  have rest := congrArg Sweep.rest swept
  have builder := congrArg Sweep.builder swept
  simp only [Sweep.trimmed, Sweep.andThen, Cursor.append, List.append_assoc] at lines rest builder
  simp only [feed_eq_run]
  constructor
  · rw [lines]
    simp
  · simp only [trimmed, rest, builder]

theorem feed_quiet (decoder : Decoder) (data : Bytes) : Quiet (decoder.feed data).2 := by
  rw [feed_eq_run]
  exact ⟨rfl, Sweep.run_waits decoder.setting _ decoder.builder rfl⟩

theorem stops_of_quiet (quiet : Quiet decoder) :
    Move.next decoder.setting false decoder.input decoder.builder = .stop := by
  unfold Move.next
  rcases quiet.waits with short | incomplete
  · rw [short]
  · rw [incomplete]
    rfl

theorem feed_nothing (quiet : Quiet decoder) : decoder.feed [] = ([], decoder) := by
  have stops := stops_of_quiet quiet
  obtain ⟨setting, builder, heldBack, input⟩ := decoder
  obtain ⟨rfl, -⟩ := quiet
  rw [feed_eq_run, List.append_nil]
  simp only
  rw [Sweep.run_stop stops]
  rfl

theorem feedAll_flatten (quiet : Quiet decoder) (chunks : List Bytes) :
    (decoder.feedAll chunks).1 = (decoder.feed chunks.flatten).1 ∧
      (decoder.feedAll chunks).2.trimmed = (decoder.feed chunks.flatten).2.trimmed := by
  induction chunks generalizing decoder with
  | nil =>
    rw [List.flatten_nil, feed_nothing quiet]
    exact ⟨rfl, rfl⟩
  | cons data chunks ih =>
    obtain ⟨lines, rest⟩ := feed_append decoder data chunks.flatten
    obtain ⟨more_lines, more_rest⟩ := ih (feed_quiet decoder data)
    rw [List.flatten_cons, lines, rest]
    simp only [feedAll, more_lines, more_rest, and_self]

end Decoder

namespace Session

theorem quiet_run (setting : Setting) (calls : List Call) :
    ((Session.start setting).run calls).decoder.Quiet := by
  have quiet_of_empty : ∀ decoder : Decoder, decoder.heldBack = none → decoder.input.rest = [] →
      decoder.Quiet := by
    intro decoder nothing_held empty
    refine ⟨nothing_held, .inl (Finding.short_iff.mpr ?_)⟩
    rw [empty]
    exact Nat.succ_pos _
  refine (run_invariant (fun session => Balanced session ∧ session.decoder.Quiet) ?_ ?_ calls).1.2
  · exact ⟨balanced_start setting, quiet_of_empty _ rfl rfl⟩
  · intro session call _ holds
    obtain ⟨balanced, quiet⟩ := holds
    cases call with
    | feed data => exact ⟨balanced_feed balanced data, Decoder.feed_quiet session.decoder data⟩
    | flush =>
      obtain ⟨settled, emptied, _⟩ := balanced_flush balanced
      exact ⟨settled, quiet_of_empty _ settled.nothing_held emptied⟩
    | adjust control nonVerbose =>
      exact ⟨balanced_adjust balanced control nonVerbose, quiet.nothing_held, quiet.waits⟩

/-- However a decoder was used before, cutting what it gets next into chunks changes no line, neither of the
chunks nor of a flush behind them. -/
theorem chunks_give_same_lines (setting : Setting) (calls : List Call) (chunks : List Bytes) :
    let decoder := ((Session.start setting).run calls).decoder
    (decoder.feedAll chunks).1 = (decoder.feed chunks.flatten).1 ∧
      (decoder.feedAll chunks).2.flush = (decoder.feed chunks.flatten).2.flush := by
  intro decoder
  obtain ⟨lines, rest⟩ := Decoder.feedAll_flatten (quiet_run setting calls) chunks
  refine ⟨lines, ?_⟩
  rw [← Decoder.flush_trimmed, rest, Decoder.flush_trimmed]

end Session

end Stream

end DiagTrace
