import DiagTrace.Proofs.Stream.PlainScan

/-!
How far a decoder gets and what it keeps. The two loops of a decoder are written out here with a number of rounds that
they may take: the loop of a pass goes through offsets in its input (`Pass.loop`), and the loop of a drain makes one
call after another (`Decoder.drainWithin`). Calls cannot be counted by bytes alone, as a line that was held back takes
none, and the report of a skipped end may take none: `Decoder.callsLeft` counts these too.
-/
namespace DiagTrace

theorem StandardHeader.lt_of_validate {buffer : Bytes} {length : Nat} (valid : validate buffer = .ok length) :
    length < 65536 := by
  unfold validate at valid
  split at valid
  · rename_i high low _
    have small : ByteOrder.big.decode [high, low] < 65536 := ByteOrder.littleValue_lt [low, high]
    simp only at valid
    split at valid
    · cases valid
    · split at valid
      · cases valid
      · cases valid
        exact small
  · cases valid

namespace Stream

namespace Pass

/-- A pass from an offset in its input in so many rounds, with the bytes of the input that are then done with. There is
none if the rounds do not do, or if one of them would start behind the end of the input. -/
def loop (setting : Setting) (flush : Bool) (input : Cursor) : Nat → Nat → Builder → Option (Nat × Pass)
  | 0, _, _ => none
  | rounds + 1, offset, builder =>
    if input.rest.length < offset then none
    else
      match Move.next setting flush (input.advance offset) builder with
      | .stop =>
        if flush then some (input.rest.length, atEnd (input.advance offset) builder)
        else some (offset, ⟨.needMore, input.advance offset, builder⟩)
      | .giveUp bytes reason after =>
        loop setting flush input rounds (offset + bytes) (skip after bytes (input.position + offset) reason)
      | .packet length line after =>
        some (offset + length, deliver line (input.advance (offset + length)) after)

variable {setting : Setting} {flush : Bool} {input : Cursor} {builder : Builder} {line : Line} {heldBack : Option Line}

theorem rest_deliver (line : Line) (rest : Cursor) (builder : Builder) : (deliver line rest builder).rest = rest := by
  unfold deliver
  split
  · rfl
  · rfl

theorem rest_atEnd {offset : Nat} (inside : offset ≤ input.rest.length) (builder : Builder) :
    (atEnd (input.advance offset) builder).rest = input.advance input.rest.length := by
  have left : offset + (input.advance offset).remaining = input.rest.length := by
    simp only [Cursor.remaining, Cursor.advance, List.length_drop]
    omega
  unfold atEnd
  simp only [Cursor.advance_advance, left]
  split
  · rfl
  · rfl

/-- Every round but the last gives up a byte or more, so that one round more than there are bytes is enough. -/
theorem loop_scan (setting : Setting) (flush : Bool) {rounds offset : Nat} (inside : offset ≤ input.rest.length)
    (enough : input.rest.length - offset < rounds) (builder : Builder) :
    ∃ consumed, loop setting flush input rounds offset builder =
        some (consumed, scan setting flush (input.advance offset) builder) ∧
      consumed ≤ input.rest.length ∧
      (scan setting flush (input.advance offset) builder).rest = input.advance consumed := by
  induction rounds generalizing offset builder with
  | zero => cases enough
  | succ rounds ih =>
    have started : ¬ input.rest.length < offset := Nat.not_lt_of_le inside
    have left : (input.advance offset).rest.length = input.rest.length - offset := List.length_drop
    rw [loop, if_neg started, scan_eq_next]
    cases move : Move.next setting flush (input.advance offset) builder with
    | stop =>
      cases flush with
      | false => exact ⟨offset, rfl, inside, rfl⟩
      | true => exact ⟨input.rest.length, rfl, Nat.le_refl _, rest_atEnd inside builder⟩
    | giveUp bytes reason after =>
      have bounds := Move.giveUp_bounds move
      rw [left] at bounds
      simp only [Cursor.advance_advance]
      exact ih (by omega) (by omega) _
    | packet length line after =>
      have bounds := Move.packet_bounds move
      rw [left] at bounds
      simp only [Cursor.advance_advance]
      exact ⟨offset + length, rfl, by omega, rest_deliver line _ after⟩

/-- A pass that gives a line had bytes to read or to report. It has read a packet, of four bytes at least, or has come
to the end of the stream and leaves nothing. -/
theorem scan_progress (delivered : (scan setting flush input builder).delivery = .line line heldBack) :
    ¬ (input.rest = [] ∧ builder.skip.bytes = 0) ∧
      ((scan setting flush input builder).rest.rest.length + 4 ≤ input.rest.length ∨
        ((scan setting flush input builder).rest.rest = [] ∧
          (scan setting flush input builder).builder.skip.bytes = 0 ∧ heldBack = none)) := by
  have present : ∀ {bytes : Nat} {input : Cursor} {builder : Builder}, 0 < bytes ∧ bytes ≤ input.rest.length →
      ¬ (input.rest = [] ∧ builder.skip.bytes = 0) := by
    rintro bytes input builder bounds ⟨empty, -⟩
    rw [empty, List.length_nil] at bounds
    omega
  fun_induction Sweep.run setting flush input builder with
  | case1 input builder move =>
    rw [scan_eq_next, move] at delivered ⊢
    cases flush with
    | false => cases delivered
    | true =>
      obtain ⟨spent, reported⟩ := atEnd_spent input builder
      refine ⟨?_, .inr ⟨spent, reported, ?_⟩⟩
      · rintro ⟨empty, none_skipped⟩
        simp [atEnd, skip, Cursor.remaining, empty, none_skipped] at delivered
      · simp only [atEnd, ↓reduceIte] at delivered
        split at delivered
        · cases delivered
        · cases delivered
          rfl
  | case2 input builder bytes reason after move bounds ih =>
    rw [scan_eq_next, move] at delivered ⊢
    refine ⟨present bounds, ?_⟩
    have fewer : (input.advance bytes).rest.length = input.rest.length - bytes := List.length_drop
    rcases (ih delivered).2 with read | ended
    · left
      simp only
      omega
    · exact .inr ended
  | case3 input builder length line after move bounds ih =>
    rw [scan_eq_next, move]
    refine ⟨present ⟨Nat.lt_of_lt_of_le (by decide) bounds.1, bounds.2⟩, .inl ?_⟩
    simp only [rest_deliver, Cursor.advance, List.length_drop]
    omega

end Pass

namespace Decoder

variable {decoder after : Decoder} {flush : Bool} {input rest : Cursor} {line : Line}

def decodeLine (decoder : Decoder) (flush : Bool) (input : Cursor) : Option (Option Line × Nat × Decoder) :=
  match decoder.heldBack with
  | some line => some (some line, 0, { decoder with heldBack := none })
  | none => do
    let (consumed, pass) ← Pass.loop decoder.setting flush input (input.rest.length + 1) 0 decoder.builder
    match pass.delivery with
    | .line line heldBack => some (some line, consumed, { decoder with builder := pass.builder, heldBack })
    | .needMore => some (none, consumed, { decoder with builder := pass.builder })

def answer : Option Line → Cursor → Step
  | some line, rest => .line line rest
  | none, rest => .needMore rest

theorem decodeLine_step (decoder : Decoder) (flush : Bool) (input : Cursor) :
    ∃ line consumed after, decoder.decodeLine flush input = some (line, consumed, after) ∧
      consumed ≤ input.rest.length ∧ decoder.step flush input = (answer line (input.advance consumed), after) := by
  unfold decodeLine step
  cases decoder.heldBack with
  | some line => exact ⟨_, _, _, rfl, Nat.zero_le _, rfl⟩
  | none =>
    obtain ⟨consumed, ended, inside, left⟩ := Pass.loop_scan decoder.setting flush (Nat.zero_le input.rest.length)
      (Nat.lt_succ_of_le (Nat.sub_le _ _)) decoder.builder
    rw [Cursor.advance_zero] at ended left
    rw [ended]
    simp only [Option.bind_eq_bind, Option.bind_some]
    cases (Pass.scan decoder.setting flush input decoder.builder).delivery with
    | line line heldBack => exact ⟨some line, consumed, _, rfl, inside, by rw [answer, left]⟩
    | needMore => exact ⟨none, consumed, _, rfl, inside, by rw [answer, left]⟩

def drainWithin (flush : Bool) : Nat → Decoder → Cursor → List Line → Option (List Line × Decoder)
  | 0, _, _, _ => none
  | calls + 1, decoder, input, done => do
    let (line, consumed, after) ← decoder.decodeLine flush input
    match line with
    | some line => drainWithin flush calls after (input.advance consumed) (line :: done)
    | none => some (done.reverse, { after with input := input.advance consumed })

/-- The calls that an input may still take: one for two bytes, one to ask for more, one for a line that was held back,
and one for the report of bytes at the end. -/
def callsLeft (decoder : Decoder) (input : Cursor) : Nat :=
  input.rest.length / 2 + 1 + (if decoder.heldBack.isSome then 1 else 0) +
    (if input.rest = [] ∧ decoder.builder.skip.bytes = 0 then 0 else 1)

theorem callsLeft_le (decoder : Decoder) (input : Cursor) : decoder.callsLeft input ≤ input.rest.length / 2 + 3 := by
  unfold callsLeft
  split <;> split <;> omega

theorem callsLeft_step (given : decoder.step flush input = (.line line rest, after)) :
    after.callsLeft rest < decoder.callsLeft input := by
  unfold step at given
  split at given
  · rename_i waiting
    cases given
    simp [callsLeft, waiting]
  · rename_i nothing
    simp only at given
    split at given
    · rename_i heldBack delivered
      cases given
      obtain ⟨present, read | ⟨spent, reported, rfl⟩⟩ := Pass.scan_progress delivered
      · simp only [callsLeft, nothing, if_neg present]
        split <;> split <;> simp only [Option.isSome_none, Bool.false_eq_true, ↓reduceIte] <;> omega
      · simp only [callsLeft, nothing, spent, reported, if_neg present, and_self, ↓reduceIte, List.length_nil]
        omega
    · cases given

theorem drain_line (given : decoder.step flush input = (.line line rest, after)) (done : List Line) :
    decoder.drain flush input done = after.drain flush rest (line :: done) := by
  rw [drain]
  split
  · rename_i other
    rw [given] at other
    cases other
    rfl
  · rename_i other
    rw [given] at other
    cases other

theorem drain_needMore (given : decoder.step flush input = (.needMore rest, after)) (done : List Line) :
    decoder.drain flush input done = (done.reverse, { after with input := rest }) := by
  rw [drain]
  split
  · rename_i other
    rw [given] at other
    cases other
  · rename_i other
    rw [given] at other
    cases other
    rfl

theorem drainWithin_drain {calls : Nat} (enough : decoder.callsLeft input ≤ calls) (done : List Line) :
    drainWithin flush calls decoder input done = some (decoder.drain flush input done) := by
  induction calls generalizing decoder input done with
  | zero =>
    unfold callsLeft at enough
    omega
  | succ calls ih =>
    obtain ⟨line, consumed, after, called, inside, stepped⟩ := decodeLine_step decoder flush input
    rw [drainWithin, called]
    cases line with
    | some line =>
      have fewer := callsLeft_step stepped
      rw [drain_line stepped]
      exact ih (by omega) (line :: done)
    | none =>
      rw [drain_needMore stepped]
      rfl

/-- Less than a packet: too few bytes for any, or a header behind its marker that announces more than there is. -/
def Unfinished (format : CaptureFormat) (rest : Bytes) : Prop :=
  rest.length < format.headerOffset + 4 ∨
    ∃ announced, (∀ marker, format.marker? = some marker → marker <+: rest) ∧
      StandardHeader.validate (rest.drop format.headerOffset) = .ok announced ∧
      rest.length < format.headerOffset + announced

theorem unfinished_of_waits {format : CaptureFormat} {bytes : Bytes}
    (waits : Finding.ofBytes format bytes = .short ∨ Finding.ofBytes format bytes = .incomplete) :
    Unfinished format bytes := by
  rcases waits with short | incomplete
  · exact .inl (Finding.short_iff.mp short)
  · right
    obtain ⟨announced, valid, lacking⟩ := Finding.announced_of_incomplete incomplete
    refine ⟨announced, ?_, valid, lacking⟩
    have enough := Finding.enough_of_not_short (by rw [incomplete]; exact Finding.noConfusion)
    have stands := marked_of_leadIn (Nat.le_trans (Nat.le_add_left ..) enough)
      (Finding.leadIn_of_incomplete incomplete)
    intro marker known
    rw [marked, known] at stands
    exact List.isPrefixOf_iff_prefix.mp stands

theorem Unfinished.length_le {format : CaptureFormat} {bytes : Bytes} (unfinished : Unfinished format bytes) :
    bytes.length ≤ format.headerOffset + 65534 := by
  rcases unfinished with short | ⟨announced, -, valid, lacking⟩
  · omega
  · have small := StandardHeader.lt_of_validate valid
    omega

/-- A decoder between two calls: no line waits, no packet does, and what is kept of the input is less than one. -/
structure AtRest (decoder : Decoder) : Prop where
  nothing_held : decoder.heldBack = none
  unfinished : Unfinished decoder.setting.format decoder.input.rest
  few : decoder.input.rest.length ≤ decoder.setting.format.headerOffset + 65534
  waits : decoder.step false decoder.input = (.needMore decoder.input, decoder)

theorem atRest_of_quiet (quiet : Quiet decoder) : AtRest decoder := by
  have unfinished := unfinished_of_waits quiet.waits
  refine ⟨quiet.nothing_held, unfinished, unfinished.length_le, ?_⟩
  have stops := stops_of_quiet quiet
  obtain ⟨setting, builder, heldBack, input⟩ := decoder
  obtain ⟨rfl, -⟩ := quiet
  rw [step]
  simp only [Pass.scan_eq_next, stops, Bool.false_eq_true, ↓reduceIte]

theorem flush_empties (decoder : Decoder) :
    decoder.flush.2.input.rest = [] ∧ decoder.flush.2.heldBack = none ∧ decoder.flush.2.builder.skip.bytes = 0 ∧
      decoder.flush.2.flush = ([], decoder.flush.2) := by
  obtain ⟨empty, reported⟩ := Sweep.run_empties decoder.setting decoder.input decoder.builder
  rw [flush_eq_run decoder]
  refine ⟨empty, rfl, reported, ?_⟩
  rw [flush_eq_run]
  simp only [Sweep.run_nothing empty reported]
  rfl

end Decoder

/-- However a decoder has been used before, a call ends, within its input, and draining an input takes at most one
call for two bytes and three more. Between calls the decoder is at rest, and so it is when bytes have been fed: no
line waits, no packet does, and less than a packet is kept. A flush leaves nothing at all. -/
theorem Session.streaming_ends_and_keeps_little (setting : Setting) (calls : List Call) (flush : Bool) (input : Cursor)
    (data : Bytes) :
    let decoder := ((start setting).run calls).decoder
    (∃ line consumed after, decoder.decodeLine flush input = some (line, consumed, after) ∧
      consumed ≤ input.rest.length ∧
      decoder.step flush input = (Decoder.answer line (input.advance consumed), after)) ∧
    Decoder.drainWithin flush (input.rest.length / 2 + 3) decoder input [] = some (decoder.drain flush input []) ∧
    decoder.AtRest ∧ (decoder.feed data).2.AtRest ∧
    decoder.flush.2.input.rest = [] ∧ decoder.flush.2.heldBack = none ∧ decoder.flush.2.builder.skip.bytes = 0 ∧
    decoder.flush.2.flush = ([], decoder.flush.2) := by
  intro decoder
  have quiet : decoder.Quiet := quiet_run setting calls
  refine ⟨decoder.decodeLine_step flush input, ?_, ?_, ?_, decoder.flush_empties⟩
  · exact Decoder.drainWithin_drain (decoder.callsLeft_le input) []
  · exact Decoder.atRest_of_quiet quiet
  · exact Decoder.atRest_of_quiet (decoder.feed_quiet data)

end Stream

end DiagTrace
