import DiagTrace.Proofs.Stream.Finding
import DiagTrace.Proofs.Stream.Session
import Mathlib.Data.List.Chain

/-!
The lines of a decoder account for every byte: they tile the stream up to the bytes given up and not yet
reported, whatever is fed, flushed or changed in between.
-/
namespace DiagTrace

namespace Bytes

theorem take_drop_append (bs more : Bytes) (offset n : Nat) (inside : offset + n ≤ bs.length) :
    ((bs ++ more).drop offset).take n = (bs.drop offset).take n := by
  rw [List.drop_append_of_le_length (by omega), List.take_append_of_le_length]
  rw [List.length_drop]
  omega

end Bytes

namespace Stream

/-- Bytes of a stream that a line stands for: those given up, or a packet as long as its header says. -/
def span (format : CaptureFormat) (stream : Bytes) : Line → Nat
  | .skipped _ bytes _ => bytes
  | line => format.headerOffset
      + StandardHeader.numberAt stream (line.header.position + format.headerOffset + 2) 2

def leastSpan (format : CaptureFormat) (line : Line) : Nat :=
  if line.isSkipped then 1 else format.headerOffset + 4

inductive Tiles (format : CaptureFormat) (stream : Bytes) : Nat → List Line → Nat → Prop where
  | nil (stop : Nat) : Tiles format stream stop [] stop
  | cons {start stop : Nat} {line : Line} {rest : List Line}
      (first : line.header.position = start) (something : leastSpan format line ≤ span format stream line)
      (tail : Tiles format stream (start + span format stream line) rest stop) :
      Tiles format stream start (line :: rest) stop

variable {format : CaptureFormat} {stream : Bytes} {start middle stop : Nat} {lines others : List Line}

theorem tiles_append (front : Tiles format stream start lines middle)
    (back : Tiles format stream middle others stop) : Tiles format stream start (lines ++ others) stop := by
  induction front with
  | nil => exact back
  | cons first something tail ih => exact .cons first something (ih back)

theorem tiles_start_le (tiles : Tiles format stream start lines stop) : start ≤ stop := by
  induction tiles with
  | nil => omega
  | cons first something tail ih => omega

theorem span_whole (stream : Bytes) {line : Line} (whole : line.isSkipped = false) :
    span format stream line =
      format.headerOffset
        + StandardHeader.numberAt stream (line.header.position + format.headerOffset + 2) 2 := by
  cases line with
  | skipped => cases whole
  | normal => rfl
  | control => rfl

theorem leastSpan_whole {line : Line} (whole : line.isSkipped = false) :
    leastSpan format line = format.headerOffset + 4 := by
  simp [leastSpan, whole]

theorem span_append (stream more : Bytes) (line : Line)
    (inside : line.header.position + leastSpan format line ≤ stream.length) :
    span format (stream ++ more) line = span format stream line := by
  cases skipped : line.isSkipped with
  | true => cases line <;> first | rfl | cases skipped
  | false =>
    rw [leastSpan_whole skipped] at inside
    rw [span_whole _ skipped, span_whole _ skipped, StandardHeader.numberAt, StandardHeader.numberAt,
      Bytes.take_drop_append _ _ _ _ (by omega)]

theorem tiles_more (tiles : Tiles format stream start lines stop) (inside : stop ≤ stream.length)
    (more : Bytes) : Tiles format (stream ++ more) start lines stop := by
  induction tiles with
  | nil => exact .nil _
  | @cons start stop line rest first something tail ih =>
    have ends := tiles_start_le tail
    have same : span format (stream ++ more) line = span format stream line :=
      span_append stream more line (by omega)
    refine .cons first (by omega) ?_
    rw [same]
    exact ih inside

theorem candidate_length {rest : Bytes} {length : Nat}
    (found : Finding.ofBytes format rest = .candidate length) :
    length = format.headerOffset + StandardHeader.numberAt rest (format.headerOffset + 2) 2 ∧
      format.headerOffset + 4 ≤ length := by
  obtain ⟨announced, valid, rfl, _⟩ := Finding.announced_of_candidate found
  have least := StandardHeader.four_le_of_validate valid
  refine ⟨?_, by omega⟩
  unfold StandardHeader.validate at valid
  split at valid
  · rename_i type count high low behind front
    simp only at valid
    split at valid
    · cases valid
    · split at valid
      · cases valid
      · cases valid
        rw [StandardHeader.numberAt, ← List.drop_drop, front]
        rfl
  · cases valid

/-- The input is the part of a stream from its position on, and bytes given up and not yet reported end
there. -/
structure Aligned (stream : Bytes) (input : Cursor) (builder : Builder) : Prop where
  held : input.rest = stream.drop input.position
  inside : input.position ≤ stream.length
  counted : builder.skip.bytes ≤ input.position
  opened : builder.skip.bytes ≠ 0 → builder.skip.position = input.position - builder.skip.bytes

def mark (input : Cursor) (builder : Builder) : Nat := input.position - builder.skip.bytes

namespace Pass

theorem skip_bytes (builder : Builder) (bytes position : Nat) (reason : SkipReason) :
    (skip builder bytes position reason).skip.bytes = builder.skip.bytes + bytes := by
  by_cases nothing : bytes = 0
  · rw [skip, if_pos nothing, nothing, Nat.add_zero]
  · rw [skip, if_neg nothing, Builder.countSkipped_bytes]
    split
    · rfl
    · rfl

theorem skip_position (builder : Builder) (bytes position : Nat) (reason : SkipReason) (some_bytes : bytes ≠ 0) :
    (skip builder bytes position reason).skip.position =
      if builder.skip.bytes = 0 then position else builder.skip.position := by
  by_cases unopened : builder.skip.bytes = 0
  · simp [skip, some_bytes, unopened, Builder.countSkipped, Builder.setPosition, Builder.openSkip]
  · simp [skip, some_bytes, unopened, Builder.countSkipped]

theorem skip_nextNumber (builder : Builder) (bytes position : Nat) (reason : SkipReason) :
    (skip builder bytes position reason).nextNumber = builder.nextNumber := by
  simp only [skip, Builder.countSkipped, Builder.setPosition]
  split
  · rfl
  · split <;> rfl

end Pass

namespace Aligned

variable {setting : Setting} {flush : Bool} {input : Cursor} {builder after : Builder}
variable {bytes length : Nat} {reason : SkipReason} {line : Line}

theorem same_skip (aligned : Aligned stream input builder) (same : after.skip = builder.skip) :
    Aligned stream input after :=
  ⟨aligned.held, aligned.inside, same ▸ aligned.counted, same ▸ aligned.opened⟩

theorem skip_bytes (aligned : Aligned stream input builder) (positive : 0 < bytes)
    (present : bytes ≤ input.rest.length) :
    Aligned stream (input.advance bytes) (Pass.skip builder bytes input.position reason) := by
  have counted := Pass.skip_bytes builder bytes input.position reason
  have placed := Pass.skip_position builder bytes input.position reason (by omega)
  have before := aligned.counted
  rw [aligned.held, List.length_drop] at present
  refine ⟨?_, ?_, ?_, ?_⟩
  · simp only [Cursor.advance, aligned.held, List.drop_drop]
  · simp only [Cursor.advance]
    omega
  · simp only [Cursor.advance]
    omega
  · intro _
    rw [placed, counted]
    simp only [Cursor.advance]
    split
    · omega
    · rename_i open_span
      have opened := aligned.opened open_span
      omega

/-- Bytes given up of a stream are few enough for the 64 bits of a count. -/
theorem addSkipped_eq (aligned : Aligned stream input builder) (short : stream.length < Bytes.capacity 8)
    (present : bytes ≤ input.rest.length) (text : String) :
    builder.addSkipped (UInt64.ofNat bytes) text = builder.countSkipped bytes text := by
  rw [aligned.held, List.length_drop] at present
  have inside := aligned.inside
  have counted := aligned.counted
  have exact_bytes : (UInt64.ofNat bytes).toNat = bytes :=
    UInt64.toNat_ofNat_of_lt (Nat.lt_of_le_of_lt (by omega) short)
  have fits : builder.skip.bytes + (UInt64.ofNat bytes).toNat < Bytes.capacity 8 := by
    rw [exact_bytes]
    omega
  rw [Builder.addSkipped_of_fits fits, exact_bytes]

theorem advance (aligned : Aligned stream input builder) (present : length ≤ input.rest.length)
    (reported : after.skip.bytes = 0) : Aligned stream (input.advance length) after := by
  rw [aligned.held, List.length_drop] at present
  have before := aligned.inside
  refine ⟨?_, ?_, by omega, fun some_bytes => absurd reported some_bytes⟩
  · simp only [Cursor.advance, aligned.held, List.drop_drop]
  · simp only [Cursor.advance]
    omega

end Aligned

def Numbered (first : Nat) (lines : List Line) : Prop :=
  lines.map Line.number = List.range' first lines.length

theorem numbered_append {first : Nat} (front : Numbered first lines)
    (back : Numbered (first + lines.length) others) : Numbered first (lines ++ others) := by
  unfold Numbered at *
  rw [List.map_append, front, back, List.length_append, List.range'_append_1]

def Apart (lines : List Line) : Prop :=
  lines.IsChain fun line next => line.isSkipped = true → next.isSkipped = false

structure Accounted (format : CaptureFormat) (stream : Bytes) (input : Cursor) (builder : Builder)
    (sweep : Sweep) : Prop where
  aligned : Aligned stream sweep.rest sweep.builder
  tiled : Tiles format stream (mark input builder) sweep.lines (mark sweep.rest sweep.builder)
  numbered : Numbered builder.nextNumber sweep.lines
  next : sweep.builder.nextNumber = builder.nextNumber + sweep.lines.length
  apart : Apart sweep.lines

@[simp] theorem header_withNumber (line : Line) (number : Nat) :
    (line.withNumber number).header = { line.header with number } := by
  cases line <;> rfl

@[simp] theorem number_withNumber (line : Line) (number : Nat) : (line.withNumber number).number = number := by
  cases line <;> rfl

@[simp] theorem isSkipped_withNumber (line : Line) (number : Nat) :
    (line.withNumber number).isSkipped = line.isSkipped := by
  cases line <;> rfl

theorem span_withNumber (line : Line) (number : Nat) :
    span format stream (line.withNumber number) = span format stream line := by
  cases line <;> rfl

theorem leastSpan_withNumber (line : Line) (number : Nat) :
    leastSpan format (line.withNumber number) = leastSpan format line := by
  cases line <;> rfl

theorem tiles_takeSkipped {input : Cursor} {builder : Builder} (aligned : Aligned stream input builder)
    (open_span : builder.skip.bytes ≠ 0) (number : Nat)
    (tail : Tiles format stream input.position lines stop) :
    Tiles format stream (mark input builder) (builder.takeSkipped.1.withNumber number :: lines) stop := by
  have opened := aligned.opened open_span
  have counted := aligned.counted
  refine .cons opened ?_ ?_
  · simp only [leastSpan, Builder.takeSkipped, Line.withNumber, Line.withHeader, Line.isSkipped, ↓reduceIte,
      span]
    omega
  · simp only [Builder.takeSkipped, Line.withNumber, Line.withHeader, span, mark]
    rw [Nat.sub_add_cancel counted]
    exact tail

section Deliver

variable {input : Cursor} {builder : Builder} {line : Line} {length : Nat}

theorem deliver_tiles (aligned : Aligned stream input builder)
    (at_front : line.header.position = input.position) (something : leastSpan format line ≤ length)
    (whole : span format stream line = length) :
    Tiles format stream (mark input builder) (Pass.deliver line (input.advance length) builder).lines
      (input.position + length) := by
  have last : ∀ number, Tiles format stream input.position [line.withNumber number]
      (input.position + length) := by
    intro number
    refine .cons (by simpa using at_front) ?_ ?_
    · rw [span_withNumber, leastSpan_withNumber, whole]
      exact something
    · rw [span_withNumber, whole]
      exact .nil _
  simp only [Pass.deliver]
  split
  · rename_i reported
    have same : line.withNumber line.number = line := by cases line <;> rfl
    simpa [Pass.lines, mark, reported, same] using last line.number
  · rename_i open_span
    exact tiles_takeSkipped aligned open_span _ (last _)

/-- The numbers are swapped where a report goes first, so they stay in order. -/
theorem deliver_numbered (rest : Cursor) (next : builder.nextNumber = line.number + 1) :
    Numbered line.number (Pass.deliver line rest builder).lines ∧
      (Pass.deliver line rest builder).builder.nextNumber =
        line.number + (Pass.deliver line rest builder).lines.length := by
  simp only [Pass.deliver]
  split
  · exact ⟨rfl, next⟩
  · constructor
    · have second : builder.takeSkipped.1.number = line.number + 1 := next
      simp [Numbered, Pass.lines, second, List.range']
    · simp [Pass.lines, Builder.takeSkipped, next]

theorem deliver_reported (line : Line) (rest : Cursor) (builder : Builder) :
    (Pass.deliver line rest builder).builder.skip.bytes = 0 := by
  simp only [Pass.deliver]
  split
  · assumption
  · rfl

theorem deliver_apart (whole : line.isSkipped = false) (rest : Cursor) (tail : Apart others) :
    Apart ((Pass.deliver line rest builder).lines ++ others) := by
  have behind : ∀ number, Apart (line.withNumber number :: others) := by
    intro number
    refine List.isChain_cons.mpr ⟨?_, tail⟩
    intro next _ skipped
    rw [isSkipped_withNumber, whole] at skipped
    cases skipped
  simp only [Pass.deliver]
  split
  · have same : line.withNumber line.number = line := by cases line <;> rfl
    have first := behind line.number
    rw [same] at first
    exact first
  · refine List.isChain_cons_cons.mpr ⟨?_, behind _⟩
    intro _
    rw [isSkipped_withNumber]
    exact whole

end Deliver

section Sweep

variable {setting : Setting} {flush : Bool} {input : Cursor} {builder after : Builder}
variable {bytes length : Nat} {reason : SkipReason} {line : Line}

theorem giveUp_kept (move : Move.next setting flush input builder = .giveUp bytes reason after) :
    after.skip = builder.skip ∧ after.nextNumber = builder.nextNumber := by
  rcases Move.next_giveUp move with ⟨_, rfl⟩ | ⟨_, _, _, _, rfl⟩ | ⟨length, fault, _, decoded, _⟩
  · exact ⟨rfl, rfl⟩
  · exact ⟨rfl, rfl⟩
  · have kept := Packet.decode_kept setting builder (input.rest.take length) input.position
    rw [decoded] at kept
    exact kept

theorem mark_skip (aligned : Aligned stream input builder) (same : after.skip = builder.skip) :
    mark (input.advance bytes) (Pass.skip after bytes input.position reason) = mark input builder := by
  have counted := aligned.counted
  simp only [mark, Cursor.advance, Pass.skip_bytes, same]
  omega

theorem atEnd_accounts (format : CaptureFormat) (aligned : Aligned stream input builder) :
    Accounted format stream input builder (Sweep.atStop true input builder) := by
  let last := input.advance input.remaining
  let skipped := Pass.skip builder input.remaining input.position .endOfStream
  have numbers : skipped.nextNumber = builder.nextNumber := Pass.skip_nextNumber ..
  have aligned_last : Aligned stream last skipped ∧ mark last skipped = mark input builder := by
    by_cases empty : input.remaining = 0
    · have same : last = input := by
        simp [last, Cursor.advance, empty]
      have unchanged : skipped = builder := by
        simp [skipped, Pass.skip, empty]
      rw [same, unchanged]
      exact ⟨aligned, rfl⟩
    · exact ⟨aligned.skip_bytes (Nat.pos_of_ne_zero empty) (Nat.le_refl _), mark_skip aligned rfl⟩
  obtain ⟨settled, marked⟩ := aligned_last
  by_cases reported : skipped.skip.bytes = 0
  · have none_left : Sweep.atStop true input builder = ⟨[], last, skipped⟩ := by
      simp [Sweep.atStop, Pass.atEnd, Pass.lines, reported, last, skipped]
    rw [none_left]
    exact ⟨settled, marked ▸ .nil _, rfl, numbers, .nil⟩
  · have one_left : Sweep.atStop true input builder =
        ⟨[skipped.takeSkipped.1], last, skipped.takeSkipped.2⟩ := by
      simp [Sweep.atStop, Pass.atEnd, Pass.lines, reported, last, skipped]
    rw [one_left]
    have same : skipped.takeSkipped.1.withNumber skipped.nextNumber = skipped.takeSkipped.1 := rfl
    have tiled : Tiles format stream (mark last skipped)
        [skipped.takeSkipped.1.withNumber skipped.nextNumber] last.position :=
      tiles_takeSkipped settled reported skipped.nextNumber (.nil _)
    rw [same, marked] at tiled
    refine ⟨?_, tiled, ?_, ?_, .singleton _⟩
    · exact ⟨settled.held, settled.inside, Nat.zero_le _, fun some_bytes => absurd rfl some_bytes⟩
    · simp [Numbered, Line.number, Builder.takeSkipped, Line.header, numbers]
    · simp [Builder.takeSkipped, numbers]

theorem run_accounts (setting : Setting) (flush : Bool) (input : Cursor) (builder : Builder)
    (aligned : Aligned stream input builder) :
    Accounted setting.format stream input builder (Sweep.run setting flush input builder) := by
  fun_induction Sweep.run setting flush input builder with
  | case1 input builder move =>
    cases flush with
    | true => exact atEnd_accounts setting.format aligned
    | false => exact ⟨aligned, .nil _, rfl, rfl, .nil⟩
  | case2 input builder bytes reason after move bounds ih =>
    obtain ⟨same, numbers⟩ := giveUp_kept move
    have swept := ih ((aligned.same_skip same).skip_bytes bounds.1 bounds.2)
    refine ⟨swept.aligned, ?_, ?_, ?_, swept.apart⟩
    · exact mark_skip aligned same ▸ swept.tiled
    · exact numbers ▸ Pass.skip_nextNumber after .. ▸ swept.numbered
    · exact numbers ▸ Pass.skip_nextNumber after .. ▸ swept.next
  | case3 input builder length line after move bounds ih =>
    obtain ⟨found, decoded⟩ := Move.next_packet move
    obtain ⟨at_front, numbered, whole⟩ := Packet.decode_line decoded
    have kept := Packet.decode_kept setting builder (input.rest.take length) input.position
    rw [decoded] at kept
    obtain ⟨same, next⟩ : after.skip = builder.skip ∧ after.nextNumber = builder.nextNumber + 1 := kept
    have number : line.number = builder.nextNumber := numbered
    have ready := aligned.same_skip same
    have reported := deliver_reported line (input.advance length) after
    have swept := ih (ready.advance bounds.2 reported)
    obtain ⟨long, least⟩ := candidate_length found
    have covers : span setting.format stream line = length := by
      rw [span_whole stream whole, at_front, Nat.add_assoc, StandardHeader.numberAt, ← List.drop_drop,
        ← aligned.held]
      exact long.symm
    have front := deliver_tiles ready at_front (by rw [leastSpan_whole whole]; exact least) covers
    have numbers := deliver_numbered (input.advance length) (number.symm ▸ next)
    rw [number] at numbers
    refine ⟨swept.aligned, ?_, ?_, ?_, deliver_apart whole _ swept.apart⟩
    · have resumed : mark (input.advance length)
          (Pass.deliver line (input.advance length) after).builder = input.position + length := by
        rw [mark, reported]
        rfl
      have marked : mark input after = mark input builder := by rw [mark, mark, same]
      exact tiles_append (marked ▸ front) (resumed ▸ swept.tiled)
    · exact numbered_append numbers.1 (numbers.2 ▸ swept.numbered)
    · simp only [Sweep.behind, List.length_append]
      rw [swept.next, numbers.2]
      omega

theorem run_ends_whole (setting : Setting) (input : Cursor) (builder : Builder) (fed : flush = false) :
    ∀ last ∈ (Sweep.run setting flush input builder).lines.getLast?, last.isSkipped = false := by
  fun_induction Sweep.run setting flush input builder with
  | case1 input builder move =>
    subst fed
    intro last present
    cases present
  | case2 input builder bytes reason after move bounds ih => exact ih
  | case3 input builder length line after move bounds ih =>
    obtain ⟨_, decoded⟩ := Move.next_packet move
    have whole := (Packet.decode_line decoded).2.2
    intro last present
    rw [Sweep.behind, List.getLast?_append, Option.mem_def, Option.or_eq_some_iff] at present
    rcases present with behind | ⟨_, front⟩
    · exact ih last behind
    · simp only [Pass.deliver] at front
      split at front
      · obtain rfl : line = last := by simpa [Pass.lines] using front
        exact whole
      · obtain rfl : line.withNumber after.takeSkipped.1.number = last := by simpa [Pass.lines] using front
        rw [isSkipped_withNumber]
        exact whole

end Sweep

def Separated (returned : List (Nat × Line)) : Prop :=
  returned.IsChain fun earlier later =>
    earlier.2.isSkipped = true → later.2.isSkipped = true → earlier.1 < later.1

theorem separated_of_apart {flushes : Nat} (apart : Apart lines) : Separated (lines.map (flushes, ·)) := by
  refine (List.isChain_map _).mpr (apart.imp ?_)
  intro line next kept skipped reported
  rw [kept skipped] at reported
  cases reported

namespace Session

/-- What holds between any two calls. -/
structure Balanced (session : Session) : Prop where
  nothing_held : session.decoder.heldBack = none
  aligned : Aligned session.fed session.decoder.input session.decoder.builder
  tiled : Tiles session.decoder.setting.format session.fed 0 session.lines
    (mark session.decoder.input session.decoder.builder)
  numbered : Numbered 0 session.lines
  next : session.decoder.builder.nextNumber = session.lines.length
  separated : Separated session.returned
  flushed : ∀ last ∈ session.returned.getLast?, last.2.isSkipped = true → last.1 < session.flushes

theorem balanced_start (setting : Setting) : Balanced (Session.start setting) := by
  refine ⟨rfl, ?_, .nil 0, rfl, rfl, .nil, ?_⟩
  · exact ⟨rfl, Nat.le_refl 0, Nat.le_refl 0, fun some_bytes => absurd rfl some_bytes⟩
  · intro last present
    cases present

theorem lines_record (session : Session) (result : List Line × Decoder) :
    (session.record result).lines = session.lines ++ result.1 := by
  simp [lines, record, Function.comp_def]

variable {session : Session}

theorem lines_feed (nothing_held : session.decoder.heldBack = none) (data : Bytes) :
    (session.call (.feed data)).lines = session.lines ++ (Sweep.run session.decoder.setting false
      ⟨session.decoder.input.rest ++ data, session.decoder.input.position⟩ session.decoder.builder).lines := by
  rw [call, Decoder.feed_eq_run, nothing_held]
  exact lines_record session _

theorem lines_flush (nothing_held : session.decoder.heldBack = none) :
    (session.call .flush).lines = session.lines ++
      (Sweep.run session.decoder.setting true session.decoder.input session.decoder.builder).lines := by
  rw [call, Decoder.flush_eq_run, nothing_held]
  exact lines_record session _

theorem separated_record (balanced : Balanced session) (decoder : Decoder) {more : List Line}
    (apart : Apart more) : Separated (session.record (more, decoder)).returned := by
  refine List.isChain_append.mpr ⟨balanced.separated, separated_of_apart apart, ?_⟩
  intro earlier last later first skipped _
  have flushed := balanced.flushed earlier last skipped
  obtain ⟨_, _, rfl⟩ := List.mem_map.mp (List.mem_of_mem_head? first)
  exact flushed

theorem aligned_more {stream : Bytes} {input : Cursor} {builder : Builder}
    (aligned : Aligned stream input builder) (more : Bytes) :
    Aligned (stream ++ more) ⟨input.rest ++ more, input.position⟩ builder := by
  refine ⟨?_, ?_, aligned.counted, aligned.opened⟩
  · rw [List.drop_append_of_le_length aligned.inside, aligned.held]
  · have inside := aligned.inside
    rw [List.length_append]
    exact Nat.le_add_right_of_le inside

theorem balanced_feed (balanced : Balanced session) (data : Bytes) : Balanced (session.call (.feed data)) := by
  let input : Cursor := ⟨session.decoder.input.rest ++ data, session.decoder.input.position⟩
  let sweep := Sweep.run session.decoder.setting false input session.decoder.builder
  have swept := run_accounts session.decoder.setting false input session.decoder.builder
    (aligned_more balanced.aligned data)
  have fed : session.decoder.feed data =
      (sweep.lines, ⟨session.decoder.setting, sweep.builder, none, sweep.rest⟩) := by
    rw [Decoder.feed_eq_run, balanced.nothing_held]
    rfl
  have inside : mark session.decoder.input session.decoder.builder ≤ session.fed.length :=
    Nat.le_trans (Nat.sub_le _ _) balanced.aligned.inside
  have before := tiles_more balanced.tiled inside data
  have lines_after : (session.call (.feed data)).lines = session.lines ++ sweep.lines :=
    lines_feed balanced.nothing_held data
  refine ⟨by rw [call, fed]; rfl, by rw [call, fed]; exact swept.aligned, ?_, ?_, ?_, ?_, ?_⟩
  · rw [lines_after, call, fed]
    exact tiles_append before swept.tiled
  · rw [lines_after]
    exact numbered_append balanced.numbered (by rw [Nat.zero_add, ← balanced.next]; exact swept.numbered)
  · rw [lines_after, List.length_append, ← balanced.next, call, fed]
    exact swept.next
  · rw [call, fed]
    exact separated_record balanced _ swept.apart
  · rw [call, fed]
    intro last present skipped
    simp only [record] at present
    rw [List.getLast?_append, Option.mem_def, Option.or_eq_some_iff, List.getLast?_map,
      Option.map_eq_some_iff] at present
    rcases present with ⟨line, ends, rfl⟩ | ⟨_, before⟩
    · rw [run_ends_whole session.decoder.setting input session.decoder.builder rfl line ends] at skipped
      cases skipped
    · exact balanced.flushed last before skipped

theorem balanced_flush (balanced : Balanced session) :
    Balanced (session.call .flush) ∧ (session.call .flush).decoder.input.rest = [] ∧
      (session.call .flush).decoder.builder.skip.bytes = 0 := by
  let sweep := Sweep.run session.decoder.setting true session.decoder.input session.decoder.builder
  have swept := run_accounts session.decoder.setting true session.decoder.input session.decoder.builder
    balanced.aligned
  have flushed : session.decoder.flush =
      (sweep.lines, ⟨session.decoder.setting, sweep.builder, none, sweep.rest⟩) := by
    rw [Decoder.flush_eq_run, balanced.nothing_held]
    rfl
  have lines_after : (session.call .flush).lines = session.lines ++ sweep.lines :=
    lines_flush balanced.nothing_held
  refine ⟨⟨by rw [call, flushed]; rfl, by rw [call, flushed]; exact swept.aligned, ?_, ?_, ?_, ?_, ?_⟩, ?_⟩
  · rw [lines_after, call, flushed]
    exact tiles_append balanced.tiled swept.tiled
  · rw [lines_after]
    exact numbered_append balanced.numbered (by rw [Nat.zero_add, ← balanced.next]; exact swept.numbered)
  · rw [lines_after, List.length_append, ← balanced.next, call, flushed]
    exact swept.next
  · rw [call, flushed]
    exact separated_record balanced _ swept.apart
  · rw [call, flushed]
    intro last present skipped
    simp only [record] at present
    rw [List.getLast?_append, Option.mem_def, Option.or_eq_some_iff, List.getLast?_map,
      Option.map_eq_some_iff] at present
    rcases present with ⟨line, _, rfl⟩ | ⟨_, before⟩
    · exact Nat.lt_succ_self session.flushes
    · exact Nat.lt_succ_of_lt (balanced.flushed last before skipped)
  · rw [call, flushed]
    exact Sweep.run_empties session.decoder.setting session.decoder.input session.decoder.builder

theorem balanced_adjust (balanced : Balanced session) (control : Control.Registry)
    (nonVerbose : NonVerbose.Codec) : Balanced (session.call (.adjust control nonVerbose)) :=
  ⟨balanced.nothing_held, balanced.aligned, balanced.tiled, balanced.numbered, balanced.next,
    balanced.separated, balanced.flushed⟩

theorem balanced_run (setting : Setting) (calls : List Call) :
    Balanced ((Session.start setting).run calls) ∧
      ((Session.start setting).run calls).decoder.setting.format = setting.format := by
  refine run_invariant Balanced (balanced_start setting) ?_ calls
  intro session call _ balanced
  cases call with
  | feed data => exact balanced_feed balanced data
  | flush => exact (balanced_flush balanced).1
  | adjust control nonVerbose => exact balanced_adjust balanced control nonVerbose

/-- Whatever is fed, flushed and adjusted, the lines tile the stream in order and are numbered from zero. -/
theorem lines_account_for_every_byte (setting : Setting) (calls : List Call) :
    let session := (Session.start setting).run calls
    let flushed := session.call .flush
    session.decoder.heldBack = none ∧
    session.decoder.input.rest = session.fed.drop session.decoder.input.position ∧
    session.decoder.input.position ≤ session.fed.length ∧
    session.decoder.builder.skip.bytes ≤ session.decoder.input.position ∧
    Tiles setting.format session.fed 0 session.lines
      (session.decoder.input.position - session.decoder.builder.skip.bytes) ∧
    session.lines.map Line.number = List.range session.lines.length ∧
    Separated session.returned ∧
    flushed.decoder.input.rest = [] ∧ flushed.decoder.builder.skip.bytes = 0 ∧
    Tiles setting.format session.fed 0 flushed.lines session.fed.length := by
  intro session flushed
  obtain ⟨balanced, same⟩ := balanced_run setting calls
  obtain ⟨settled, emptied, reported⟩ := balanced_flush balanced
  have tiled := balanced.tiled
  have covered := settled.tiled
  have whole : flushed.decoder.input.position = session.fed.length := by
    have held := settled.aligned.held
    rw [emptied, eq_comm, List.drop_eq_nil_iff] at held
    exact Nat.le_antisymm settled.aligned.inside held
  rw [same] at tiled
  rw [format_call, same, mark, reported] at covered
  refine ⟨balanced.nothing_held, balanced.aligned.held, balanced.aligned.inside, balanced.aligned.counted,
    tiled, ?_, balanced.separated, emptied, reported, ?_⟩
  · rw [List.range_eq_range']
    exact balanced.numbered
  · rw [← whole]
    exact covered

end Session

end Stream

end DiagTrace
