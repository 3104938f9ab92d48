import DiagTrace.Bytes.Cursor
import DiagTrace.Stream.Finding
import DiagTrace.Stream.Packet

/-!
One pass over the input of a stream, up to the next line. Bytes that are no packet are never an error: they
are counted and reported as a line of their own in front of the next good line, so that the lines account
for every byte. A pass that gives a line leaves less to do (`scan_work`).
-/
namespace DiagTrace.Stream

inductive Delivery where
  /-- A line, and perhaps the line behind it. -/
  | line (line : Line) (heldBack : Option Line)
  | needMore

/-- A delivery, the input behind it and the builder for the next line. -/
structure Pass where
  delivery : Delivery
  rest : Cursor
  builder : Builder

namespace Pass

/-- Gives bytes up at a position; the first bytes given up remember it. -/
def skip (builder : Builder) (bytes position : Nat) (reason : SkipReason) : Builder :=
  if bytes = 0 then builder
  else
    let placed := if builder.skip.bytes = 0 then builder.setPosition position else builder
    placed.countSkipped bytes reason.text

/-- The end of a stream: what is left is given up, and what was given up is reported. -/
def atEnd (input : Cursor) (builder : Builder) : Pass :=
  let last := input.advance input.remaining
  let skipped := skip builder input.remaining input.position .endOfStream
  if skipped.skip.bytes = 0 then ⟨.needMore, last, skipped⟩
  else
    let (line, cleared) := skipped.takeSkipped
    ⟨.line line none, last, cleared⟩

/-- A good line. Bytes given up before it are reported first, and so get the lower number. -/
def deliver (line : Line) (rest : Cursor) (builder : Builder) : Pass :=
  if builder.skip.bytes = 0 then ⟨.line line none, rest, builder⟩
  else
    let (skipped, cleared) := builder.takeSkipped
    ⟨.line (skipped.withNumber line.number) (some (line.withNumber skipped.number)), rest, cleared⟩

/-- Looks for the next line. At the end of a stream (`flush`) nothing is kept back for more input. -/
def scan (setting : Setting) (flush : Bool) (input : Cursor) (builder : Builder) : Pass :=
  let giveUp := setting.format.minimumDiscard
  match found : Finding.ofBytes setting.format input.rest with
  | .short => if flush then atEnd input builder else ⟨.needMore, input, builder⟩
  | .noise bytes reason =>
    have := Finding.noise_bounds found
    scan setting flush (input.advance bytes) (skip builder bytes input.position reason)
  | .incomplete =>
    have := Finding.four_le_length (by rw [found]; exact Finding.noConfusion)
    have := Finding.minimumDiscard_pos setting.format
    if flush then
      scan setting flush (input.advance giveUp) (skip builder giveUp input.position .incomplete)
    else ⟨.needMore, input, builder⟩
  | .candidate length =>
    have := Finding.four_le_length (by rw [found]; exact Finding.noConfusion)
    have := Finding.minimumDiscard_pos setting.format
    match Packet.decode setting builder (input.rest.take length) input.position with
    | (.ok line, builder) => deliver line (input.advance length) builder
    | (.error _, builder) =>
      scan setting flush (input.advance giveUp) (skip builder giveUp input.position .invalidPacket)
termination_by input.rest.length
decreasing_by all_goals simp only [Cursor.advance, List.length_drop]; omega

/-- What is left to do: unread bytes count twice, a line held back and bytes to report once. -/
def work (rest : Bytes) (builder : Builder) (heldBack : Option Line) : Nat :=
  2 * rest.length + (if heldBack.isSome then 1 else 0) + (if builder.skip.bytes = 0 then 0 else 1)

theorem deliver_work {line : Line} {input : Cursor} {bytes : Nat} {builder before : Builder}
    (some_bytes : 4 ≤ bytes) (present : bytes ≤ input.rest.length) {first : Line}
    {heldBack : Option Line}
    (delivered : (deliver line (input.advance bytes) builder).delivery = .line first heldBack) :
    work (deliver line (input.advance bytes) builder).rest.rest
      (deliver line (input.advance bytes) builder).builder heldBack < work input.rest before none := by
  unfold deliver at *
  split at delivered <;> cases delivered <;> simp_all [work, Cursor.advance, Builder.takeSkipped] <;>
    omega

theorem work_advance {input : Cursor} {bytes : Nat} {before after : Builder}
    (positive : 0 < bytes) (present : 0 < input.rest.length) :
    work (input.advance bytes).rest after none < work input.rest before none := by
  have least : (if after.skip.bytes = 0 then 0 else 1) ≤ 1 := by split <;> omega
  simp only [work, Cursor.advance, List.length_drop, Option.isSome_none, Bool.false_eq_true,
    ↓reduceIte]
  omega

/-- At the end of a stream a line comes only from bytes left or bytes given up before. -/
theorem atEnd_work {line : Line} {heldBack : Option Line} {input : Cursor} {builder : Builder}
    (delivered : (atEnd input builder).delivery = .line line heldBack) :
    work (atEnd input builder).rest.rest (atEnd input builder).builder heldBack
      < work input.rest builder none := by
  have something : 0 < work input.rest builder none := by
    by_cases empty : input.rest.length = 0
    · by_cases none_skipped : builder.skip.bytes = 0
      · simp [atEnd, skip, Cursor.remaining, empty, none_skipped] at delivered
      · simp [work, none_skipped]
    · simp only [work]
      omega
  refine Nat.lt_of_le_of_lt ?_ something
  simp only [atEnd] at *
  split at delivered
  · cases delivered
  · rename_i remains
    cases delivered
    simp only [remains, ↓reduceIte]
    simp [work, Cursor.advance, Cursor.remaining, Builder.takeSkipped]

/-- A pass that gives a line leaves less to do. -/
theorem scan_work {setting : Setting} {flush : Bool} {input : Cursor} {builder : Builder}
    {line : Line} {heldBack : Option Line}
    (delivered : (scan setting flush input builder).delivery = .line line heldBack) :
    work (scan setting flush input builder).rest.rest (scan setting flush input builder).builder
      heldBack < work input.rest builder none := by
  fun_induction scan setting flush input builder with
  | case1 => exact atEnd_work delivered
  | case2 => cases delivered
  | case3 _ _ _ _ _ bounds ih =>
    exact Nat.lt_trans (ih delivered) (work_advance bounds.1 (by omega))
  | case4 _ _ _ _ _ positive _ ih =>
    exact Nat.lt_trans (ih delivered) (work_advance positive (by omega))
  | case5 => cases delivered
  | case6 _ _ _ found =>
    have bounds := Finding.candidate_bounds found
    exact deliver_work bounds.1 bounds.2 delivered
  | case7 _ _ _ _ _ _ positive _ _ _ ih =>
    exact Nat.lt_trans (ih delivered) (work_advance positive (by omega))

end Pass

end DiagTrace.Stream
