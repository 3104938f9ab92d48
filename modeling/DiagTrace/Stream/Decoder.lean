import DiagTrace.Stream.Pass

/-!
Decoding a stream of packets. Input comes in pieces of any size; what does not yet make a packet is kept,
and so is a line that waits behind a report of skipped bytes.
-/
namespace DiagTrace.Stream

/-- A decoder of one stream: its setting, the line being filled in, a line that waits behind a report of
skipped bytes, and input that does not yet make a packet. -/
structure Decoder where
  setting : Setting
  builder : Builder
  heldBack : Option Line
  input : Cursor

inductive Step where
  | line (line : Line) (rest : Cursor)
  | needMore (rest : Cursor)

namespace Decoder

def start (setting : Setting) (clock : Clock) : Decoder :=
  ⟨setting, .start clock, none, .ofBytes []⟩

/-- A decoder with the services and wire types of the standard. -/
def standard (format : CaptureFormat) (clock : Clock) (frames : Option FrameMap) : Decoder :=
  start ⟨format, .standard, NonVerbose.Codec.standard.withFrames frames⟩ clock

/-- The first line of an input. A line that waits comes first and takes nothing from the input. -/
def step (decoder : Decoder) (flush : Bool) (input : Cursor) : Step × Decoder :=
  match decoder.heldBack with
  | some line => (.line line input, { decoder with heldBack := none })
  | none =>
    let pass := Pass.scan decoder.setting flush input decoder.builder
    match pass.delivery with
    | .line line heldBack => (.line line pass.rest, { decoder with builder := pass.builder, heldBack })
    | .needMore => (.needMore pass.rest, { decoder with builder := pass.builder })

def work (decoder : Decoder) (input : Cursor) : Nat :=
  Pass.work input.rest decoder.builder decoder.heldBack

theorem step_work {decoder after : Decoder} {flush : Bool} {input rest : Cursor} {line : Line}
    (given : decoder.step flush input = (.line line rest, after)) :
    after.work rest < decoder.work input := by
  unfold step at given
  split at given
  · rename_i waiting
    cases given
    simp [work, Pass.work, waiting]
  · rename_i nothing
    simp only at given
    split at given
    · rename_i delivered
      cases given
      have := Pass.scan_work delivered
      simpa [work, nothing] using this
    · cases given

/-- All lines of an input behind those already read, newest first; what remains is kept. -/
def drain (flush : Bool) (decoder : Decoder) (input : Cursor) (done : List Line) :
    List Line × Decoder :=
  match given : decoder.step flush input with
  | (.line line rest, decoder) =>
    have := step_work given
    drain flush decoder rest (line :: done)
  | (.needMore rest, decoder) => (done.reverse, { decoder with input := rest })
termination_by decoder.work input

/-- Takes in more bytes and gives all lines that are complete. -/
def feed (decoder : Decoder) (data : Bytes) : List Line × Decoder :=
  decoder.drain false ⟨decoder.input.rest ++ data, decoder.input.position⟩ []

/-- Gives what is left at the end of a stream. Positions go on in the next stream. -/
def flush (decoder : Decoder) : List Line × Decoder := decoder.drain true decoder.input []

def decodeAll (decoder : Decoder) (data : Bytes) : List Line × Decoder :=
  let (fed, decoder) := decoder.feed data
  let (last, decoder) := decoder.flush
  (fed ++ last, decoder)

end Decoder

end DiagTrace.Stream
