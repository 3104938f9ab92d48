import DiagTrace.CaptureFormat

/-!
What stands at the front of a stretch of a stream. The answer depends on the bytes alone: too few of them, a
run that starts no packet, a packet whose end is not there, or a stretch that may be a packet.
-/
namespace DiagTrace.Stream

inductive SkipReason where
  | searching | invalidHeader | invalidPacket | incomplete | endOfStream
deriving DecidableEq

namespace SkipReason

def text : SkipReason → String
  | searching => "Searching for next packet"
  | invalidHeader => "Invalid packet standard header"
  | invalidPacket => "Invalid packet"
  | incomplete => "Incomplete packet at end of stream"
  | endOfStream => "End of stream"

end SkipReason

namespace Marker

/-- Whether one of two byte strings starts with the other. -/
def agrees : Bytes → Bytes → Bool
  | [], _ | _, [] => true
  | m :: marker, b :: rest => m == b && agrees marker rest

/-- Bytes in front of the first place where a marker stands, or may stand once more bytes follow. -/
def leadIn (marker : Bytes) : Bytes → Nat → Nat
  | [], passed => passed
  | b :: rest, passed =>
    if agrees marker (b :: rest) then passed else leadIn marker rest (passed + 1)

theorem leadIn_le (marker rest : Bytes) (passed : Nat) :
    leadIn marker rest passed ≤ passed + rest.length := by
  induction rest generalizing passed with
  | nil => simp [leadIn]
  | cons b rest ih =>
    rw [leadIn, List.length_cons]
    split
    · omega
    · have := ih (passed + 1)
      omega

end Marker

inductive Finding where
  /-- Fewer bytes than a packet needs up to the end of its length field. -/
  | short
  | noise (bytes : Nat) (reason : SkipReason)
  | incomplete
  | candidate (length : Nat)
deriving DecidableEq

namespace Finding

/-- Bytes in front of the marker of a format. -/
def leadIn (format : CaptureFormat) (rest : Bytes) : Nat :=
  match format.marker? with
  | some marker => Marker.leadIn marker rest 0
  | none => 0

def ofBytes (format : CaptureFormat) (rest : Bytes) : Finding :=
  if !rest.hasAtLeast (format.headerOffset + 4) then .short
  else if leadIn format rest ≠ 0 then .noise (leadIn format rest) .searching
  else
    match StandardHeader.validate (rest.drop format.headerOffset) with
    | .error _ => .noise format.minimumDiscard .invalidHeader
    | .ok length =>
      if rest.hasAtLeast (format.headerOffset + length) then
        .candidate (format.headerOffset + length)
      else .incomplete

theorem minimumDiscard_pos (format : CaptureFormat) : 0 < format.minimumDiscard := by
  cases format <;> decide

theorem minimumDiscard_le (format : CaptureFormat) : format.minimumDiscard ≤ 4 := by
  cases format <;> decide

theorem leadIn_le (format : CaptureFormat) (rest : Bytes) : leadIn format rest ≤ rest.length := by
  unfold leadIn
  split
  · simpa using Marker.leadIn_le _ rest 0
  · simp

/-- Noise is a run of bytes that are there. -/
theorem noise_bounds {format : CaptureFormat} {rest : Bytes} {bytes : Nat} {reason : SkipReason}
    (found : ofBytes format rest = .noise bytes reason) : 0 < bytes ∧ bytes ≤ rest.length := by
  unfold ofBytes at found
  split at found
  · cases found
  · rename_i enough
    have enough : format.headerOffset + 4 ≤ rest.length := by
      rw [← Bytes.hasAtLeast_iff]
      simpa using enough
    split at found
    · cases found
      exact ⟨by omega, leadIn_le format rest⟩
    · split at found
      · cases found
        have := minimumDiscard_pos format
        have := minimumDiscard_le format
        omega
      · split at found <;> cases found

/-- Where bytes are not too few, the least that can be given up is there. -/
theorem four_le_length {format : CaptureFormat} {rest : Bytes}
    (enough : ofBytes format rest ≠ .short) : 4 ≤ rest.length := by
  unfold ofBytes at enough
  by_cases present : rest.hasAtLeast (format.headerOffset + 4)
  · rw [Bytes.hasAtLeast_iff] at present
    omega
  · simp [present] at enough

/-- A candidate lies within the bytes and holds at least a standard header. -/
theorem candidate_bounds {format : CaptureFormat} {rest : Bytes} {length : Nat}
    (found : ofBytes format rest = .candidate length) : 4 ≤ length ∧ length ≤ rest.length := by
  unfold ofBytes at found
  split at found
  · cases found
  · split at found
    · cases found
    · split at found
      · cases found
      · rename_i announced valid
        have least := StandardHeader.four_le_of_validate valid
        split at found
        · rename_i complete
          rw [Bytes.hasAtLeast_iff] at complete
          cases found
          omega
        · cases found

end Finding

end DiagTrace.Stream
