import DiagTrace.Proofs.Stream.Chunking

/-!
Resynchronising finds what the plainest reader finds, one that tries every byte as the start of a packet with
a new decoder each time: no packet hides in bytes that are skipped, and no line depends on those before it.
-/
namespace DiagTrace.Stream

/-- What one stretch of a stream is: a packet, its line without place and number, or skipped bytes. -/
inductive Piece where
  | packet (position : Nat) (line : Line)
  | gap (position bytes : Nat) (reason : Option String)

namespace Piece

def ofLine : Line → Piece
  | .skipped header bytes reason => gap header.position bytes reason
  | line => packet line.header.position (line.placedAt 0 0)

def join : Piece → List Piece → List Piece
  | gap position bytes reason, gap _ more _ :: rest => gap position (bytes + more) reason :: rest
  | piece, rest => piece :: rest

def merge (pieces : List Piece) : List Piece := pieces.foldr join []

theorem join_packet (position : Nat) (line : Line) (rest : List Piece) :
    join (packet position line) rest = packet position line :: rest := by
  cases rest <;> rfl

theorem merge_gap (position bytes : Nat) (reason : Option String) (rest : List Piece) :
    merge (gap position bytes reason :: rest) = join (gap position bytes reason) (merge rest) := rfl

theorem merge_packet (position : Nat) (line : Line) (rest : List Piece) :
    merge (packet position line :: rest) = packet position line :: merge rest :=
  join_packet position line (merge rest)

theorem join_gap_packet (position bytes later : Nat) (reason : Option String) (line : Line) (rest : List Piece) :
    join (gap position bytes reason) (packet later line :: rest) =
      gap position bytes reason :: packet later line :: rest := rfl

theorem join_join (position later bytes more : Nat) (reason other : Option String) (rest : List Piece) :
    join (gap position bytes reason) (join (gap later more other) rest) =
      join (gap position (bytes + more) reason) rest := by
  cases rest with
  | nil => rfl
  | cons piece rest =>
    cases piece with
    | packet place line => rfl
    | gap place last ended => simp only [join, Nat.add_assoc]

theorem ofLine_whole {line : Line} (whole : line.isSkipped = false) :
    ofLine line = packet line.header.position (line.placedAt 0 0) := by
  cases line with
  | skipped => cases whole
  | normal => rfl
  | control => rfl

end Piece

def marked (format : CaptureFormat) (rest : Bytes) : Bool :=
  match format.marker? with
  | some marker => marker.isPrefixOf rest
  | none => true

/-- The packet at the front, its framing included, if one is valid there for a new decoder. -/
def packetAt? (setting : Setting) (rest : Bytes) : Option (Nat × Line) :=
  if marked setting.format rest ∧ setting.format.headerOffset + 4 ≤ rest.length then
    match StandardHeader.validate (rest.drop setting.format.headerOffset) with
    | .ok announced =>
      let length := setting.format.headerOffset + announced
      if length ≤ rest.length then
        match (Packet.decode setting (Decoder.start setting .recorded).builder (rest.take length) 0).1 with
        | .ok line => some (length, line)
        | .error _ => none
      else none
    | .error _ => none
  else none

def reasonAt (format : CaptureFormat) (rest : Bytes) : SkipReason :=
  if rest.length < format.headerOffset + 4 then .endOfStream
  else if !marked format rest then .searching
  else
    match StandardHeader.validate (rest.drop format.headerOffset) with
    | .error _ => .invalidHeader
    | .ok announced => if rest.length < format.headerOffset + announced then .incomplete else .invalidPacket

theorem packetAt?_positive {setting : Setting} {rest : Bytes} {length : Nat} {line : Line}
    (found : packetAt? setting rest = some (length, line)) : 0 < length := by
  unfold packetAt? at found
  split at found
  · split at found
    · rename_i valid
      have least := StandardHeader.four_le_of_validate valid
      simp only at found
      split at found
      · split at found
        · cases found
          omega
        · cases found
      · cases found
    · cases found
  · cases found

/-- Reads a stream from left to right: a packet where one is valid, and otherwise one byte that is skipped. -/
def plainScan (setting : Setting) (position : Nat) (rest : Bytes) : List Piece :=
  match rest with
  | [] => []
  | byte :: tail =>
    match found : packetAt? setting (byte :: tail) with
    | some (length, line) =>
      have := packetAt?_positive found
      .packet position line :: plainScan setting (position + length) ((byte :: tail).drop length)
    | none =>
      .gap position 1 (some (reasonAt setting.format (byte :: tail)).text)
        :: plainScan setting (position + 1) tail
termination_by rest.length
decreasing_by
  · simp only [List.length_drop, List.length_cons]
    omega
  · exact Nat.lt_succ_self tail.length

variable {format : CaptureFormat} {setting : Setting} {position : Nat} {rest : Bytes}

theorem plainScan_packet {length : Nat} {line : Line} (found : packetAt? setting rest = some (length, line))
    (some_bytes : rest ≠ []) :
    plainScan setting position rest =
      .packet position line :: plainScan setting (position + length) (rest.drop length) := by
  cases rest with
  | nil => exact absurd rfl some_bytes
  | cons byte tail =>
    rw [plainScan]
    split
    · rename_i other
      rw [found] at other
      cases other
      rfl
    · rename_i other
      rw [found] at other
      cases other

theorem plainScan_gap {byte : UInt8} {tail : Bytes} (absent : packetAt? setting (byte :: tail) = none) :
    plainScan setting position (byte :: tail) =
      .gap position 1 (some (reasonAt setting.format (byte :: tail)).text)
        :: plainScan setting (position + 1) tail := by
  rw [plainScan]
  split
  · rename_i other
    rw [absent] at other
    cases other
  · rfl

theorem join_plainScan (position bytes start before : Nat) (reason : Option String)
    (absent : ∀ i < bytes, packetAt? setting (rest.drop i) = none) (present : bytes ≤ rest.length) :
    Piece.join (.gap start before reason) (Piece.merge (plainScan setting position rest)) =
      Piece.join (.gap start (before + bytes) reason)
        (Piece.merge (plainScan setting (position + bytes) (rest.drop bytes))) := by
  induction bytes generalizing position rest before with
  | zero => rfl
  | succ bytes ih =>
    cases rest with
    | nil => cases present
    | cons byte tail =>
      have further : ∀ i < bytes, packetAt? setting (tail.drop i) = none := by
        intro i within
        exact absent (i + 1) (Nat.succ_lt_succ within)
      rw [plainScan_gap (absent 0 (Nat.succ_pos _)), Piece.merge_gap, Piece.join_join,
        ih (position + 1) (before + 1) further (Nat.le_of_succ_le_succ present), List.drop_succ_cons,
        Nat.add_assoc, Nat.add_comm 1 bytes, Nat.add_assoc, Nat.add_comm 1 bytes]

theorem merge_plainScan {bytes : Nat} (absent : ∀ i < bytes, packetAt? setting (rest.drop i) = none)
    (some_bytes : 0 < bytes) (present : bytes ≤ rest.length) :
    Piece.merge (plainScan setting position rest) =
      Piece.join (.gap position bytes (some (reasonAt setting.format rest).text))
        (Piece.merge (plainScan setting (position + bytes) (rest.drop bytes))) := by
  cases rest with
  | nil => exact absurd present (Nat.not_le_of_gt some_bytes)
  | cons byte tail =>
    obtain ⟨more, rfl⟩ : ∃ more, bytes = more + 1 := ⟨bytes - 1, by omega⟩
    have further : ∀ i < more, packetAt? setting (tail.drop i) = none := by
      intro i within
      exact absent (i + 1) (Nat.succ_lt_succ within)
    have joined := join_plainScan (position + 1) more position 1
      (some (reasonAt setting.format (byte :: tail)).text) further (Nat.le_of_succ_le_succ present)
    rw [plainScan_gap (absent 0 (Nat.succ_pos _)), Piece.merge_gap, joined, List.drop_succ_cons,
      Nat.add_assoc, Nat.add_comm 1 more]

namespace Marker

theorem agrees_of_isPrefixOf {marker bs : Bytes} (stands : marker.isPrefixOf bs = true) :
    agrees marker bs = true := by
  induction marker generalizing bs with
  | nil => rfl
  | cons m marker ih =>
    cases bs with
    | nil => rfl
    | cons b bs =>
      simp only [List.isPrefixOf, agrees, Bool.and_eq_true] at stands ⊢
      exact ⟨stands.1, ih stands.2⟩

theorem isPrefixOf_of_agrees {marker bs : Bytes} (long : marker.length ≤ bs.length)
    (agreed : agrees marker bs = true) : marker.isPrefixOf bs = true := by
  induction marker generalizing bs with
  | nil => rfl
  | cons m marker ih =>
    cases bs with
    | nil => cases long
    | cons b bs =>
      simp only [List.isPrefixOf, agrees, Bool.and_eq_true] at agreed ⊢
      exact ⟨agreed.1, ih (Nat.le_of_succ_le_succ long) agreed.2⟩

theorem agrees_before_leadIn {marker bs : Bytes} {i : Nat} (before : i < leadIn marker bs 0) :
    agrees marker (bs.drop i) = false := by
  have left := leadIn_drop (Nat.le_of_lt before)
  cases agreed : agrees marker (bs.drop i) with
  | false => rfl
  | true =>
    rw [leadIn_of_agrees agreed] at left
    omega

end Marker

theorem marked_of_leadIn (long : 4 ≤ rest.length) (none_before : Finding.leadIn format rest = 0) :
    marked format rest = true := by
  unfold Finding.leadIn at none_before
  unfold marked
  cases known : format.marker? with
  | none => rfl
  | some marker =>
    simp only [known] at none_before
    refine Marker.isPrefixOf_of_agrees (by rw [Finding.marker_length known]; exact long) ?_
    cases rest with
    | nil => cases long
    | cons b rest =>
      cases agreed : Marker.agrees marker (b :: rest) with
      | true => rfl
      | false =>
        rw [Marker.leadIn_cons agreed] at none_before
        cases none_before

theorem unmarked_before {i : Nat} (before : i < Finding.leadIn format rest) :
    marked format (rest.drop i) = false := by
  unfold Finding.leadIn at before
  unfold marked
  cases known : format.marker? with
  | none =>
    simp only [known] at before
    cases before
  | some marker =>
    simp only [known] at before
    have disagrees := Marker.agrees_before_leadIn before
    change marker.isPrefixOf (rest.drop i) = false
    cases stands : marker.isPrefixOf (rest.drop i) with
    | false => rfl
    | true =>
      rw [Marker.agrees_of_isPrefixOf stands] at disagrees
      cases disagrees

/-- A marker does not overlap itself, so that it may be given up as a whole. -/
theorem unmarked_inside {i : Nat} (stands : marked format rest = true) (behind : 0 < i)
    (inside : i < format.minimumDiscard) : marked format (rest.drop i) = false := by
  cases format with
  | network =>
    simp only [CaptureFormat.minimumDiscard] at inside
    omega
  | file =>
    simp only [marked, CaptureFormat.marker?, StorageHeader.marker] at stands ⊢
    obtain ⟨tail, rfl⟩ := List.isPrefixOf_iff_prefix.mp stands
    simp only [CaptureFormat.minimumDiscard] at inside
    obtain rfl | rfl | rfl : i = 1 ∨ i = 2 ∨ i = 3 := by omega
    all_goals rfl
  | serial =>
    simp only [marked, CaptureFormat.marker?, CaptureFormat.serialMarker] at stands ⊢
    obtain ⟨tail, rfl⟩ := List.isPrefixOf_iff_prefix.mp stands
    simp only [CaptureFormat.minimumDiscard] at inside
    obtain rfl | rfl | rfl : i = 1 ∨ i = 2 ∨ i = 3 := by omega
    all_goals rfl

theorem absent_of_unmarked (unmarked : marked setting.format rest = false) : packetAt? setting rest = none := by
  rw [packetAt?, unmarked, if_neg]
  intro stands
  cases stands.1

theorem absent_of_short (few : rest.length < setting.format.headerOffset + 4) :
    packetAt? setting rest = none := by
  rw [packetAt?, if_neg]
  intro enough
  omega

theorem packetAt?_of_candidate {length : Nat}
    (candidate : Finding.ofBytes setting.format rest = .candidate length) :
    packetAt? setting rest =
      match (Packet.decode setting (Builder.start .recorded) (rest.take length) 0).1 with
      | .ok line => some (length, line)
      | .error _ => none := by
  have enough := Finding.enough_of_not_short (by rw [candidate]; exact Finding.noConfusion)
  have stands := marked_of_leadIn (Nat.le_trans (Nat.le_add_left ..) enough) (Finding.leadIn_of_candidate candidate)
  obtain ⟨announced, valid, rfl, complete⟩ := Finding.announced_of_candidate candidate
  rw [packetAt?, if_pos ⟨stands, enough⟩]
  simp only [valid, if_pos complete]
  rfl

section GiveUp

variable {flush : Bool} {input : Cursor} {builder after : Builder} {bytes : Nat} {reason : SkipReason}

/-- No packet starts in what is given up, and the reason is that of its first byte. -/
theorem giveUp_absent (idle : Idle setting.format builder)
    (move : Move.next setting flush input builder = .giveUp bytes reason after) :
    (∀ i < bytes, packetAt? setting (input.rest.drop i) = none) ∧
      reasonAt setting.format input.rest = reason := by
  have enough : setting.format.headerOffset + 4 ≤ input.rest.length := by
    refine Finding.enough_of_not_short fun short => ?_
    rw [Move.next_short short] at move
    cases move
  have several : ¬ input.rest.length < setting.format.headerOffset + 4 := Nat.not_lt_of_le enough
  have standing : Finding.leadIn setting.format input.rest = 0 → marked setting.format input.rest = true :=
    marked_of_leadIn (Nat.le_trans (Nat.le_add_left ..) enough)
  -- Where the marker stands, only the first byte of what is given up has to be looked at.
  have first_decides : marked setting.format input.rest = true → packetAt? setting input.rest = none →
      ∀ i < setting.format.minimumDiscard, packetAt? setting (input.rest.drop i) = none := by
    intro stands first i within
    cases i with
    | zero => exact first
    | succ i => exact absent_of_unmarked (unmarked_inside stands (Nat.succ_pos i) within)
  rcases Move.next_giveUp move with ⟨noise, _⟩ | ⟨found, _, rfl, rfl, _⟩ | ⟨length, fault, found, decoded, rfl, rfl⟩
  · rcases Finding.noise_cases noise with ⟨rfl, rfl, some_before⟩ | ⟨rfl, rfl, none_before⟩
    · have unmarked := unmarked_before (Nat.pos_of_ne_zero some_before)
      rw [List.drop_zero] at unmarked
      refine ⟨fun i before => absent_of_unmarked (unmarked_before before), ?_⟩
      simp [reasonAt, several, unmarked]
    · have stands := standing none_before
      obtain ⟨fault, invalid⟩ := Finding.invalid_of_noise noise
      refine ⟨first_decides stands ?_, ?_⟩
      · simp [packetAt?, invalid]
      · simp [reasonAt, several, stands, invalid]
  · have stands := standing (Finding.leadIn_of_incomplete found)
    obtain ⟨announced, valid, lacking⟩ := Finding.announced_of_incomplete found
    refine ⟨first_decides stands ?_, ?_⟩
    · simp [packetAt?, valid, Nat.not_le_of_lt lacking]
    · simp [reasonAt, several, stands, valid, lacking]
  · have stands := standing (Finding.leadIn_of_candidate found)
    have rejected := Packet.decode_of_idle idle (input.rest.take length) input.position
    rw [decoded] at rejected
    refine ⟨first_decides stands ?_, ?_⟩
    · rw [packetAt?_of_candidate found]
      cases fresh : (Packet.decode setting (Builder.start .recorded) (input.rest.take length) 0).1 with
      | ok line =>
        rw [fresh] at rejected
        cases rejected
      | error fault => rfl
    · obtain ⟨announced, valid, rfl, complete⟩ := Finding.announced_of_candidate found
      simp [reasonAt, several, stands, valid, Nat.not_lt_of_le complete]

theorem skip_eq_moveTo (builder : Builder) (bytes position : Nat) (reason : SkipReason) :
    Pass.skip builder bytes position reason = builder.moveTo (Pass.skip builder bytes position reason).place := by
  by_cases nothing : bytes = 0
  · rw [nothing]
    rfl
  · by_cases reported : builder.skip.bytes = 0
    · simp only [Pass.skip, nothing, reported, ↓reduceIte, Builder.countSkipped, Builder.setPosition]
      rfl
    · rw [Pass.skip_open reported]
      rfl

theorem idle_skip {format : CaptureFormat} (idle : Idle format builder) (bytes position : Nat)
    (reason : SkipReason) : Idle format (Pass.skip builder bytes position reason) := by
  rw [skip_eq_moveTo]
  exact idle.moveTo _

theorem idle_giveUp (idle : Idle setting.format builder)
    (move : Move.next setting flush input builder = .giveUp bytes reason after) :
    Idle setting.format after := by
  rcases Move.next_giveUp move with ⟨_, rfl⟩ | ⟨_, _, _, _, rfl⟩ | ⟨length, fault, _, decoded, _⟩
  · exact idle
  · exact idle
  · have left := Packet.decode_idle idle (input.rest.take length) input.position
    rw [decoded] at left
    exact left

end GiveUp

theorem idle_takeSkipped {builder : Builder} (idle : Idle format builder) :
    Idle format builder.takeSkipped.2 :=
  idle.moveTo builder.takeSkipped.2.place

theorem idle_deliver {builder : Builder} (idle : Idle format builder) (line : Line) (after : Cursor) :
    Idle format (Pass.deliver line after builder).builder := by
  simp only [Pass.deliver]
  split
  · exact idle
  · exact idle_takeSkipped idle

end DiagTrace.Stream
