import DiagTrace.Proofs.Stream.PlainScan

/-!
Where a standard header is accepted and the bytes that it announces are there, no header of the packet can
fail: the announced length covers all headers that the header type announces.
-/
namespace DiagTrace

namespace StandardHeader

def announcedHeaders (header : StandardHeader) : Nat :=
  header.headerLength + if header.hasExtended then ExtendedHeader.length else 0

theorem parse_of_validate {buffer : Bytes} {length : Nat} (valid : validate buffer = .ok length)
    (complete : length ≤ buffer.length) :
    ∃ header, parse buffer = .ok header ∧ header.announcedHeaders ≤ length := by
  unfold validate at valid
  split at valid
  · rename_i type count high low rest
    simp only at valid
    split at valid
    · cases valid
    · split at valid
      · cases valid
      · rename_i long
        cases valid
        have least := Nat.le_of_not_lt long
        rw [HeaderType.minimumLength] at least
        have present : Bytes.hasAtLeast (type :: count :: high :: low :: rest) (HeaderType.standardLength type) =
            true := by
          rw [Bytes.hasAtLeast_iff]
          omega
        refine ⟨_, by rw [parse, if_pos present], ?_⟩
        exact least
  · cases valid

end StandardHeader

theorem ExtendedHeader.parse_of_length {buffer : Bytes} (long : length ≤ buffer.length) :
    ∃ header, parse buffer = .ok header := by
  match buffer, long with
  | info :: argumentCount :: rest, long =>
    have present := (Bytes.hasAtLeast_iff (info :: argumentCount :: rest) length).mpr long
    exact ⟨_, by rw [parse, if_pos present]⟩

theorem StorageHeader.parse_of_marker {buffer : Bytes} (long : length ≤ buffer.length)
    (stands : marker.isPrefixOf buffer = true) : ∃ header, parse buffer = .ok header := by
  have present := (Bytes.hasAtLeast_iff buffer length).mpr long
  obtain ⟨rest, rfl⟩ := List.isPrefixOf_iff_prefix.mp stands
  have front : (marker ++ rest).take 4 = marker := rfl
  unfold parse
  rw [present, front]
  exact ⟨_, rfl⟩

theorem StorageHeader.parse_append {packet : Bytes} {header : StorageHeader} (parsed : parse packet = .ok header)
    (more : Bytes) : parse (packet ++ more) = .ok header := by
  have long : 16 ≤ packet.length := by
    change length ≤ packet.length
    rw [← Bytes.hasAtLeast_iff]
    cases present : packet.hasAtLeast length with
    | true => rfl
    | false =>
      rw [parse, present] at parsed
      cases parsed
  have longer : Bytes.hasAtLeast (packet ++ more) length = packet.hasAtLeast length := by
    rw [Bool.eq_iff_iff, Bytes.hasAtLeast_iff, Bytes.hasAtLeast_iff, List.length_append, length]
    omega
  have marked : (packet ++ more).take 4 = packet.take 4 := Bytes.take_drop_append packet more 0 4 (by omega)
  have field : ∀ offset ≤ 12, ((packet ++ more).drop offset).take 4 = (packet.drop offset).take 4 :=
    fun offset inside => Bytes.take_drop_append packet more offset 4 (by omega)
  rw [← parsed]
  simp only [parse, longer, marked, field, StandardHeader.numberAt, Nat.reduceLeDiff, Nat.le_refl]

namespace Stream

variable {format : CaptureFormat} {packet : Bytes} {length : Nat}

theorem Finding.candidate_take (found : Finding.ofBytes format packet = .candidate length) :
    Finding.ofBytes format (packet.take length) = .candidate length := by
  obtain ⟨announced, valid, rfl, complete⟩ := announced_of_candidate found
  have least := StandardHeader.four_le_of_validate valid
  have whole : (packet.take (format.headerOffset + announced)).length = format.headerOffset + announced := by
    rw [List.length_take]
    omega
  have split : packet.take (format.headerOffset + announced) ++ packet.drop (format.headerOffset + announced) =
      packet := List.take_append_drop ..
  have none_before : leadIn format (packet.take (format.headerOffset + announced)) = 0 := by
    have less := leadIn_le_append format (packet.take (format.headerOffset + announced))
      (packet.drop (format.headerOffset + announced))
    rw [split, leadIn_of_candidate found] at less
    exact Nat.le_zero.mp less
  have same : StandardHeader.validate ((packet.take (format.headerOffset + announced)).drop format.headerOffset) =
      .ok announced := by
    rw [← valid, ← split, List.drop_append_of_le_length (by omega), StandardHeader.validate_append, split]
    rw [List.length_drop]
    omega
  have present : Bytes.hasAtLeast (packet.take (format.headerOffset + announced)) (format.headerOffset + announced) =
      true := by
    rw [Bytes.hasAtLeast_iff, whole]
  rw [ofBytes_of_enough (by omega), none_before, same]
  simp only [ne_eq, not_true_eq_false, ↓reduceIte, present]

theorem marked_of_candidate (found : Finding.ofBytes format packet = .candidate length) :
    marked format packet = true := by
  have enough := Finding.enough_of_not_short (by rw [found]; exact Finding.noConfusion)
  exact marked_of_leadIn (Nat.le_trans (Nat.le_add_left ..) enough) (Finding.leadIn_of_candidate found)

theorem Headers.parseStorage_of_candidate (found : Finding.ofBytes format packet = .candidate length) :
    ∃ storage, parseStorage format packet = .ok storage := by
  have enough := Finding.enough_of_not_short (by rw [found]; exact Finding.noConfusion)
  have stands := marked_of_candidate found
  cases format with
  | file =>
    obtain ⟨header, parsed⟩ := StorageHeader.parse_of_marker (Nat.le_of_add_right_le enough) stands
    exact ⟨some header, by rw [parseStorage, parsed]; rfl⟩
  | network | serial => exact ⟨none, rfl⟩

/-- The headers of a complete packet can be read, and what follows them is its payload. -/
theorem Headers.parse_of_candidate (found : Finding.ofBytes format packet = .candidate packet.length) :
    ∃ headers payload, parse format packet = .ok (headers, payload) := by
  obtain ⟨storage, stored⟩ := parseStorage_of_candidate found
  obtain ⟨announced, valid, whole, _⟩ := Finding.announced_of_candidate found
  have rest : (packet.drop format.headerOffset).length = announced := by
    rw [List.length_drop]
    omega
  obtain ⟨standard, parsed, covered⟩ := StandardHeader.parse_of_validate valid (Nat.le_of_eq rest.symm)
  rw [StandardHeader.announcedHeaders] at covered
  rw [parse, stored]
  simp only [bind, Except.bind, parsed]
  cases extended : standard.hasExtended with
  | false => exact ⟨_, _, by rw [parseExtended, extended]; rfl⟩
  | true =>
    rw [extended, if_pos rfl] at covered
    have long : ExtendedHeader.length ≤
        ((packet.drop format.headerOffset).drop standard.headerLength).length := by
      rw [List.length_drop]
      omega
    obtain ⟨header, read⟩ := ExtendedHeader.parse_of_length long
    unfold parseExtended
    rw [extended, if_pos rfl, read]
    exact ⟨_, _, rfl⟩

end Stream

end DiagTrace
