import DiagTrace.Proofs.Header.RoundTrip
import DiagTrace.Proofs.Stream.Finding
import DiagTrace.Proofs.Stream.Fits

/-! The headers of a line come back from their bytes, and put the fields of the line into a builder. -/
namespace DiagTrace.Stream

namespace Headers

structure Consistent (format : CaptureFormat) (headers : Headers) : Prop where
  storage : headers.storage.isSome = decide (format = .file)
  standard : StandardHeader.Consistent headers.standard
  extended : headers.extended.isSome = headers.standard.hasExtended

variable {format : CaptureFormat} {headers : Headers}

theorem preamble_cases (consistent : Consistent format headers) :
    (∃ header, headers.storage = some header ∧ format = .file ∧ headers.preamble format = header.encode) ∨
    (headers.storage = none ∧ format = .network ∧ headers.preamble format = []) ∨
    (headers.storage = none ∧ format = .serial ∧ headers.preamble format = CaptureFormat.serialMarker) := by
  have stored := consistent.storage
  rw [preamble]
  cases storage : headers.storage with
  | some header =>
    rw [storage] at stored
    exact .inl ⟨header, rfl, of_decide_eq_true stored.symm, rfl⟩
  | none =>
    rw [storage] at stored
    have other : format ≠ .file := of_decide_eq_false stored.symm
    cases format with
    | file => exact absurd rfl other
    | network => exact .inr (.inl ⟨rfl, rfl, rfl⟩)
    | serial => exact .inr (.inr ⟨rfl, rfl, rfl⟩)

theorem length_preamble (consistent : Consistent format headers) :
    (headers.preamble format).length = format.headerOffset := by
  rcases preamble_cases consistent with ⟨header, _, rfl, front⟩ | ⟨_, rfl, front⟩ | ⟨_, rfl, front⟩
  · rw [front]
    exact StorageHeader.length_encode header
  · rw [front]
    rfl
  · rw [front]
    rfl

theorem parseStorage_preamble (consistent : Consistent format headers) (rest : Bytes) :
    parseStorage format (headers.preamble format ++ rest) = .ok headers.storage := by
  rcases preamble_cases consistent with ⟨header, storage, rfl, front⟩ | ⟨storage, rfl, _⟩ | ⟨storage, rfl, _⟩
  · rw [front, storage, parseStorage, StorageHeader.parse_encode]
    rfl
  · rw [storage]
    rfl
  · rw [storage]
    rfl

theorem parseExtended_encode (consistent : Consistent format headers) (payload : Bytes) :
    parseExtended headers.standard ((headers.extended.map ExtendedHeader.encode).getD [] ++ payload) =
      .ok (headers.extended, payload) := by
  have announced := consistent.extended
  rw [parseExtended, ← announced]
  cases headers.extended with
  | none => rfl
  | some extended =>
    have behind : (extended.encode ++ payload).drop ExtendedHeader.length = payload :=
      List.drop_left' (ExtendedHeader.length_encode extended)
    simp only [Option.isSome_some, ↓reduceIte, Option.map_some, Option.getD_some, ExtendedHeader.parse_encode,
      behind, bind, Except.bind, pure, Except.pure]

theorem drop_encode (consistent : Consistent format headers) (rest : Bytes) :
    (headers.encode format ++ rest).drop format.headerOffset =
      headers.standard.encode ++ ((headers.extended.map ExtendedHeader.encode).getD [] ++ rest) := by
  have whole : headers.encode format ++ rest = headers.preamble format ++ (headers.standard.encode
      ++ ((headers.extended.map ExtendedHeader.encode).getD [] ++ rest)) := by
    simp only [encode, List.append_assoc]
  rw [whole, List.drop_left' (length_preamble consistent)]

theorem parse_encode (consistent : Consistent format headers) (payload : Bytes) :
    parse format (headers.encode format ++ payload) = .ok (headers, payload) := by
  have behind : (headers.standard.encode ++ ((headers.extended.map ExtendedHeader.encode).getD []
      ++ payload)).drop headers.standard.headerLength =
        (headers.extended.map ExtendedHeader.encode).getD [] ++ payload :=
    List.drop_left' (StandardHeader.length_encode consistent.standard)
  have stored : parseStorage format (headers.encode format ++ payload) = .ok headers.storage := by
    rw [encode, List.append_assoc, List.append_assoc, parseStorage_preamble consistent]
  unfold parse
  simp only [stored, drop_encode consistent, StandardHeader.parse_encode consistent.standard, behind,
    parseExtended_encode consistent, bind, Except.bind, pure, Except.pure]

theorem length_encode (consistent : Consistent format headers) :
    (headers.encode format).length = format.headerOffset + HeaderType.minimumLength headers.standard.type := by
  have announced := consistent.extended
  have extended : ((headers.extended.map ExtendedHeader.encode).getD []).length =
      HeaderType.bytesIf headers.standard.type HeaderType.extended 10 := by
    rw [HeaderType.bytesIf, ← StandardHeader.hasExtended, ← announced]
    cases headers.extended with
    | none => rfl
    | some extended => exact ExtendedHeader.length_encode extended
  rw [encode, List.length_append, List.length_append, length_preamble consistent,
    StandardHeader.length_encode consistent.standard, extended, StandardHeader.headerLength,
    HeaderType.minimumLength, Nat.add_assoc]

end Headers

theorem Marker.agrees_self (marker rest : Bytes) : agrees marker (marker ++ rest) = true := by
  induction marker with
  | nil => rfl
  | cons m marker ih => rw [List.cons_append, agrees, ih, beq_self_eq_true, Bool.and_self]

namespace Finding

variable {format : CaptureFormat} {headers : Headers}

theorem leadIn_preamble (consistent : Headers.Consistent format headers) (rest : Bytes) :
    leadIn format (headers.preamble format ++ rest) = 0 := by
  rcases Headers.preamble_cases consistent with ⟨header, _, rfl, front⟩ | ⟨_, rfl, _⟩ | ⟨_, rfl, front⟩
  · rw [front]
    simp only [leadIn, CaptureFormat.marker?, StorageHeader.encode, List.append_assoc]
    exact Marker.leadIn_of_agrees (Marker.agrees_self _ _)
  · rfl
  · rw [front]
    exact Marker.leadIn_of_agrees (Marker.agrees_self CaptureFormat.serialMarker rest)

theorem ofBytes_encode (consistent : Headers.Consistent format headers) (payload tail : Bytes)
    (version : headers.standard.type &&& HeaderType.versionMask = HeaderType.version1)
    (length : headers.standard.length.toNat =
      HeaderType.minimumLength headers.standard.type + payload.length) :
    ofBytes format (headers.encode format ++ payload ++ tail) =
      .candidate (headers.encode format ++ payload).length := by
  have total : (headers.encode format ++ payload).length = format.headerOffset + headers.standard.length.toNat := by
    rw [List.length_append, Headers.length_encode consistent, length, Nat.add_assoc]
  have least : 4 ≤ HeaderType.minimumLength headers.standard.type := by
    simp only [HeaderType.minimumLength, HeaderType.standardLength]
    omega
  have enough : Bytes.hasAtLeast (headers.encode format ++ payload ++ tail) (format.headerOffset + 4) = true := by
    rw [Bytes.hasAtLeast_iff, List.length_append, total, length]
    omega
  have complete : Bytes.hasAtLeast (headers.encode format ++ payload ++ tail)
      (format.headerOffset + headers.standard.length.toNat) = true := by
    rw [Bytes.hasAtLeast_iff, List.length_append, total]
    exact Nat.le_add_right _ _
  have found : leadIn format (headers.encode format ++ payload ++ tail) = 0 := by
    rw [Headers.encode, List.append_assoc, List.append_assoc, List.append_assoc]
    exact leadIn_preamble consistent _
  have valid : StandardHeader.validate ((headers.encode format ++ payload ++ tail).drop format.headerOffset) =
      .ok headers.standard.length.toNat := by
    rw [List.append_assoc, Headers.drop_encode consistent]
    exact StandardHeader.validate_encode version (by omega) _
  unfold ofBytes
  simp only [enough, Bool.not_true, Bool.false_eq_true, ↓reduceIte, found, ne_eq, not_true_eq_false, valid,
    complete, total]

end Finding

end DiagTrace.Stream
