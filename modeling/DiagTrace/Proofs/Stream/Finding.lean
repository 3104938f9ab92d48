import DiagTrace.Stream.Finding

/-!
What stands at the front of a stream, as more bytes come in behind it or bytes in front of a marker are taken
away.
-/
namespace DiagTrace.Stream

namespace Marker

theorem agrees_of_append {marker bs more : Bytes} (agreed : agrees marker (bs ++ more) = true) :
    agrees marker bs = true := by
  induction marker generalizing bs with
  | nil => rfl
  | cons m marker ih =>
    cases bs with
    | nil => rfl
    | cons b bs =>
      simp only [List.cons_append, agrees, Bool.and_eq_true] at agreed ⊢
      exact ⟨agreed.1, ih agreed.2⟩

theorem agrees_append {marker bs : Bytes} (long : marker.length ≤ bs.length)
    (agreed : agrees marker bs = true) (more : Bytes) : agrees marker (bs ++ more) = true := by
  induction marker generalizing bs with
  | nil => rfl
  | cons m marker ih =>
    cases bs with
    | nil => cases long
    | cons b bs =>
      simp only [List.cons_append, agrees, Bool.and_eq_true] at agreed ⊢
      exact ⟨agreed.1, ih (Nat.le_of_succ_le_succ long) agreed.2⟩

theorem leadIn_passed (marker bs : Bytes) (passed : Nat) :
    leadIn marker bs passed = passed + leadIn marker bs 0 := by
  induction bs generalizing passed with
  | nil => rfl
  | cons b bs ih =>
    rw [leadIn, leadIn]
    split
    · rfl
    · rw [ih (passed + 1), ih (0 + 1)]
      omega

theorem leadIn_cons {marker bs : Bytes} {b : UInt8} (absent : agrees marker (b :: bs) = false) :
    leadIn marker (b :: bs) 0 = leadIn marker bs 0 + 1 := by
  rw [leadIn, absent, leadIn_passed]
  simp only [Bool.false_eq_true, ↓reduceIte]
  omega

theorem leadIn_of_agrees {marker bs : Bytes} (agreed : agrees marker bs = true) : leadIn marker bs 0 = 0 := by
  cases bs with
  | nil => rfl
  | cons b bs => rw [leadIn, agreed, if_pos rfl]

theorem leadIn_le_append (marker bs more : Bytes) : leadIn marker bs 0 ≤ leadIn marker (bs ++ more) 0 := by
  induction bs with
  | nil => exact Nat.zero_le _
  | cons b bs ih =>
    cases agreed : agrees marker (b :: bs) with
    | true =>
      rw [leadIn_of_agrees agreed]
      exact Nat.zero_le _
    | false =>
      have absent : agrees marker (b :: (bs ++ more)) = false := by
        cases stands : agrees marker (b :: (bs ++ more)) with
        | false => rfl
        | true =>
          have agrees_before : agrees marker (b :: bs) = true := agrees_of_append stands
          rw [agreed] at agrees_before
          cases agrees_before
      rw [List.cons_append, leadIn_cons agreed, leadIn_cons absent]
      exact Nat.succ_le_succ ih

theorem leadIn_drop {marker bs : Bytes} {n : Nat} (within : n ≤ leadIn marker bs 0) :
    leadIn marker (bs.drop n) 0 = leadIn marker bs 0 - n := by
  induction n generalizing bs with
  | zero => rfl
  | succ n ih =>
    cases bs with
    | nil => cases within
    | cons b bs =>
      cases agreed : agrees marker (b :: bs) with
      | true =>
        rw [leadIn_of_agrees agreed] at within
        cases within
      | false =>
        rw [leadIn_cons agreed] at within ⊢
        rw [List.drop_succ_cons, ih (Nat.le_of_succ_le_succ within), Nat.succ_sub_succ]

end Marker

theorem StandardHeader.validate_append {bs : Bytes} (long : 4 ≤ bs.length) (more : Bytes) :
    StandardHeader.validate (bs ++ more) = StandardHeader.validate bs := by
  match bs, long with
  | type :: count :: high :: low :: rest, _ => rfl

namespace Finding

variable {format : CaptureFormat} {rest : Bytes} {bytes length : Nat} {reason : SkipReason}

theorem leadIn_le_append (format : CaptureFormat) (rest more : Bytes) :
    leadIn format rest ≤ leadIn format (rest ++ more) := by
  unfold leadIn
  split
  · exact Marker.leadIn_le_append _ rest more
  · exact Nat.le_refl 0

theorem leadIn_drop {n : Nat} (within : n ≤ leadIn format rest) :
    leadIn format (rest.drop n) = leadIn format rest - n := by
  unfold leadIn at *
  split at within
  · exact Marker.leadIn_drop within
  · exact (Nat.zero_sub n).symm

theorem marker_length {marker : Bytes} (marked : format.marker? = some marker) : marker.length = 4 := by
  cases format <;> cases marked <;> rfl

theorem leadIn_append_of_zero (long : 4 ≤ rest.length) (none_before : leadIn format rest = 0) (more : Bytes) :
    leadIn format (rest ++ more) = 0 := by
  unfold leadIn at *
  split at none_before
  · rename_i marker marked
    cases rest with
    | nil => cases long
    | cons b rest =>
      cases agreed : Marker.agrees marker (b :: rest) with
      | false =>
        rw [Marker.leadIn_cons agreed] at none_before
        cases none_before
      | true =>
        refine Marker.leadIn_of_agrees (Marker.agrees_append ?_ agreed more)
        rw [marker_length marked]
        exact long
  · rfl

theorem ofBytes_of_enough (enough : format.headerOffset + 4 ≤ rest.length) :
    ofBytes format rest =
      if leadIn format rest ≠ 0 then .noise (leadIn format rest) .searching
      else match StandardHeader.validate (rest.drop format.headerOffset) with
        | .error _ => .noise format.minimumDiscard .invalidHeader
        | .ok length =>
          if rest.hasAtLeast (format.headerOffset + length) then
            .candidate (format.headerOffset + length)
          else .incomplete := by
  rw [ofBytes, (Bytes.hasAtLeast_iff _ _).mpr enough]
  rfl

theorem short_iff : ofBytes format rest = .short ↔ rest.length < format.headerOffset + 4 := by
  constructor
  · intro found
    by_cases enough : format.headerOffset + 4 ≤ rest.length
    · rw [ofBytes_of_enough enough] at found
      split at found
      · cases found
      · split at found
        · cases found
        · split at found <;> cases found
    · omega
  · intro few
    have lacking : rest.hasAtLeast (format.headerOffset + 4) = false := by
      rw [← Bool.not_eq_true, Bytes.hasAtLeast_iff]
      omega
    rw [ofBytes, lacking]
    rfl

theorem enough_of_not_short (found : ofBytes format rest ≠ .short) :
    format.headerOffset + 4 ≤ rest.length := by
  rw [Ne, short_iff] at found
  omega

theorem leadIn_of_candidate (found : ofBytes format rest = .candidate length) : leadIn format rest = 0 := by
  have enough := enough_of_not_short (by rw [found]; exact Finding.noConfusion)
  rw [ofBytes_of_enough enough] at found
  split at found
  · cases found
  · rename_i none_before
    simpa using none_before

theorem leadIn_of_incomplete (found : ofBytes format rest = .incomplete) : leadIn format rest = 0 := by
  have enough := enough_of_not_short (by rw [found]; exact Finding.noConfusion)
  rw [ofBytes_of_enough enough] at found
  split at found
  · cases found
  · rename_i none_before
    simpa using none_before

theorem noise_cases (found : ofBytes format rest = .noise bytes reason) :
    (reason = .searching ∧ bytes = leadIn format rest ∧ bytes ≠ 0) ∨
      (reason = .invalidHeader ∧ bytes = format.minimumDiscard ∧ leadIn format rest = 0) := by
  have enough := enough_of_not_short (by rw [found]; exact Finding.noConfusion)
  rw [ofBytes_of_enough enough] at found
  split at found
  · rename_i some_before
    cases found
    exact .inl ⟨rfl, rfl, some_before⟩
  · rename_i none_before
    split at found
    · cases found
      exact .inr ⟨rfl, rfl, by simpa using none_before⟩
    · split at found <;> cases found

theorem invalid_of_noise (found : ofBytes format rest = .noise bytes .invalidHeader) :
    ∃ fault, StandardHeader.validate (rest.drop format.headerOffset) = .error fault := by
  have enough := enough_of_not_short (by rw [found]; exact Finding.noConfusion)
  rw [ofBytes_of_enough enough] at found
  split at found
  · cases found
  · split at found
    · exact ⟨_, by assumption⟩
    · split at found <;> cases found

theorem announced_of_incomplete (found : ofBytes format rest = .incomplete) :
    ∃ announced, StandardHeader.validate (rest.drop format.headerOffset) = .ok announced ∧
      rest.length < format.headerOffset + announced := by
  have enough := enough_of_not_short (by rw [found]; exact Finding.noConfusion)
  rw [ofBytes_of_enough enough] at found
  split at found
  · cases found
  · split at found
    · cases found
    · rename_i announced valid
      split at found
      · cases found
      · rename_i lacking
        rw [Bytes.hasAtLeast_iff] at lacking
        exact ⟨announced, valid, Nat.lt_of_not_le lacking⟩

theorem announced_of_candidate (found : ofBytes format rest = .candidate length) :
    ∃ announced, StandardHeader.validate (rest.drop format.headerOffset) = .ok announced ∧
      length = format.headerOffset + announced ∧ length ≤ rest.length := by
  have enough := enough_of_not_short (by rw [found]; exact Finding.noConfusion)
  rw [ofBytes_of_enough enough] at found
  split at found
  · cases found
  · split at found
    · cases found
    · rename_i announced valid
      split at found
      · rename_i complete
        rw [Bytes.hasAtLeast_iff] at complete
        cases found
        exact ⟨announced, valid, rfl, complete⟩
      · cases found

theorem searching_of_leadIn (enough : format.headerOffset + 4 ≤ rest.length)
    (some_before : leadIn format rest ≠ 0) :
    ofBytes format rest = .noise (leadIn format rest) .searching := by
  rw [ofBytes_of_enough enough, if_pos some_before]

/-- More bytes change what stands at the front only where too few were there or a marker was looked for. -/
theorem ofBytes_append (enough : format.headerOffset + 4 ≤ rest.length)
    (none_before : leadIn format rest = 0) (settled : ofBytes format rest ≠ .incomplete) (more : Bytes) :
    ofBytes format (rest ++ more) = ofBytes format rest := by
  have long : 4 ≤ (rest.drop format.headerOffset).length := by
    rw [List.length_drop]
    omega
  have enough_after : format.headerOffset + 4 ≤ (rest ++ more).length := by
    rw [List.length_append]
    omega
  have none_after := leadIn_append_of_zero (by omega) none_before more
  rw [ofBytes_of_enough enough] at settled ⊢
  rw [ofBytes_of_enough enough_after, none_after, none_before,
    List.drop_append_of_le_length (by omega), StandardHeader.validate_append long]
  rw [none_before] at settled
  cases valid : StandardHeader.validate (rest.drop format.headerOffset) with
  | error fault => rfl
  | ok length =>
    simp only [valid, ne_eq, not_true_eq_false, ↓reduceIte] at settled ⊢
    split at settled
    · rename_i complete
      rw [Bytes.hasAtLeast_iff] at complete
      rw [if_pos ((Bytes.hasAtLeast_iff _ _).mpr complete), if_pos]
      rw [Bytes.hasAtLeast_iff, List.length_append]
      omega
    · exact absurd rfl settled

theorem candidate_append (found : ofBytes format rest = .candidate length) (more : Bytes) :
    ofBytes format (rest ++ more) = .candidate length := by
  have enough := enough_of_not_short (by rw [found]; exact Finding.noConfusion)
  rw [ofBytes_append enough (leadIn_of_candidate found) (by rw [found]; exact Finding.noConfusion) more, found]

end Finding

end DiagTrace.Stream
