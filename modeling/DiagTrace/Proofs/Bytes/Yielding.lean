import DiagTrace.Proofs.Bytes.Reading

/-!
What can be said of a value for no other reason than that it was read, from whatever bytes.
-/
namespace DiagTrace

theorem TwosComplement.fits_decode (n value : Nat) : Fits n (decode n value) := by
  have positive := Bytes.capacity_pos n
  have low : -((Bytes.capacity n : Int) / 2) ≤ Int.bmod value (Bytes.capacity n) := Int.le_bmod positive
  have high : Int.bmod value (Bytes.capacity n) < ((Bytes.capacity n : Int) + 1) / 2 := Int.bmod_lt positive
  simp only [Fits, decode]
  omega

theorem UInt8.toNat_charOf (b : UInt8) : (Char.ofNat b.toNat).toNat = b.toNat := by
  have small := b.toNat_lt
  have valid : b.toNat.isValidChar := .inl (by omega)
  rw [Char.ofNat, dif_pos valid]
  rfl

theorem of_bind {α β : Type} {first : Except Fault α} {next : α → Except Fault β} {result : β}
    (done : (first >>= next) = .ok result) : ∃ value, first = .ok value ∧ next value = .ok result := by
  cases first with
  | error fault => cases done
  | ok value => exact ⟨value, rfl, done⟩

theorem ok_of_map {α β : Type} {result : Except Fault α} {f : α → β} {value : β} (mapped : result.map f = .ok value) :
    ∃ first, result = .ok first ∧ f first = value := by
  cases result with
  | error fault => cases mapped
  | ok first => exact ⟨first, rfl, Except.ok.inj mapped⟩

theorem error_of_map {α β : Type} {result : Except Fault α} {f : α → β} {fault : Fault}
    (mapped : result.map f = .error fault) : result = .error fault := by
  cases result with
  | error other => cases mapped; rfl
  | ok first => cases mapped

theorem error_of_bind {α β : Type} {first : Except Fault α} {next : α → Except Fault β} {fault : Fault}
    (failed : (first >>= next) = .error fault) :
    first = .error fault ∨ ∃ value, first = .ok value ∧ next value = .error fault := by
  cases first with
  | error other =>
    cases failed
    exact .inl rfl
  | ok value => exact .inr ⟨value, rfl, failed⟩

theorem error_of_mapM {α β : Type} {f : α → Except Fault β} {values : List α} {fault : Fault}
    (failed : values.mapM f = .error fault) : ∃ value ∈ values, f value = .error fault := by
  induction values with
  | nil => cases failed
  | cons value values ih =>
    rw [List.mapM_cons] at failed
    rcases error_of_bind failed with here | ⟨_, _, others⟩
    · exact ⟨value, List.mem_cons_self, here⟩
    · rcases error_of_bind others with later | ⟨_, _, done⟩
      · obtain ⟨other, present, wrong⟩ := ih later
        exact ⟨other, List.mem_cons_of_mem _ present, wrong⟩
      · cases done

theorem all_or_some {α : Type} {values : List α} {P Q : α → Prop} (each : ∀ value ∈ values, P value ∨ Q value) :
    (∀ value ∈ values, P value) ∨ ∃ value ∈ values, Q value := by
  by_cases other : ∃ value ∈ values, Q value
  · exact .inr other
  · refine .inl fun value present => (each value present).resolve_right fun holds => ?_
    exact other ⟨value, present, holds⟩

namespace Read

variable {α β : Type} {step : Read α} {next : α → Read β} {P : α → Prop} {Q : β → Prop}

def Yields (step : Read α) (P : α → Prop) : Prop :=
  ∀ cursor value last, step cursor = .ok (value, last) → P value

theorem yields_bind (first : Yields step P) (second : ∀ value, P value → Yields (next value) Q) :
    Yields (step >>= next) Q := by
  intro cursor result last read
  obtain ⟨⟨value, middle⟩, found, rest⟩ := of_bind read
  exact second value (first cursor value middle found) middle result last rest

theorem yields_pure {value : α} (holds : P value) : Yields (pure value) P := by
  intro cursor result last read
  cases read
  exact holds

theorem yields_throw (fault : Fault) : Yields (throw fault) P := by
  intro cursor result last read
  cases read

theorem yields_last (first : Yields step P) {f : α → β} (holds : ∀ value, P value → Q (f value)) :
    Yields (step >>= fun x => pure (f x)) Q :=
  yields_bind first fun value held => yields_pure (holds value held)

theorem yields_map (first : Yields step P) {f : α → β} (holds : ∀ value, P value → Q (f value)) :
    Yields (f <$> step) Q := by
  intro cursor result last read
  have bound : (step >>= fun x => pure (f x)) cursor = .ok (result, last) := read
  exact yields_last first holds cursor result last bound

theorem yields_any (step : Read α) : Yields step fun _ => True := fun _ _ _ _ => trivial

theorem yields_take (n : Nat) : Yields (take n) fun bs => bs.length = n := by
  intro cursor bs last read
  unfold take at read
  split at read
  · rename_i present
    cases read
    rw [List.length_take, Nat.min_eq_left ((Bytes.hasAtLeast_iff _ _).mp present)]
  · cases read

theorem u32_front {order : ByteOrder} {cursor last : Cursor} {value : UInt32}
    (read : u32 order cursor = .ok (value, last)) :
    4 ≤ cursor.rest.length ∧ value = UInt32.ofNat (order.decode (cursor.rest.take 4)) ∧ last = cursor.advance 4 := by
  obtain ⟨⟨number, middle⟩, found, converted⟩ := of_bind read
  obtain ⟨⟨bs, rest⟩, taken, decoded⟩ := of_bind found
  cases converted
  cases decoded
  unfold take at taken
  split at taken
  · rename_i present
    cases taken
    exact ⟨(Bytes.hasAtLeast_iff _ _).mp present, rfl, rfl⟩
  · cases taken

theorem yields_nat (order : ByteOrder) (n : Nat) : Yields (nat order n) (· < Bytes.capacity n) := by
  refine yields_last (yields_take n) fun bs length => ?_
  subst length
  exact ByteOrder.decode_lt order bs

theorem yields_u16 (order : ByteOrder) : Yields (u16 order) (· ≤ 65535) := by
  intro cursor value last read
  exact Nat.le_of_lt_succ (yields_nat order 2 cursor value last read)

theorem yields_signed (order : ByteOrder) (width : Width) :
    Yields (signed order width) (TwosComplement.Fits width.bytes) :=
  yields_last (yields_nat order width.bytes) fun _ _ => TwosComplement.fits_decode ..

theorem yields_timesOnto (each : Yields step P) (n : Nat) (done : List α) (before : ∀ value ∈ done, P value) :
    Yields (timesOnto step n done) fun values => values.length = done.length + n ∧ ∀ value ∈ values, P value := by
  induction n generalizing done with
  | zero =>
    intro cursor values last read
    cases read
    exact ⟨List.length_reverse, fun value there => before value (List.mem_reverse.mp there)⟩
  | succ n ih =>
    intro cursor values last read
    unfold timesOnto at read
    split at read
    · rename_i value rest found
      have first := each cursor value rest found
      have held : ∀ other ∈ value :: done, P other := by
        intro other there
        rcases List.mem_cons.mp there with rfl | earlier
        · exact first
        · exact before other earlier
      obtain ⟨length, all⟩ := ih (value :: done) held rest values last read
      rw [List.length_cons] at length
      exact ⟨by omega, all⟩
    · cases read

theorem yields_times (each : Yields step P) (n : Nat) :
    Yields (times step n) fun values => values.length = n ∧ ∀ value ∈ values, P value := by
  intro cursor values last read
  obtain ⟨length, all⟩ := yields_timesOnto each n [] (fun value there => nomatch there) cursor values last read
  rw [List.length_nil, Nat.zero_add] at length
  exact ⟨length, all⟩

end Read

end DiagTrace
