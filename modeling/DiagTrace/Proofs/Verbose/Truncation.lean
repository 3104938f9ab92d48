import DiagTrace.Proofs.Verbose.Extent

/-!
Payloads that are cut off. The arguments in front of the cut are read as they were in the whole payload, one failure
stands for all others, and nothing is made up from a part of an argument.
-/
namespace DiagTrace.Verbose

open Read

variable {order : ByteOrder} {cursor next : Cursor} {argument : Argument}

section Steps

theorem decodeFrom_done (order : ByteOrder) (count : Nat) (cursor : Cursor) (left : Nat) (done : List Argument) :
    decodeFrom order count cursor left done =
      (done.reverse ++ (decodeFrom order count cursor left []).1, (decodeFrom order count cursor left []).2) := by
  induction left generalizing cursor done with
  | zero => simp [decodeFrom]
  | succ left ih =>
    unfold decodeFrom
    split
    · rename_i argument next _
      rw [ih next (argument :: done), ih next [argument]]
      simp
    · simp

theorem decodeFrom_next (read : readArgument order cursor = .ok (argument, next)) (count left : Nat) :
    decodeFrom order count cursor (left + 1) [] =
      (argument :: (decodeFrom order count next left []).1, (decodeFrom order count next left []).2) := by
  simp only [decodeFrom, read]
  rw [decodeFrom_done]
  rfl

theorem decodeFrom_failed {fault : Fault} (failed : readArgument order cursor = .error fault) (count left : Nat) :
    ∃ message, decodeFrom order count cursor (left + 1) [] =
      ([.failure message], cursor.position + cursor.remaining) := by
  simp only [decodeFrom, failed]
  exact ⟨_, rfl⟩

end Steps

section Ends

variable {count : Nat}

def Clean (arguments : List Argument) : Prop := ∀ argument ∈ arguments, argument.isFailure = false

theorem read_of_clean {left : Nat} (clean : Clean (decodeFrom order count cursor (left + 1) []).1) :
    ∃ argument next, readArgument order cursor = .ok (argument, next) ∧
      Clean (decodeFrom order count next left []).1 := by
  cases read : readArgument order cursor with
  | error fault =>
    obtain ⟨message, failed⟩ := decodeFrom_failed read count left
    rw [failed] at clean
    cases clean _ (List.mem_singleton_self _)
  | ok result =>
    obtain ⟨argument, next⟩ := result
    rw [decodeFrom_next read] at clean
    exact ⟨argument, next, rfl, fun other present => clean other (List.mem_cons_of_mem _ present)⟩

theorem position_le_decodeFrom (order : ByteOrder) (count : Nat) (cursor : Cursor) (left : Nat) :
    cursor.position ≤ (decodeFrom order count cursor left []).2 := by
  induction left generalizing cursor with
  | zero => exact Nat.le_refl _
  | succ left ih =>
    cases read : readArgument order cursor with
    | error fault =>
      obtain ⟨message, failed⟩ := decodeFrom_failed read count left
      rw [failed]
      exact Nat.le_add_right _ _
    | ok result =>
      obtain ⟨argument, next⟩ := result
      obtain ⟨n, _, rfl, _⟩ := (delimits_nested order maxDepth).extent read
      have further := ih ⟨cursor.rest.drop n, cursor.position + n⟩
      rw [decodeFrom_next read]
      simp only at further ⊢
      omega

theorem decodeFrom_used (order : ByteOrder) (count other : Nat) (cursor : Cursor) (left : Nat) :
    (decodeFrom order count cursor left []).2 = (decodeFrom order other cursor left []).2 := by
  induction left generalizing cursor with
  | zero => rfl
  | succ left ih =>
    cases read : readArgument order cursor with
    | error fault => simp only [decodeFrom, read]
    | ok result => rw [decodeFrom_next read, decodeFrom_next read, ih]

theorem decodeFrom_fewer {left : Nat} (clean : Clean (decodeFrom order count cursor left []).1) (other : Nat) {j : Nat}
    (fewer : j ≤ left) :
    (decodeFrom order other cursor j []).1 = (decodeFrom order count cursor left []).1.take j := by
  induction left generalizing cursor j with
  | zero =>
    have none_left : j = 0 := by omega
    subst none_left
    rfl
  | succ left ih =>
    cases j with
    | zero => rfl
    | succ j =>
      obtain ⟨argument, next, read, rest⟩ := read_of_clean clean
      rw [decodeFrom_next read, decodeFrom_next read, List.take_succ_cons, ih rest (by omega)]

end Ends

section Cuts

/-- The cut falls into the first argument or behind it, and then into the rest of the payload. The induction is on how
many arguments are still to be read. -/
theorem decodeFrom_cut (order : ByteOrder) (count left : Nat) (bs : Bytes) (position m : Nat)
    (clean : Clean (decodeFrom order count ⟨bs, position⟩ left []).1)
    (short : position + m < (decodeFrom order count ⟨bs, position⟩ left []).2) :
    ∃ k message, k < left ∧
      decodeFrom order count ⟨bs.take m, position⟩ left [] =
        ((decodeFrom order count ⟨bs, position⟩ left []).1.take k ++ [.failure message], position + m) ∧
      ∀ j ≤ left, (decodeFrom order count ⟨bs, position⟩ j []).2 ≤ position + m ↔ j ≤ k := by
  induction left generalizing bs position m with
  | zero =>
    have nothing : (decodeFrom order count ⟨bs, position⟩ 0 []).2 = position := rfl
    omega
  | succ left ih =>
    obtain ⟨argument, next, read, rest⟩ := read_of_clean clean
    obtain ⟨n, present, rfl, _, again, part⟩ := (delimits_nested order maxDepth).extent read
    rw [decodeFrom_next read] at short ⊢
    by_cases inside : m < n
    · obtain ⟨fault, refused⟩ := part m inside position
      obtain ⟨message, failed⟩ := decodeFrom_failed refused count left
      have length : (bs.take m).length = m := List.length_take_of_le (by omega)
      refine ⟨0, message, Nat.succ_pos left, ?_, ?_⟩
      · rw [failed, Cursor.remaining, length]
        rfl
      · intro j _
        cases j with
        | zero =>
          have start : (decodeFrom order count ⟨bs, position⟩ 0 []).2 = position := rfl
          omega
        | succ j =>
          have further := position_le_decodeFrom order count ⟨bs.drop n, position + n⟩ j
          rw [decodeFrom_next read]
          simp only at further ⊢
          omega
    · have behind : position + n + (m - n) = position + m := by omega
      rw [← behind] at short
      obtain ⟨k, message, small, cut, ends⟩ := ih (bs.drop n) (position + n) (m - n) rest short
      have front : bs.take m = bs.take n ++ (bs.drop n).take (m - n) := by
        rw [← List.take_add]
        congr 1
        omega
      have first := again ((bs.drop n).take (m - n)) position
      rw [← front] at first
      refine ⟨k + 1, message, Nat.succ_lt_succ small, ?_, ?_⟩
      · rw [decodeFrom_next first, cut, behind]
        rfl
      · intro j few
        cases j with
        | zero =>
          have start : (decodeFrom order count ⟨bs, position⟩ 0 []).2 = position := rfl
          omega
        | succ j =>
          have later := ends j (by omega)
          rw [decodeFrom_next read]
          rw [behind] at later
          simp only at later ⊢
          omega

/-- An argument ends where its own bytes end: what follows them changes nothing, and a part of them is refused. Hence of
a payload whose arguments can all be read, and that is cut off within them, the arguments in front of the cut are read
unchanged, a failure stands for the one that is cut, and all that is left of the payload counts as used. The first `j`
arguments are those that `decode` reads for a count of `j`, and they end where it stops; `k` of them end before the
cut. -/
theorem arguments_end_with_their_bytes (order : ByteOrder) (bs : Bytes) :
    (∀ position argument next, readArgument order ⟨bs, position⟩ = .ok (argument, next) →
      ∃ n ≤ bs.length, next = ⟨bs.drop n, position + n⟩ ∧
        (∀ tail start, readArgument order ⟨bs.take n ++ tail, start⟩ = .ok (argument, ⟨tail, start + n⟩)) ∧
        ∀ m < n, ∀ start, ∃ fault, readArgument order ⟨bs.take m, start⟩ = .error fault) ∧
    ∀ count, Clean (decode order bs count).1 → ∀ m < (decode order bs count).2,
      ∃ k message, k < count ∧
        decode order (bs.take m) count = ((decode order bs count).1.take k ++ [.failure message], m) ∧
        ∀ j ≤ count, (decode order bs j).1 = (decode order bs count).1.take j ∧
          ((decode order bs j).2 ≤ m ↔ j ≤ k) := by
  constructor
  · intro position argument next read
    obtain ⟨n, present, same, _, again, part⟩ := (delimits_nested order maxDepth).extent read
    exact ⟨n, present, same, again, part⟩
  · intro count clean m short
    have inside : 0 + m < (decodeFrom order count ⟨bs, 0⟩ count []).2 := by
      rw [Nat.zero_add]
      exact short
    have ends : ∀ j, (decodeFrom order count ⟨bs, 0⟩ j []).2 = (decode order bs j).2 :=
      fun j => decodeFrom_used order count j ⟨bs, 0⟩ j
    obtain ⟨k, message, small, cut, before⟩ := decodeFrom_cut order count count bs 0 m clean inside
    rw [Nat.zero_add] at cut before
    refine ⟨k, message, small, cut, ?_⟩
    intro j few
    constructor
    · exact decodeFrom_fewer clean j few
    · have known := before j few
      rw [ends] at known
      exact known

def flags : Bytes := [0x11, 0, 0, 0, 1, 0x11, 0, 0, 0, 0]

theorem flags_cut :
    readArgument .little ⟨flags, 0⟩ = .ok (.bool true, ⟨flags.drop 5, 5⟩) ∧
    (∃ n ≤ flags.length, (⟨flags.drop 5, 5⟩ : Cursor) = ⟨flags.drop n, 0 + n⟩ ∧
      (∀ tail start, readArgument .little ⟨flags.take n ++ tail, start⟩ = .ok (.bool true, ⟨tail, start + n⟩)) ∧
      ∀ m < n, ∀ start, ∃ fault, readArgument .little ⟨flags.take m, start⟩ = .error fault) ∧
    Clean (decode .little flags 2).1 ∧ 7 < (decode .little flags 2).2 ∧
    ∃ k message, k < 2 ∧
      decode .little (flags.take 7) 2 = ((decode .little flags 2).1.take k ++ [.failure message], 7) ∧
      ∀ j ≤ 2, (decode .little flags j).1 = (decode .little flags 2).1.take j ∧
        ((decode .little flags j).2 ≤ 7 ↔ j ≤ k) := by
  have read : readArgument .little ⟨flags, 0⟩ = .ok (.bool true, ⟨flags.drop 5, 5⟩) := rfl
  have clean : Clean (decode .little flags 2).1 := by
    unfold Clean
    decide
  have short : 7 < (decode .little flags 2).2 := by decide
  obtain ⟨one, all⟩ := arguments_end_with_their_bytes .little flags
  exact ⟨read, one 0 _ _ read, clean, short, all 2 clean 7 short⟩

end Cuts

end DiagTrace.Verbose
