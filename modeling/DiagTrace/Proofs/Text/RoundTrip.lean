import DiagTrace.Proofs.Bytes.Reading
import DiagTrace.Text.Latin1
import DiagTrace.Text.Utf8

/-! Texts come back from their bytes: identifiers, 8-bit text and UTF-8. -/
namespace DiagTrace

theorem UInt8.toNat_ofNat_of_le {n : Nat} (small : n ≤ 255) : (UInt8.ofNat n).toNat = n := by
  rw [UInt8.toNat_ofNat']
  omega

namespace Latin1

def Plain (text : String) : Prop := ∀ c ∈ text.toList, c.toNat ≤ 0xFF

theorem decode_encode {text : String} (plain : Plain text) : decode (encode text) = text := by
  have each : ∀ c ∈ text.toList, Char.ofNat (encodeChar c).toNat = c := by
    intro c present
    have small := plain c present
    rw [encodeChar, if_pos small, UInt8.toNat_ofNat_of_le small, Char.ofNat_toNat]
  have chars : (text.toList.map encodeChar).map (fun b => Char.ofNat b.toNat) = text.toList := by
    rw [List.map_map]
    exact (List.map_congr_left each).trans (List.map_id' _)
  rw [decode, encode, chars, String.ofList_toList]

theorem length_encode (text : String) : (encode text).length = text.toList.length :=
  List.length_map _

end Latin1

namespace Ident

/-- A text that an identifier can hold: at most four characters of 7 bits, none of them zero. -/
def Plain (text : String) : Prop :=
  text.toList.length ≤ 4 ∧ ∀ c ∈ text.toList, 1 ≤ c.toNat ∧ c.toNat ≤ 0x7F

instance (text : String) : Decidable (Plain text) :=
  have _ : Decidable (∀ c ∈ text.toList, 1 ≤ c.toNat ∧ c.toNat ≤ 0x7F) := List.decidableBAll _ _
  inferInstanceAs (Decidable (text.toList.length ≤ 4 ∧ ∀ c ∈ text.toList, 1 ≤ c.toNat ∧ c.toNat ≤ 0x7F))

theorem low_bits {n : Nat} (small : n ≤ 0x7F) : UInt8.ofNat (n % 128) &&& 0x7F = UInt8.ofNat n := by
  apply UInt8.toNat_inj.mp
  rw [UInt8.toNat_and, UInt8.toNat_ofNat_of_le (by omega), UInt8.toNat_ofNat_of_le (by omega)]
  show n % 128 &&& 127 = n
  rw [Nat.and_two_pow_sub_one_eq_mod (n % 128) 7]
  omega

theorem charsOf_padded (chars : List Char) (zeros : Nat) (plain : ∀ c ∈ chars, 1 ≤ c.toNat ∧ c.toNat ≤ 0x7F) :
    charsOf (chars.map (fun c => UInt8.ofNat (c.toNat % 128)) ++ List.replicate zeros 0) = chars := by
  induction chars with
  | nil => cases zeros <;> rfl
  | cons c chars ih =>
    obtain ⟨something, small⟩ := plain c List.mem_cons_self
    have rest := ih fun other present => plain other (List.mem_cons_of_mem _ present)
    have kept := low_bits small
    have nonzero : (UInt8.ofNat c.toNat != 0) = true := by
      rw [bne_iff_ne]
      intro zero
      have value := congrArg UInt8.toNat zero
      rw [UInt8.toNat_ofNat_of_le (by omega)] at value
      have none : (0 : UInt8).toNat = 0 := rfl
      omega
    have first : Char.ofNat (UInt8.ofNat c.toNat).toNat = c := by
      rw [UInt8.toNat_ofNat_of_le (by omega), Char.ofNat_toNat]
    unfold charsOf at rest ⊢
    simp only [List.map_cons, List.cons_append, kept, List.takeWhile_cons, nonzero, ↓reduceIte, first, rest]

theorem charsOf_bytes {text : String} (plain : Plain text) : charsOf (bytes text) = text.toList := by
  rw [bytes, List.take_of_length_le plain.1]
  exact charsOf_padded text.toList _ plain.2

theorem text_packed_eq (id : String) : text (packed id) = String.ofList (charsOf (bytes id)) := by
  have fits := ByteOrder.decode_lt .big (bytes id)
  have wire := ByteOrder.encode_decode .big (bytes id)
  rw [length_bytes] at fits wire
  rw [text, packed, UInt32.toNat_ofNat_of_lt' fits, wire]

theorem text_packed {id : String} (plain : Plain id) : text (packed id) = id := by
  rw [text_packed_eq, charsOf_bytes plain, String.ofList_toList]

end Ident

namespace Read

theorem gives_ident {text : String} (plain : Ident.Plain text) : Gives ident (Ident.bytes text) text := by
  have read := gives_last (gives_take (Ident.length_bytes text)) fun wire => String.ofList (Ident.charsOf wire)
  rw [Ident.charsOf_bytes plain, String.ofList_toList] at read
  exact read

end Read

namespace Utf8

theorem isTail_iff (b : UInt8) : isTail b = true ↔ 0x80 ≤ b.toNat ∧ b.toNat ≤ 0xBF := by
  simp only [isTail, Bool.and_eq_true, decide_eq_true_eq, UInt8.le_iff_toNat_le]
  rfl

theorem toNat_tail (n : Nat) : (UInt8.ofNat (0x80 + n % 64)).toNat = 0x80 + n % 64 :=
  UInt8.toNat_ofNat_of_le (by omega)

theorem isTail_ofNat (n : Nat) : isTail (UInt8.ofNat (0x80 + n % 64)) = true := by
  rw [isTail_iff, toNat_tail]
  omega

theorem secondOfThree_of {first second : UInt8} (tail : isTail second = true)
    (not_overlong : first.toNat = 0xE0 → 0xA0 ≤ second.toNat)
    (not_surrogate : first.toNat = 0xED → second.toNat ≤ 0x9F) : secondOfThree first second = true := by
  rw [isTail_iff] at tail
  unfold secondOfThree
  by_cases lowest : first = 0xE0
  · have bound := not_overlong (congrArg UInt8.toNat lowest)
    simp only [lowest, beq_self_eq_true, ↓reduceIte, Bool.and_eq_true, decide_eq_true_eq,
      UInt8.le_iff_toNat_le]
    exact ⟨bound, tail.2⟩
  · by_cases surrogate : first = 0xED
    · have bound := not_surrogate (congrArg UInt8.toNat surrogate)
      have other : ((0xED : UInt8) == 0xE0) = false := by decide
      simp only [surrogate, other, beq_self_eq_true, Bool.false_eq_true, ↓reduceIte, Bool.and_eq_true,
        decide_eq_true_eq, UInt8.le_iff_toNat_le]
      exact ⟨tail.1, bound⟩
    · simp only [beq_iff_eq, lowest, surrogate, ↓reduceIte]
      exact (isTail_iff second).mpr tail

theorem secondOfFour_of {first second : UInt8} (tail : isTail second = true)
    (not_overlong : first.toNat = 0xF0 → 0x90 ≤ second.toNat)
    (not_beyond : first.toNat = 0xF4 → second.toNat ≤ 0x8F) : secondOfFour first second = true := by
  rw [isTail_iff] at tail
  unfold secondOfFour
  by_cases lowest : first = 0xF0
  · have bound := not_overlong (congrArg UInt8.toNat lowest)
    simp only [lowest, beq_self_eq_true, ↓reduceIte, Bool.and_eq_true, decide_eq_true_eq,
      UInt8.le_iff_toNat_le]
    exact ⟨bound, tail.2⟩
  · by_cases highest : first = 0xF4
    · have bound := not_beyond (congrArg UInt8.toNat highest)
      have other : ((0xF4 : UInt8) == 0xF0) = false := by decide
      simp only [highest, other, beq_self_eq_true, Bool.false_eq_true, ↓reduceIte, Bool.and_eq_true,
        decide_eq_true_eq, UInt8.le_iff_toNat_le]
      exact ⟨tail.1, bound⟩
    · simp only [beq_iff_eq, lowest, highest, ↓reduceIte]
      exact (isTail_iff second).mpr tail

theorem next_two {first b : UInt8} (rest : Bytes) (low : 0xC2 ≤ first.toNat) (high : first.toNat ≤ 0xDF)
    (tail : isTail b = true) : next first (b :: rest) = (some (join (first.toNat % 32) [b]), 1) := by
  have not_ascii : ¬ first < 0x80 := by
    rw [UInt8.lt_iff_toNat_lt]
    show ¬ first.toNat < 128
    omega
  have lead : (decide (0xC2 ≤ first) && decide (first ≤ 0xDF)) = true := by
    simp only [Bool.and_eq_true, decide_eq_true_eq, UInt8.le_iff_toNat_le]
    exact ⟨low, high⟩
  unfold next
  simp only [if_neg not_ascii, lead, ↓reduceIte, tail]

theorem next_three {first b c : UInt8} (rest : Bytes) (low : 0xE0 ≤ first.toNat) (high : first.toNat ≤ 0xEF)
    (second : secondOfThree first b = true) (tail : isTail c = true) :
    next first (b :: c :: rest) = (some (join (first.toNat % 16) [b, c]), 2) := by
  have not_ascii : ¬ first < 0x80 := by
    rw [UInt8.lt_iff_toNat_lt]
    show ¬ first.toNat < 128
    omega
  have not_two : (decide (0xC2 ≤ first) && decide (first ≤ 0xDF)) = false := by
    simp only [Bool.and_eq_false_iff, decide_eq_false_iff_not, UInt8.le_iff_toNat_le]
    exact .inr (by show ¬ first.toNat ≤ 223; omega)
  have lead : (decide (0xE0 ≤ first) && decide (first ≤ 0xEF)) = true := by
    simp only [Bool.and_eq_true, decide_eq_true_eq, UInt8.le_iff_toNat_le]
    exact ⟨low, high⟩
  unfold next
  simp only [if_neg not_ascii, not_two, lead, Bool.false_eq_true, ↓reduceIte, second, Bool.not_true, tail]

theorem next_four {first b c d : UInt8} (rest : Bytes) (low : 0xF0 ≤ first.toNat) (high : first.toNat ≤ 0xF4)
    (second : secondOfFour first b = true) (third : isTail c = true) (tail : isTail d = true) :
    next first (b :: c :: d :: rest) = (some (join (first.toNat % 8) [b, c, d]), 3) := by
  have not_ascii : ¬ first < 0x80 := by
    rw [UInt8.lt_iff_toNat_lt]
    show ¬ first.toNat < 128
    omega
  have not_two : (decide (0xC2 ≤ first) && decide (first ≤ 0xDF)) = false := by
    simp only [Bool.and_eq_false_iff, decide_eq_false_iff_not, UInt8.le_iff_toNat_le]
    exact .inr (by show ¬ first.toNat ≤ 223; omega)
  have not_three : (decide (0xE0 ≤ first) && decide (first ≤ 0xEF)) = false := by
    simp only [Bool.and_eq_false_iff, decide_eq_false_iff_not, UInt8.le_iff_toNat_le]
    exact .inr (by show ¬ first.toNat ≤ 239; omega)
  have lead : (decide (0xF0 ≤ first) && decide (first ≤ 0xF4)) = true := by
    simp only [Bool.and_eq_true, decide_eq_true_eq, UInt8.le_iff_toNat_le]
    exact ⟨low, high⟩
  unfold next
  simp only [if_neg not_ascii, not_two, not_three, lead, Bool.false_eq_true, ↓reduceIte, second, Bool.not_true,
    third, tail]

theorem chars_cons (b : UInt8) (rest : Bytes) :
    chars (b :: rest) = (next b rest).1.getD replacement :: chars (rest.drop (next b rest).2) := by
  rw [chars]

theorem toNat_valid (c : Char) : c.toNat < 0xD800 ∨ 0xDFFF < c.toNat ∧ c.toNat < 0x110000 := c.valid

theorem chars_encodeChar (c : Char) (rest : Bytes) : chars (encodeChar c ++ rest) = c :: chars rest := by
  have valid := toNat_valid c
  unfold encodeChar
  simp only
  split
  · rename_i small
    have value : (UInt8.ofNat c.toNat).toNat = c.toNat := UInt8.toNat_ofNat_of_le (by omega)
    have ascii : UInt8.ofNat c.toNat < 0x80 := by
      rw [UInt8.lt_iff_toNat_lt, value]
      exact small
    have read : next (UInt8.ofNat c.toNat) rest = (some c, 0) := by
      unfold next
      rw [if_pos ascii, value, Char.ofNat_toNat]
    rw [List.singleton_append, chars_cons, read]
    rfl
  · split
    · have lead : (UInt8.ofNat (0xC0 + c.toNat / 64)).toNat = 0xC0 + c.toNat / 64 :=
        UInt8.toNat_ofNat_of_le (by omega)
      have joined : (0xC0 + c.toNat / 64) % 32 * 64 + (0x80 + c.toNat % 64) % 64 = c.toNat := by omega
      rw [List.cons_append, List.singleton_append, chars_cons,
        next_two rest (by omega) (by omega) (isTail_ofNat c.toNat)]
      simp only [join, lead, List.foldl_cons, List.foldl_nil, toNat_tail, joined, Char.ofNat_toNat]
      rfl
    · split
      · have lead : (UInt8.ofNat (0xE0 + c.toNat / 4096)).toNat = 0xE0 + c.toNat / 4096 :=
          UInt8.toNat_ofNat_of_le (by omega)
        have joined : ((0xE0 + c.toNat / 4096) % 16 * 64 + (0x80 + c.toNat / 64 % 64) % 64) * 64
            + (0x80 + c.toNat % 64) % 64 = c.toNat := by omega
        have second : secondOfThree (UInt8.ofNat (0xE0 + c.toNat / 4096))
            (UInt8.ofNat (0x80 + c.toNat / 64 % 64)) = true := by
          refine secondOfThree_of (isTail_ofNat (c.toNat / 64)) ?_ ?_
          · rw [lead, toNat_tail]
            omega
          · rw [lead, toNat_tail]
            omega
        rw [List.cons_append, List.cons_append, List.singleton_append, chars_cons,
          next_three rest (by omega) (by omega) second (isTail_ofNat c.toNat)]
        simp only [join, lead, List.foldl_cons, List.foldl_nil, toNat_tail, joined, Char.ofNat_toNat]
        rfl
      · have lead : (UInt8.ofNat (0xF0 + c.toNat / 262144)).toNat = 0xF0 + c.toNat / 262144 :=
          UInt8.toNat_ofNat_of_le (by omega)
        have joined : (((0xF0 + c.toNat / 262144) % 8 * 64 + (0x80 + c.toNat / 4096 % 64) % 64) * 64
            + (0x80 + c.toNat / 64 % 64) % 64) * 64 + (0x80 + c.toNat % 64) % 64 = c.toNat := by omega
        have second : secondOfFour (UInt8.ofNat (0xF0 + c.toNat / 262144))
            (UInt8.ofNat (0x80 + c.toNat / 4096 % 64)) = true := by
          refine secondOfFour_of (isTail_ofNat (c.toNat / 4096)) ?_ ?_
          · rw [lead, toNat_tail]
            omega
          · rw [lead, toNat_tail]
            omega
        rw [List.cons_append, List.cons_append, List.cons_append, List.singleton_append, chars_cons,
          next_four rest (by omega) (by omega) second (isTail_ofNat (c.toNat / 64)) (isTail_ofNat c.toNat)]
        simp only [join, lead, List.foldl_cons, List.foldl_nil, toNat_tail, joined, Char.ofNat_toNat]
        rfl

theorem chars_encode (cs : List Char) : chars (cs.flatMap encodeChar) = cs := by
  induction cs with
  | nil => rw [List.flatMap_nil, chars]
  | cons c cs ih => rw [List.flatMap_cons, chars_encodeChar, ih]

theorem decode_encode (text : String) : decode (encode text) = text := by
  rw [decode, encode, chars_encode, String.ofList_toList]

end Utf8

end DiagTrace
