import DiagTrace.Proofs.Stream.Reading
import Mathlib.Data.List.TakeWhile
import Mathlib.Data.Set.Function

/-!
The normal form of identifiers: what is left of a text on the wire. Its first four characters are cut to 7 bits, which
can make a zero of one of them, and the first zero ends the text.
-/
namespace DiagTrace.Ident

def reduced (id : String) : List Char := (id.toList.take 4).map fun c => Char.ofNat (c.toNat % 128)

/-- The longest of the beginnings of a text in which a character does not occur. -/
structure LongestWithout (c : Char) (chars whole : List Char) : Prop where
  front : chars <+: whole
  absent : c ∉ chars
  longest : ∀ others, others <+: whole → c ∉ others → others <+: chars

theorem longestWithout_takeWhile (c : Char) (whole : List Char) :
    LongestWithout c (whole.takeWhile (· != c)) whole := by
  refine ⟨List.takeWhile_prefix _, ?_, ?_⟩
  · intro present
    have other : (c != c) = true := List.mem_takeWhile_imp (p := (· != c)) present
    exact bne_iff_ne.mp other rfl
  · rintro others ⟨rest, rfl⟩ absent
    have kept : ∀ other ∈ others, (other != c) = true := fun other present =>
      bne_iff_ne.mpr fun same => absent (same ▸ present)
    rw [List.takeWhile_append_of_pos kept]
    exact List.prefix_append ..

section Wire

theorem toNat_low (n : Nat) : (UInt8.ofNat (n % 128)).toNat = n % 128 :=
  UInt8.toNat_ofNat_of_le (by omega)

theorem mask_low (n : Nat) : UInt8.ofNat (n % 128) &&& 0x7F = UInt8.ofNat (n % 128) := by
  have kept := low_bits (n := n % 128) (by omega)
  rw [Nat.mod_mod] at kept
  exact kept

theorem low_ne_zero_iff (n : Nat) : (UInt8.ofNat (n % 128) != 0) = (Char.ofNat (n % 128) != '\x00') := by
  have value : (Char.ofNat (n % 128)).toNat = n % 128 := by
    rw [← toNat_low, UInt8.toNat_charOf]
  rw [Bool.eq_iff_iff, bne_iff_ne, bne_iff_ne, ← UInt8.toNat_inj.ne, ← Char.toNat_inj.ne, toNat_low, value]
  rfl

theorem takeWhile_zeros (bs : Bytes) (zeros : Nat) :
    (bs ++ List.replicate zeros 0).takeWhile (· != 0) = bs.takeWhile (· != 0) := by
  have nothing : (List.replicate zeros (0 : UInt8)).takeWhile (· != 0) = [] := by
    rw [List.takeWhile_replicate]
    rfl
  rw [List.takeWhile_append, nothing, List.append_nil]
  split
  · rename_i all
    exact ((List.takeWhile_prefix _).eq_of_length all).symm
  · rfl

theorem charsOf_bytes_eq (id : String) : charsOf (bytes id) = (reduced id).takeWhile (· != '\x00') := by
  have masked : (bytes id).map (· &&& 0x7F) = bytes id := by
    have all : ∀ c ∈ id.toList.take 4, UInt8.ofNat (c.toNat % 128) &&& 0x7F = UInt8.ofNat (c.toNat % 128) :=
      fun c _ => mask_low c.toNat
    simp only [bytes, List.map_append, List.map_map, List.map_replicate, List.length_map]
    congr 1
    exact List.map_congr_left all
  have stops : ((· != 0) ∘ fun c : Char => UInt8.ofNat (c.toNat % 128)) =
      ((· != '\x00') ∘ fun c : Char => Char.ofNat (c.toNat % 128)) :=
    funext fun c => low_ne_zero_iff c.toNat
  rw [charsOf, masked, bytes, takeWhile_zeros, reduced, List.takeWhile_map, List.takeWhile_map, stops, List.map_map]
  refine List.map_congr_left fun c _ => ?_
  rw [Function.comp_apply, toNat_low]

end Wire

/-- A text comes back from the wire as the longest beginning of its reduced characters without a zero. -/
theorem normal_longest (id : String) : LongestWithout '\x00' (normal id).toList (reduced id) := by
  rw [normal, text_packed_eq, String.toList_ofList, charsOf_bytes_eq]
  exact longestWithout_takeWhile '\x00' (reduced id)

theorem normal_eq_self_iff (id : String) : normal id = id ↔ Plain id := by
  constructor
  · intro kept
    rw [← kept]
    exact plain_text (packed id)
  · exact text_packed

theorem normal_text (id : UInt32) : normal (text id) = text id := text_packed (plain_text id)

theorem invOn_plain : Set.InvOn text packed {id | Plain id} (packed '' {id | Plain id}) := by
  have left : Set.LeftInvOn text packed {id | Plain id} := fun _ plain => text_packed plain
  refine ⟨left, ?_⟩
  rintro _ ⟨id, plain, rfl⟩
  rw [left plain]

end DiagTrace.Ident
