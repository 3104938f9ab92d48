import DiagTrace.Proofs.Text.Binary

/-!
Texts in base two and sixteen lose nothing: numbers and bytes can be read back from them, so that two values never share
a text. The characters of a payload may be bars themselves; only what stands behind the last bar is read.
-/
namespace DiagTrace

namespace Hex

/-- How a number stands in base sixteen: digits that read back to it, and no zero before those of its width. -/
structure Spelled (value : UInt64) (width : Width) (text : String) (digits : List Char) : Prop where
  stands : text = "0x" ++ String.ofList digits
  reads : value? 16 digits = some value.toNat
  wide : 2 * min width.bytes 8 ≤ digits.length
  tight : 2 * min width.bytes 8 < digits.length → digits.head? ≠ some '0'

theorem spelled_hexText (value : UInt64) (width : Width) :
    Spelled value width (Argument.hexText value width) (padded 16 (min width.bytes 8 * 2) value.toNat) where
  stands := rfl
  reads := value?_padded (by decide) (by decide) _ _
  wide := by
    rw [length_padded, Nat.mul_comm]
    exact Nat.le_max_left _ _
  tight wider := by
    rw [Nat.mul_comm] at wider
    have positive : 0 < min width.bytes 8 * 2 := by cases width <;> decide
    exact head_padded (by decide) positive wider

theorem value_of_spelled {value other : UInt64} {width wide : Width} {text : String} {front back : List Char}
    (one : Spelled value width text front) (two : Spelled other wide text back) : value = other := by
  have same : front = back := by
    have chars := congrArg (List.drop 2 ·.toList) (one.stands.symm.trans two.stands)
    simp only [String.toList_append, String.toList_ofList] at chars
    exact chars
  subst same
  exact eq_of_value? one.reads two.reads

end Hex

namespace Argument

theorem hexText_inj {value other : UInt64} {width : Width} (same : hexText value width = hexText other width) :
    value = other := by
  have spelled := Hex.spelled_hexText value width
  rw [same] at spelled
  exact Hex.value_of_spelled spelled (Hex.spelled_hexText other width)

theorem eq_of_read {α : Type} {write : α → String} {one two : α} (read : String → Option α)
    (back : ∀ value, read (write value) = some value) (same : write one = write two) : one = two := by
  have first := back one
  rw [same, back two] at first
  exact (Option.some.inj first).symm

theorem bytes?_bytesText (data : Bytes) : Hex.bytes? (bytesText data).toList = some data := by
  rw [bytesText, String.toList_ofList, Hex.bytes?_spaced]

theorem bytesText_inj {data other : Bytes} (same : bytesText data = bytesText other) : data = other :=
  eq_of_read (fun text => Hex.bytes? text.toList) bytes?_bytesText same

section Payloads

def behindBar (text : List Char) : List Char := (text.reverse.takeWhile (· != '|')).reverse

theorem behindBar_append (front back : List Char) (apart : '|' ∉ back) :
    behindBar (front ++ '|' :: back) = back := by
  have others : ∀ c ∈ back.reverse, (c != '|') = true := by
    intro c present
    rw [bne_iff_ne]
    rintro rfl
    exact apart (List.mem_reverse.mp present)
  rw [behindBar, List.reverse_append, List.reverse_cons, List.append_assoc, List.takeWhile_append_of_pos others]
  simp

/-- How bytes that were not understood stand: a character for each, and behind a bar what reads back to them. -/
structure Shown (data : Bytes) (text : String) (chars digits : List Char) : Prop where
  stands : text = String.ofList chars ++ "|" ++ String.ofList digits
  each : chars.length = data.length
  reads : Hex.bytes? digits = some data

theorem shown_payloadText {data : Bytes} (something : data ≠ []) :
    Shown data (payloadText data) (data.map visible) (Hex.spaced data) where
  stands := by
    have full : ¬ data.isEmpty = true := fun empty => something (List.isEmpty_iff.mp empty)
    rw [payloadText, if_neg full, bytesText]
  each := List.length_map visible
  reads := Hex.bytes?_spaced data

theorem bytes?_behindBar (data : Bytes) : Hex.bytes? (behindBar (payloadText data).toList) = some data := by
  cases data with
  | nil => rfl
  | cons b data =>
    have apart : '|' ∉ Hex.spaced (b :: data) := by
      intro present
      rcases Hex.digit?_of_spaced _ _ present with space | digit
      · nomatch space
      · exact digit rfl
    have shown := shown_payloadText (List.cons_ne_nil b data)
    have chars : (payloadText (b :: data)).toList = (b :: data).map visible ++ '|' :: Hex.spaced (b :: data) := by
      rw [shown.stands, String.toList_append, String.toList_append, String.toList_ofList, String.toList_ofList,
        String.toList_ofList, List.append_assoc]
      rfl
    rw [chars, behindBar_append _ _ apart, shown.reads]

theorem payloadText_inj {data other : Bytes} (same : payloadText data = payloadText other) : data = other :=
  eq_of_read (fun text => Hex.bytes? (behindBar text.toList)) bytes?_behindBar same

end Payloads

/-- Numbers and bytes in base two and sixteen read back from their texts, and so no two of them have the same one. -/
theorem digits_lose_nothing :
    (∀ value n : Nat, significantBytes value ≤ n ↔ value < Bytes.capacity n) ∧
    (∀ (value : UInt64) (width : Width),
      text (.binary value width) = Binary.print value width.bytes ∧
      (∃ groups, Binary.Spelled value width (text (.binary value width)) groups) ∧
      ∃ digits, Hex.Spelled value width (text (.hex value width)) digits) ∧
    (∀ data : Bytes, Hex.bytes? (text (.raw data)).toList = some data) ∧
    (∀ data : Bytes, data ≠ [] → ∃ chars digits, Shown data (text (.payload data)) chars digits) ∧
    (∀ (value other : UInt64) (width : Width),
      (text (.binary value width) = text (.binary other width) → value = other) ∧
      (text (.hex value width) = text (.hex other width) → value = other)) ∧
    ∀ data other : Bytes,
      (text (.raw data) = text (.raw other) → data = other) ∧
      (text (.payload data) = text (.payload other) → data = other) := by
  simp only [text]
  refine ⟨significantBytes_le_iff, fun value width => ⟨(Binary.print_eq value width).symm, ?_, ?_⟩, bytes?_bytesText,
    fun data something => ⟨_, _, shown_payloadText something⟩, fun _ _ _ => ⟨binaryText_inj, hexText_inj⟩,
    fun _ _ => ⟨bytesText_inj, payloadText_inj⟩⟩
  · exact ⟨_, Binary.spelled_binaryText value width⟩
  · exact ⟨_, Hex.spelled_hexText value width⟩

end Argument

end DiagTrace
