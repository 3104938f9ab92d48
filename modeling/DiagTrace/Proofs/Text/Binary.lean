import DiagTrace.Argument.Text
import DiagTrace.Proofs.Text.Digits

/-!
Numbers in base two, printed byte by byte from the highest of eight down. The printer carries two flags, whether nothing
is out yet and whether a byte that is not zero was met. Between two bytes they are functions of the value and of the
place in it (`step_before`), and so what comes out is the text of the bytes that are shown (`print_eq`).
-/
namespace DiagTrace

theorem Bytes.capacity_eq (n : Nat) : Bytes.capacity n = 1 <<< (8 * n) := by
  induction n with
  | zero => rfl
  | succ n ih => rw [Bytes.capacity, ih, Nat.mul_succ, Nat.shiftLeft_add, Nat.shiftLeft_eq _ 8, Nat.mul_comm]

theorem ByteOrder.encode_big_succ (n v : Nat) :
    ByteOrder.big.encode (n + 1) v = ByteOrder.big.encode n (v / 256) ++ [UInt8.ofNat v] :=
  List.reverse_cons

namespace Argument

theorem significantBytes_le_iff (value n : Nat) : significantBytes value ≤ n ↔ value < Bytes.capacity n := by
  rw [significantBytes]
  by_cases zero : value = 0
  · subst zero
    exact ⟨fun _ => Bytes.capacity_pos n, fun _ => Nat.zero_le n⟩
  · have bits := Nat.log2_lt zero (k := 8 * n)
    rw [if_neg (by simpa using zero), Bytes.capacity_eq, Nat.one_shiftLeft, ← bits]
    omega

end Argument

namespace Binary

open Argument

def shown (value : UInt64) (bytes : Nat) : Nat := max (min bytes 8) (significantBytes value.toNat)

section Groups

def groups (bs : Bytes) : List (List Char) := bs.flatMap fun b => [Hex.nibble (b.toNat / 16), Hex.nibble (b.toNat % 16)]

def grouped (bs : Bytes) : String :=
  if bs.isEmpty then "" else "0b" ++ " ".intercalate ((groups bs).map String.ofList)

theorem groups_append (front back : Bytes) : groups (front ++ back) = groups front ++ groups back :=
  List.flatMap_append

theorem grouped_snoc (bs : Bytes) (b : UInt8) :
    grouped (bs ++ [b]) = grouped bs ++ ((if bs.isEmpty then "0b" else " ") ++
      String.ofList (Hex.nibble (b.toNat / 16)) ++ " " ++ String.ofList (Hex.nibble (b.toNat % 16))) := by
  cases bs with
  | nil =>
    simp only [grouped, List.nil_append, List.isEmpty_nil, List.isEmpty_cons, ↓reduceIte, groups, List.flatMap_cons,
      List.flatMap_nil, List.append_nil, List.map_cons, List.map_nil, String.intercalate_cons_cons,
      String.intercalate_singleton, String.append_assoc, String.empty_append, Bool.false_eq_true]
  | cons first bs =>
    have shown : (groups (first :: bs)).map String.ofList ≠ [] := List.cons_ne_nil _ _
    have last : (groups [b]).map String.ofList ≠ [] := List.cons_ne_nil _ _
    rw [grouped, grouped, groups_append, List.map_append, String.intercalate_append_of_ne_nil shown last]
    simp only [List.cons_append, List.isEmpty_cons, groups, List.flatMap_cons, List.flatMap_nil, List.append_nil,
      List.map_cons, List.map_nil, String.intercalate_cons_cons, String.intercalate_singleton, String.append_assoc,
      Bool.false_eq_true, ↓reduceIte]

theorem length_groups (bs : Bytes) : (groups bs).flatten.length = 8 * bs.length := by
  induction bs with
  | nil => rfl
  | cons b bs ih =>
    have first : (groups [b]).flatten.length = 8 := rfl
    rw [← List.singleton_append, groups_append, List.flatten_append, List.length_append, first, ih, List.length_append,
      List.length_singleton, Nat.mul_add]

theorem valueFrom?_nibble {n : Nat} (small : n < 16) (sum : Nat) (digits : List Char) :
    Hex.valueFrom? 2 sum (Hex.nibble n ++ digits) = Hex.valueFrom? 2 (sum * 16 + n) digits := by
  have sums : (((sum * 2 + n / 8 % 2) * 2 + n / 4 % 2) * 2 + n / 2 % 2) * 2 + n % 2 = sum * 16 + n := by omega
  rw [Hex.nibble]
  simp only [List.cons_append, List.nil_append]
  rw [Hex.valueFrom?_digit (by omega) (by decide), Hex.valueFrom?_digit (by omega) (by decide),
    Hex.valueFrom?_digit (by omega) (by decide), Hex.valueFrom?_digit (by omega) (by decide), sums]

theorem valueFrom?_groups_one (sum : Nat) (b : UInt8) :
    Hex.valueFrom? 2 sum (groups [b]).flatten = some (sum * 256 + b.toNat) := by
  have small := b.toNat_lt
  have digits : (groups [b]).flatten = Hex.nibble (b.toNat / 16) ++ (Hex.nibble (b.toNat % 16) ++ []) := rfl
  rw [digits, valueFrom?_nibble (by omega), valueFrom?_nibble (by omega), Hex.valueFrom?]
  congr 1
  omega

theorem valueFrom?_groups (n v sum : Nat) :
    Hex.valueFrom? 2 sum (groups (ByteOrder.big.encode n v)).flatten =
      some (sum * Bytes.capacity n + v % Bytes.capacity n) := by
  induction n generalizing v with
  | zero =>
    have nothing : v % Bytes.capacity 0 = 0 := Nat.mod_one v
    rw [nothing, Bytes.capacity, Nat.mul_one]
    rfl
  | succ n ih =>
    have low : (UInt8.ofNat v).toNat = v % 256 := UInt8.toNat_ofNat'
    rw [ByteOrder.encode_big_succ, groups_append, List.flatten_append, Hex.valueFrom?_append, ih, Option.bind_some,
      valueFrom?_groups_one, low, Bytes.capacity, Nat.mod_mul]
    congr 1
    rw [Nat.add_mul, Nat.mul_assoc, Nat.mul_comm (Bytes.capacity n) 256]
    omega

end Groups

section Printing

/-- What the printer carries from one byte to the next. -/
structure Printer where
  first : Bool
  print : Bool
  out : String

def byteAt (value : UInt64) (i : Nat) : UInt8 := (value >>> UInt64.ofNat (i * 8)).toUInt8

def step (value : UInt64) (bytes i : Nat) (printer : Printer) : Printer :=
  let byte := byteAt value i
  let print := printer.print || byte != 0
  if i < bytes || print then
    ⟨false, print, printer.out ++ ((if printer.first then "0b" else " ") ++
      String.ofList (Hex.padded 2 4 (byte.toNat / 16)) ++ " " ++ String.ofList (Hex.padded 2 4 (byte.toNat % 16)))⟩
  else { printer with print }

def printBelow (value : UInt64) (bytes : Nat) : Nat → Printer → Printer
  | 0, printer => printer
  | i + 1, printer => printBelow value bytes i (step value bytes i printer)

def print (value : UInt64) (bytes : Nat) : String := (printBelow value bytes 8 ⟨true, false, ""⟩).out

def before (value : UInt64) (bytes i : Nat) : Printer where
  first := decide (shown value bytes ≤ i)
  print := decide (Bytes.capacity i ≤ value.toNat)
  out := grouped (ByteOrder.big.encode (shown value bytes - i) (value.toNat / Bytes.capacity i))

theorem byteAt_eq (value : UInt64) {i : Nat} (inside : i < 8) :
    byteAt value i = UInt8.ofNat (value.toNat / Bytes.capacity i) := by
  apply UInt8.toNat_inj.mp
  rw [byteAt, UInt64.toNat_toUInt8, UInt64.toNat_shiftRight, UInt64.toNat_ofNat', UInt8.toNat_ofNat', Bytes.capacity_eq,
    Nat.one_shiftLeft, Nat.shiftRight_eq_div_pow]
  have amount : i * 8 % 2 ^ 64 % 64 = 8 * i := by omega
  rw [amount]

theorem padded_nibble : ∀ n < 16, Hex.padded 2 4 n = Hex.nibble n := by decide

theorem print_byteAt (value : UInt64) {i : Nat} (inside : i < 8) :
    (decide (Bytes.capacity (i + 1) ≤ value.toNat) || byteAt value i != 0) =
      decide (Bytes.capacity i ≤ value.toNat) := by
  have positive := Bytes.capacity_pos i
  have above : Bytes.capacity (i + 1) ≤ value.toNat ↔ 256 ≤ value.toNat / Bytes.capacity i := by
    rw [Bytes.capacity, Nat.le_div_iff_mul_le positive]
  have here : Bytes.capacity i ≤ value.toNat ↔ 1 ≤ value.toNat / Bytes.capacity i := by
    rw [Nat.le_div_iff_mul_le positive, Nat.one_mul]
  have byte : byteAt value i != 0 ↔ value.toNat / Bytes.capacity i % 256 ≠ 0 := by
    rw [byteAt_eq value inside, bne_iff_ne, ne_eq, ← UInt8.toNat_inj, UInt8.toNat_ofNat']
    rfl
  rw [Bool.eq_iff_iff, Bool.or_eq_true, decide_eq_true_iff, decide_eq_true_iff, above, here, byte]
  generalize value.toNat / Bytes.capacity i = rest
  omega

theorem shows_byteAt (value : UInt64) (bytes : Nat) {i : Nat} (inside : i < 8) :
    (decide (i < bytes) || decide (Bytes.capacity i ≤ value.toNat)) = decide (i < shown value bytes) := by
  have needed := significantBytes_le_iff value.toNat i
  rw [Bool.eq_iff_iff, Bool.or_eq_true, decide_eq_true_iff, decide_eq_true_iff, decide_eq_true_iff, shown]
  omega

theorem grouped_shown {value : UInt64} {bytes i : Nat} (inside : i < 8) (more : i < shown value bytes) :
    (before value bytes i).out = (before value bytes (i + 1)).out ++
      ((if (before value bytes (i + 1)).first then "0b" else " ") ++
        String.ofList (Hex.padded 2 4 ((byteAt value i).toNat / 16)) ++ " " ++
        String.ofList (Hex.padded 2 4 ((byteAt value i).toNat % 16))) := by
  have small := (byteAt value i).toNat_lt
  have one : shown value bytes - i = shown value bytes - (i + 1) + 1 := by omega
  have above : value.toNat / Bytes.capacity i / 256 = value.toNat / Bytes.capacity (i + 1) := by
    rw [Nat.div_div_eq_div_mul, Bytes.capacity, Nat.mul_comm]
  have first : (before value bytes (i + 1)).first =
      (ByteOrder.big.encode (shown value bytes - (i + 1)) (value.toNat / Bytes.capacity (i + 1))).isEmpty := by
    rw [before, Bool.eq_iff_iff, List.isEmpty_iff_length_eq_zero, ByteOrder.length_encode, decide_eq_true_iff]
    omega
  rw [first, padded_nibble _ (by omega), padded_nibble _ (by omega), before, before, one, ByteOrder.encode_big_succ,
    above, ← byteAt_eq value inside, grouped_snoc]

theorem step_before (value : UInt64) (bytes : Nat) {i : Nat} (inside : i < 8) :
    step value bytes i (before value bytes (i + 1)) = before value bytes i := by
  have met : ((before value bytes (i + 1)).print || byteAt value i != 0) = (before value bytes i).print :=
    print_byteAt value inside
  have shows : (decide (i < bytes) || (before value bytes i).print) = decide (i < shown value bytes) :=
    shows_byteAt value bytes inside
  rw [step, met, shows]
  by_cases more : i < shown value bytes
  · have first : (before value bytes i).first = false := decide_eq_false (Nat.not_le.mpr more)
    rw [if_pos (decide_eq_true more), ← grouped_shown inside more, ← first]
  · have first : (before value bytes (i + 1)).first = (before value bytes i).first := by
      rw [before, before, decide_eq_true (Nat.not_lt.mp more), decide_eq_true (Nat.le_succ_of_le (Nat.not_lt.mp more))]
    have out : (before value bytes (i + 1)).out = (before value bytes i).out := by
      rw [before, before, Nat.sub_eq_zero_of_le (Nat.not_lt.mp more),
        Nat.sub_eq_zero_of_le (Nat.le_succ_of_le (Nat.not_lt.mp more))]
      rfl
    rw [if_neg (fun shown => more (of_decide_eq_true shown)), first, out]

theorem printBelow_before (value : UInt64) (bytes : Nat) {i : Nat} (inside : i ≤ 8) :
    printBelow value bytes i (before value bytes i) = before value bytes 0 := by
  induction i with
  | zero => rfl
  | succ i ih => rw [printBelow, step_before value bytes inside, ih (Nat.le_of_succ_le inside)]

theorem before_all (value : UInt64) (bytes : Nat) : before value bytes 8 = ⟨true, false, ""⟩ := by
  have fits : value.toNat < Bytes.capacity 8 := value.toNat_lt
  have few : shown value bytes ≤ 8 :=
    Nat.max_le.mpr ⟨Nat.min_le_right bytes 8, (significantBytes_le_iff _ 8).mpr fits⟩
  rw [before, decide_eq_true few, decide_eq_false (Nat.not_le.mpr fits), Nat.sub_eq_zero_of_le few]
  rfl

theorem print_eq_grouped (value : UInt64) (bytes : Nat) :
    print value bytes = grouped (ByteOrder.big.encode (shown value bytes) value.toNat) := by
  rw [print, ← before_all value bytes, printBelow_before value bytes (Nat.le_refl 8), before, Bytes.capacity,
    Nat.div_one, Nat.sub_zero]

theorem shown_pos (value : UInt64) (width : Width) : 0 < shown value width.bytes := by
  have some : 0 < min width.bytes 8 := by cases width <;> decide
  exact Nat.lt_of_lt_of_le some (Nat.le_max_left _ _)

theorem grouped_eq {bs : Bytes} (some : 0 < bs.length) :
    grouped bs = "0b" ++ " ".intercalate ((groups bs).map String.ofList) := by
  cases bs with
  | nil => nomatch some
  | cons b bs => rfl

theorem print_eq (value : UInt64) (width : Width) : print value width.bytes = binaryText value width := by
  rw [print_eq_grouped, grouped_eq (by rw [ByteOrder.length_encode]; exact shown_pos value width)]
  rfl

example : print 0x102 Width.w8.bytes = "0b0000 0001 0000 0010" := by decide

end Printing

section Spelling

/-- How a number stands in base two: groups of four digits, all bytes of its width and all that it needs. -/
structure Spelled (value : UInt64) (width : Width) (text : String) (groups : List (List Char)) : Prop where
  stands : text = "0b" ++ " ".intercalate (groups.map String.ofList)
  four : ∀ group ∈ groups, group.length = 4
  reads : Hex.value? 2 groups.flatten = some value.toNat
  length : groups.flatten.length = 8 * max (min width.bytes 8) (significantBytes value.toNat)

theorem spelled_binaryText (value : UInt64) (width : Width) :
    Spelled value width (binaryText value width)
      (groups (ByteOrder.big.encode (shown value width.bytes) value.toNat)) where
  stands := rfl
  four group present := by
    obtain ⟨b, -, inside⟩ := List.mem_flatMap.mp present
    rcases List.mem_cons.mp inside with rfl | inside
    · rfl
    · rw [List.mem_singleton.mp inside]
      rfl
  reads := by
    have fits := (significantBytes_le_iff value.toNat (shown value width.bytes)).mp (Nat.le_max_right _ _)
    rw [Hex.value?, valueFrom?_groups, Nat.zero_mul, Nat.zero_add, Nat.mod_eq_of_lt fits]
  length := by rw [length_groups, ByteOrder.length_encode, shown]

variable {value other : UInt64} {width wide : Width} {text : String} {front back : List (List Char)}

theorem no_space (spelled : Spelled value width text front) : ∀ group ∈ front, ' ' ∉ group := by
  intro group present space
  exact Hex.digit?_of_valueFrom? spelled.reads ' ' (List.mem_flatten.mpr ⟨group, present, space⟩) rfl

theorem splitOn_spelled (spelled : Spelled value width text front) :
    (text.toList.drop 2).splitOn ' ' = front := by
  have something : front ≠ [] := by
    rintro rfl
    have length := spelled.length
    have positive := shown_pos value width
    rw [shown] at positive
    rw [List.flatten_nil, List.length_nil] at length
    omega
  have chars : (front.map String.ofList).map String.toList = front := by
    rw [List.map_map]
    exact (List.map_congr_left fun group _ => String.toList_ofList).trans (List.map_id' front)
  rw [spelled.stands, String.toList_append, String.toList_intercalate, chars]
  exact List.splitOn_intercalate ' ' (no_space spelled) something

theorem value_of_spelled (one : Spelled value width text front) (two : Spelled other wide text back) :
    value = other := by
  obtain rfl : front = back := (splitOn_spelled one).symm.trans (splitOn_spelled two)
  exact Hex.eq_of_value? one.reads two.reads

end Spelling

end Binary

namespace Argument

theorem binaryText_inj {value other : UInt64} {width : Width} (same : binaryText value width = binaryText other width) :
    value = other := by
  have spelled := Binary.spelled_binaryText value width
  rw [same] at spelled
  exact Binary.value_of_spelled spelled (Binary.spelled_binaryText other width)

end Argument

end DiagTrace
