import DiagTrace.Text.Hex

/-!
Digits as a reader takes them: numbers in any base up to sixteen, and bytes as pairs of digits with spaces between them.
What is written as digits reads back, at least as wide as asked for and with no zero in front that is not.
-/
namespace DiagTrace.Hex

def digit? (c : Char) : Option Nat :=
  if '0' ≤ c ∧ c ≤ '9' then some (c.toNat - 48)
  else if 'a' ≤ c ∧ c ≤ 'f' then some (c.toNat - 87)
  else none

def valueFrom? (base : Nat) : Nat → List Char → Option Nat
  | sum, [] => some sum
  | sum, c :: digits =>
    match digit? c with
    | some n => if n < base then valueFrom? base (sum * base + n) digits else none
    | none => none

def value? (base : Nat) (digits : List Char) : Option Nat := valueFrom? base 0 digits

theorem digit?_digit : ∀ n < 16, digit? (digit n) = some n := by decide

section Numbers

variable {base sum n : Nat}

theorem valueFrom?_digit (small : n < base) (known : base ≤ 16) (digits : List Char) :
    valueFrom? base sum (digit n :: digits) = valueFrom? base (sum * base + n) digits := by
  rw [valueFrom?, digit?_digit n (Nat.lt_of_lt_of_le small known)]
  exact if_pos small

theorem valueFrom?_append (front back : List Char) :
    valueFrom? base sum (front ++ back) = (valueFrom? base sum front).bind (valueFrom? base · back) := by
  induction front generalizing sum with
  | nil => rfl
  | cons c front ih =>
    rw [List.cons_append, valueFrom?, valueFrom?]
    cases digit? c with
    | none => rfl
    | some n =>
      by_cases small : n < base
      · simp only [if_pos small, ih]
      · simp only [if_neg small, Option.bind_none]

theorem digit?_of_valueFrom? {digits : List Char} {value : Nat} (read : valueFrom? base sum digits = some value) :
    ∀ c ∈ digits, digit? c ≠ none := by
  induction digits generalizing sum with
  | nil => exact fun _ absent => nomatch absent
  | cons c digits ih =>
    intro other present none
    rw [valueFrom?] at read
    rcases List.mem_cons.mp present with rfl | later
    · rw [none] at read
      nomatch read
    · cases first : digit? c with
      | none =>
        rw [first] at read
        nomatch read
      | some n =>
        rw [first] at read
        by_cases small : n < base
        · simp only [if_pos small] at read
          exact ih read other later none
        · simp only [if_neg small] at read
          nomatch read

theorem eq_of_value? {digits : List Char} {value other : UInt64} (one : value? base digits = some value.toNat)
    (two : value? base digits = some other.toNat) : value = other :=
  UInt64.toNat_inj.mp (Option.some.inj (one.symm.trans two))

theorem value?_toDigits (several : 1 < base) (known : base ≤ 16) (n : Nat) :
    value? base (Nat.toDigits base n) = some n := by
  induction n using Nat.strongRecOn with
  | ind n ih =>
    rw [Nat.toDigits_eq_if several]
    by_cases single : n < base
    · rw [if_pos single, value?]
      show valueFrom? base 0 [digit n] = some n
      rw [valueFrom?_digit single known, Nat.zero_mul, Nat.zero_add, valueFrom?]
    · have front := ih (n / base) (Nat.div_lt_self (by omega) several)
      have low : n % base < base := Nat.mod_lt n (by omega)
      rw [value?] at front
      rw [if_neg single, value?, valueFrom?_append, front]
      show valueFrom? base (n / base) [digit (n % base)] = some n
      rw [valueFrom?_digit low known, valueFrom?, Nat.div_add_mod']

theorem value?_padded (several : 1 < base) (known : base ≤ 16) (width n : Nat) :
    value? base (padded base width n) = some n := by
  have zeros : ∀ k digits, value? base (List.replicate k '0' ++ digits) = value? base digits := by
    intro k digits
    induction k with
    | zero => rfl
    | succ k ih =>
      show valueFrom? base 0 (digit 0 :: (List.replicate k '0' ++ digits)) = _
      rw [valueFrom?_digit (by omega) known, Nat.zero_mul]
      exact ih
  rw [padded, zeros, value?_toDigits several known]

theorem length_padded (base width n : Nat) :
    (padded base width n).length = max width (Nat.toDigits base n).length := by
  rw [padded, List.length_append, List.length_replicate]
  omega

theorem head_toDigits (several : 1 < base) (nonzero : n ≠ 0) : (Nat.toDigits base n).head? ≠ some '0' := by
  induction n using Nat.strongRecOn with
  | ind n ih =>
    rw [Nat.toDigits_eq_if several]
    by_cases single : n < base
    · rw [if_pos single, List.head?_cons]
      intro zero
      exact nonzero (Nat.digitChar_eq_zero.mp (Option.some.inj zero))
    · have smaller : n / base < n := Nat.div_lt_self (by omega) several
      have front : n / base ≠ 0 := Nat.ne_of_gt (Nat.div_pos (by omega) (by omega))
      rw [if_neg single]
      intro zero
      rw [List.head?_append] at zero
      rcases Option.or_eq_some_iff.mp zero with first | ⟨empty, -⟩
      · exact ih (n / base) smaller front first
      · exact Nat.toDigits_ne_nil (List.head?_eq_none_iff.mp empty)

theorem head_padded (several : 1 < base) {width : Nat} (positive : 0 < width)
    (wider : width < (padded base width n).length) : (padded base width n).head? ≠ some '0' := by
  rw [length_padded] at wider
  have filled : width - (Nat.toDigits base n).length = 0 := by omega
  have nonzero : n ≠ 0 := by
    rintro rfl
    rw [Nat.toDigits_zero, List.length_singleton] at wider
    omega
  rw [padded, filled]
  exact head_toDigits several nonzero

end Numbers

section Pairs

def byte? (digits : List Char) : Option UInt8 :=
  if digits.length = 2 then (value? 16 digits).map UInt8.ofNat else none

def bytes? (text : List Char) : Option Bytes := if text = [] then some [] else (text.splitOn ' ').mapM byte?

theorem value?_pair (b : UInt8) : value? 16 (pair b) = some b.toNat := by
  have small := b.toNat_lt
  rw [pair, value?, valueFrom?_digit (by omega) (by decide), valueFrom?_digit (by omega) (by decide), valueFrom?,
    Nat.zero_mul, Nat.zero_add, Nat.div_add_mod']

theorem byte?_pair (b : UInt8) : byte? (pair b) = some b := by
  have two : (pair b).length = 2 := rfl
  rw [byte?, if_pos two, value?_pair, Option.map_some, UInt8.ofNat_toNat]

theorem spaced_cons_cons (b next : UInt8) (data : Bytes) :
    spaced (b :: next :: data) = pair b ++ ' ' :: spaced (next :: data) := rfl

theorem spaced_eq (data : Bytes) : spaced data = [' '].intercalate (data.map pair) := by
  induction data with
  | nil => rfl
  | cons b data ih =>
    cases data with
    | nil => rfl
    | cons next data =>
      rw [spaced_cons_cons, ih, List.map_cons, List.map_cons, List.map_cons, List.intercalate_cons_cons,
        List.append_assoc]
      rfl

theorem digit?_of_spaced (data : Bytes) : ∀ c ∈ spaced data, c = ' ' ∨ digit? c ≠ none := by
  induction data with
  | nil => exact fun _ absent => nomatch absent
  | cons b data ih =>
    have digits := digit?_of_valueFrom? (value?_pair b)
    cases data with
    | nil => exact fun c present => .inr (digits c present)
    | cons next data =>
      intro c present
      rw [spaced_cons_cons] at present
      rcases List.mem_append.mp present with first | later
      · exact .inr (digits c first)
      · rcases List.mem_cons.mp later with space | later
        · exact .inl space
        · exact ih c later

theorem bytes?_spaced (data : Bytes) : bytes? (spaced data) = some data := by
  cases data with
  | nil => rfl
  | cons b data =>
    have apart : ∀ digits ∈ (b :: data).map pair, ' ' ∉ digits := by
      intro digits present space
      obtain ⟨other, -, rfl⟩ := List.mem_map.mp present
      exact digit?_of_valueFrom? (value?_pair other) ' ' space rfl
    have each : ∀ bytes : Bytes, (bytes.map pair).mapM byte? = some bytes := by
      intro bytes
      induction bytes with
      | nil => rfl
      | cons first bytes ih =>
        rw [List.map_cons, List.mapM_cons, byte?_pair, ih]
        rfl
    have something : spaced (b :: data) ≠ [] := by cases data <;> nofun
    rw [bytes?, if_neg something, spaced_eq, List.splitOn_intercalate ' ' apart (List.cons_ne_nil _ _), each]

end Pairs

end DiagTrace.Hex
