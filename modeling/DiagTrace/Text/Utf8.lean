import DiagTrace.Bytes.Order

/-!
Characters as one to four bytes. Reading never fails: the longest start of a character that cannot be
completed becomes one replacement character, and so does a byte that starts none.
-/
namespace DiagTrace.Utf8

def encodeChar (c : Char) : Bytes :=
  let n := c.toNat
  if n < 0x80 then [UInt8.ofNat n]
  else if n < 0x800 then [UInt8.ofNat (0xC0 + n / 64), UInt8.ofNat (0x80 + n % 64)]
  else if n < 0x10000 then
    [UInt8.ofNat (0xE0 + n / 4096), UInt8.ofNat (0x80 + n / 64 % 64), UInt8.ofNat (0x80 + n % 64)]
  else
    [UInt8.ofNat (0xF0 + n / 262144), UInt8.ofNat (0x80 + n / 4096 % 64),
      UInt8.ofNat (0x80 + n / 64 % 64), UInt8.ofNat (0x80 + n % 64)]

def encode (text : String) : Bytes := text.toList.flatMap encodeChar

def replacement : Char := '\uFFFD'

def isTail (b : UInt8) : Bool := 0x80 ≤ b && b ≤ 0xBF

/-- The bytes that may follow the first byte of a three-byte character. -/
def secondOfThree (first second : UInt8) : Bool :=
  if first == 0xE0 then 0xA0 ≤ second && second ≤ 0xBF
  else if first == 0xED then 0x80 ≤ second && second ≤ 0x9F
  else isTail second

def secondOfFour (first second : UInt8) : Bool :=
  if first == 0xF0 then 0x90 ≤ second && second ≤ 0xBF
  else if first == 0xF4 then 0x80 ≤ second && second ≤ 0x8F
  else isTail second

def join (lead : Nat) (tails : List UInt8) : Char :=
  Char.ofNat (tails.foldl (fun n b => n * 64 + b.toNat % 64) lead)

/-- One character and the number of bytes it takes after the first one; `none` for a broken one. -/
def next (first : UInt8) (rest : Bytes) : Option Char × Nat :=
  if first < 0x80 then (some (Char.ofNat first.toNat), 0)
  else if 0xC2 ≤ first && first ≤ 0xDF then
    match rest with
    | b :: _ => if isTail b then (some (join (first.toNat % 32) [b]), 1) else (none, 0)
    | [] => (none, 0)
  else if 0xE0 ≤ first && first ≤ 0xEF then
    match rest with
    | b :: c :: _ =>
      if !secondOfThree first b then (none, 0)
      else if isTail c then (some (join (first.toNat % 16) [b, c]), 2) else (none, 1)
    | [b] => (none, if secondOfThree first b then 1 else 0)
    | [] => (none, 0)
  else if 0xF0 ≤ first && first ≤ 0xF4 then
    match rest with
    | b :: c :: d :: _ =>
      if !secondOfFour first b then (none, 0)
      else if !isTail c then (none, 1)
      else if isTail d then (some (join (first.toNat % 8) [b, c, d]), 3) else (none, 2)
    | [b, c] => (none, if !secondOfFour first b then 0 else if isTail c then 2 else 1)
    | [b] => (none, if secondOfFour first b then 1 else 0)
    | [] => (none, 0)
  else (none, 0)

/-- The characters of a byte string, with a replacement for each broken one. -/
def chars : Bytes → List Char
  | [] => []
  | b :: rest => (next b rest).1.getD replacement :: chars (rest.drop (next b rest).2)
termination_by bs => bs.length
decreasing_by simp only [List.length_drop, List.length_cons]; omega

def decode (bs : Bytes) : String := String.ofList (chars bs)

/-- The text of a byte string in which no character is broken. -/
def strictChars : Bytes → Option (List Char)
  | [] => some []
  | b :: rest =>
    match (next b rest).1 with
    | some c => (strictChars (rest.drop (next b rest).2)).map (c :: ·)
    | none => none
termination_by bs => bs.length
decreasing_by simp only [List.length_drop, List.length_cons]; omega

def decode? (bs : Bytes) : Option String := (strictChars bs).map String.ofList

end DiagTrace.Utf8
