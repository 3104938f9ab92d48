/-!
Tokens of a JSON text. A text in quotes is read as the pieces between its escapes; escapes that name half
of a character count only as a pair, so a text may turn out to have no meaning although it is well formed.
-/
namespace DiagTrace.Json

/-- A part of a quoted text: a character, or a unit of 16 bits given by its number. -/
inductive Piece where
  | char (c : Char)
  | unit (n : Nat)
deriving DecidableEq

namespace Piece

def isHighHalf (n : Nat) : Bool := 0xD800 ≤ n && n ≤ 0xDBFF

def isLowHalf (n : Nat) : Bool := 0xDC00 ≤ n && n ≤ 0xDFFF

/-- The characters of a text; half a character without its other half has none. -/
def chars : List Piece → Option (List Char)
  | [] => some []
  | char c :: rest => (chars rest).map (c :: ·)
  | unit high :: unit low :: rest =>
    if isHighHalf high then
      if isLowHalf low then
        let code := 0x10000 + (high - 0xD800) * 0x400 + (low - 0xDC00)
        (chars rest).map (Char.ofNat code :: ·)
      else none
    else if isLowHalf high then none
    else (chars (unit low :: rest)).map (Char.ofNat high :: ·)
  | unit n :: rest =>
    if isHighHalf n || isLowHalf n then none else (chars rest).map (Char.ofNat n :: ·)

end Piece

/-- A number as written, apart from its value where it has a fraction or an exponent. -/
structure Number where
  negative : Bool
  whole : Nat
  isWhole : Bool
deriving DecidableEq

inductive Token where
  | openArray | closeArray | openObject | closeObject | colon | comma
  | null
  | bool (value : Bool)
  | number (value : Number)
  | text (pieces : List Piece)
deriving DecidableEq

namespace Token

def isBlank (c : Char) : Bool := c == ' ' || c == '\n' || c == '\r' || c == '\t'

def hexDigit? (c : Char) : Option Nat :=
  if c.isDigit then some (c.toNat - 48)
  else if 'a' ≤ c && c ≤ 'f' then some (c.toNat - 87)
  else if 'A' ≤ c && c ≤ 'F' then some (c.toNat - 55)
  else none

def unit? (a b c d : Char) : Option Nat := do
  return (((← hexDigit? a) * 16 + (← hexDigit? b)) * 16 + (← hexDigit? c)) * 16 + (← hexDigit? d)

def escape? : Char → Option Char
  | '\x22' => some '\x22'
  | '\\' => some '\\'
  | '/' => some '/'
  | 'b' => some '\x08'
  | 'f' => some '\x0c'
  | 'n' => some '\n'
  | 'r' => some '\r'
  | 't' => some '\t'
  | _ => none

/-- Reads a text up to its closing quote, behind pieces already read, newest first. -/
def textRest : List Char → List Piece → Option (List Piece × List Char)
  | '\x22' :: rest, done => some (done.reverse, rest)
  | '\\' :: 'u' :: a :: b :: c :: d :: rest, done =>
    match unit? a b c d with
    | some n => textRest rest (.unit n :: done)
    | none => none
  | '\\' :: c :: rest, done =>
    match escape? c with
    | some c => textRest rest (.char c :: done)
    | none => none
  | c :: rest, done => if c.toNat < 0x20 || c == '\\' then none else textRest rest (.char c :: done)
  | [], _ => none

theorem length_lt_of_textRest {cs : List Char} {done pieces : List Piece} {rest : List Char}
    (h : textRest cs done = some (pieces, rest)) : rest.length < cs.length := by
  fun_induction textRest cs done with
  | case1 rest done =>
    cases h
    simp
  | case2 done a b c d rest n value ih =>
    have := ih h
    simp only [List.length_cons]
    omega
  | case3 => cases h
  | case4 _ _ _ _ _ _ ih =>
    have := ih h
    simp only [List.length_cons]
    omega
  | case5 => cases h
  | case6 => cases h
  | case7 done c rest _ _ _ _ ih =>
    have := ih h
    simp only [List.length_cons]
    omega
  | case8 => cases h

def digitsValue (digits : List Char) : Nat := digits.foldl (fun n c => n * 10 + (c.toNat - 48)) 0

/-- What follows the digits of a fraction or an exponent; at least one has to stand there. -/
def afterDigits? (cs : List Char) : Option (List Char) :=
  match cs with
  | c :: _ => if c.isDigit then some (cs.dropWhile Char.isDigit) else none
  | [] => none

def afterFraction? : List Char → Option (List Char)
  | '.' :: rest => afterDigits? rest
  | cs => some cs

def afterExponent? : List Char → Option (List Char)
  | e :: rest =>
    if e == 'e' || e == 'E' then
      match rest with
      | '+' :: rest | '-' :: rest => afterDigits? rest
      | rest => afterDigits? rest
    else some (e :: rest)
  | [] => some []

/-- The digits at the front; behind a zero at the front no digit belongs to the number. -/
def wholeDigits (cs : List Char) : List Char :=
  if cs.head? == some '0' then cs.take 1 else cs.takeWhile Char.isDigit

def hasMore : List Char → Bool
  | c :: _ => c == '.' || c == 'e' || c == 'E'
  | [] => false

def number? (negative : Bool) (cs : List Char) : Option (Token × List Char) :=
  let digits := wholeDigits cs
  let rest := cs.drop digits.length
  if digits.isEmpty then none
  else
    match (afterFraction? rest).bind afterExponent? with
    | some last => some (.number ⟨negative, digitsValue digits, !hasMore rest⟩, last)
    | none => none

theorem length_le_of_afterDigits {cs rest : List Char} (h : afterDigits? cs = some rest) :
    rest.length ≤ cs.length := by
  unfold afterDigits? at h
  split at h
  · split at h
    · cases h
      exact (List.dropWhile_sublist _).length_le
    · cases h
  · cases h

theorem length_le_of_afterFraction {cs rest : List Char} (h : afterFraction? cs = some rest) :
    rest.length ≤ cs.length := by
  unfold afterFraction? at h
  split at h
  · have := length_le_of_afterDigits h
    simp only [List.length_cons]
    omega
  · cases h
    exact Nat.le_refl _

theorem length_le_of_afterExponent {cs rest : List Char} (h : afterExponent? cs = some rest) :
    rest.length ≤ cs.length := by
  unfold afterExponent? at h
  split at h
  · split at h
    · split at h <;>
      · have := length_le_of_afterDigits h
        simp only [List.length_cons] at *
        omega
    · cases h
      exact Nat.le_refl _
  · cases h
    exact Nat.le_refl _

theorem length_lt_of_number {negative : Bool} {cs rest : List Char} {token : Token}
    (h : number? negative cs = some (token, rest)) : rest.length < cs.length := by
  simp only [number?] at h
  split at h
  · cases h
  · rename_i nonempty
    split at h
    · rename_i last found
      obtain ⟨middle, fraction, exponent⟩ := Option.bind_eq_some_iff.1 found
      have behindFraction := length_le_of_afterFraction fraction
      have behindExponent := length_le_of_afterExponent exponent
      have positive : 0 < (wholeDigits cs).length := by
        rw [List.length_pos_iff]
        simpa using nonempty
      have present : 0 < cs.length := by
        cases cs with
        | nil => simp [wholeDigits] at positive
        | cons c cs => simp
      cases h
      simp only [List.length_drop] at behindFraction
      omega
    · cases h

/-- The token at the front and what follows it; nothing where no token starts. -/
def next? (c : Char) (rest : List Char) : Option (Token × List Char) :=
  match c, rest with
  | '[', rest => some (.openArray, rest)
  | ']', rest => some (.closeArray, rest)
  | '\x7b', rest => some (.openObject, rest)
  | '\x7d', rest => some (.closeObject, rest)
  | ':', rest => some (.colon, rest)
  | ',', rest => some (.comma, rest)
  | 'n', 'u' :: 'l' :: 'l' :: rest => some (.null, rest)
  | 't', 'r' :: 'u' :: 'e' :: rest => some (.bool true, rest)
  | 'f', 'a' :: 'l' :: 's' :: 'e' :: rest => some (.bool false, rest)
  | '\x22', rest => (textRest rest []).map fun (pieces, rest) => (.text pieces, rest)
  | '-', rest => number? true rest
  | c, rest => number? false (c :: rest)

theorem length_le_of_next {c : Char} {cs rest : List Char} {token : Token}
    (h : next? c cs = some (token, rest)) : rest.length ≤ cs.length := by
  unfold next? at h
  split at h
  case h_10 =>
    obtain ⟨⟨pieces, last⟩, found, same⟩ := Option.map_eq_some_iff.1 h
    cases same
    exact Nat.le_of_lt (length_lt_of_textRest found)
  case h_11 => exact Nat.le_of_lt (length_lt_of_number h)
  case h_12 =>
    have := length_lt_of_number h
    simp only [List.length_cons] at this
    omega
  all_goals
    cases h
    grind

def scan : List Char → Option (List Token)
  | [] => some []
  | c :: cs =>
    if isBlank c then scan cs
    else
      match found : next? c cs with
      | some (token, rest) =>
        have := length_le_of_next found
        (scan rest).map (token :: ·)
      | none => none
termination_by cs => cs.length
decreasing_by all_goals simp only [List.length_cons]; omega

end Token

end DiagTrace.Json
