import DiagTrace.Toml.Value

/-!
Reading TOML documents. Whatever breaks a rule of the language refuses the whole document. Names in one
key, and arrays and tables inside each other, are fewer than 80.
-/
namespace DiagTrace.Toml

/-- A step that takes characters from the front of a text or fails. -/
abbrev Parse := StateT (List Char) Option

namespace Parse

def fail {α : Type} : Parse α := fun _ => none

def one (accepts : Char → Bool) : Parse Char := fun
  | c :: rest => if accepts c then some (c, rest) else none
  | [] => none

def char (expected : Char) : Parse Unit := do
  let _ ← one (· == expected)

def word : List Char → Parse Unit
  | [] => pure ()
  | c :: rest => do
    char c
    word rest

def span (accepts : Char → Bool) : Parse (List Char) := fun cs =>
  some (cs.takeWhile accepts, cs.dropWhile accepts)

def span1 (accepts : Char → Bool) : Parse (List Char) := do
  let first ← one accepts
  return first :: (← span accepts)

def orElse {α : Type} (first second : Parse α) : Parse α := fun cs => (first cs).orElse fun _ => second cs

def maybe {α : Type} (step : Parse α) : Parse (Option α) := orElse (some <$> step) (pure none)

def exactly (n : Nat) (accepts : Char → Bool) : Parse (List Char) := fun cs =>
  let front := cs.take n
  if front.length == n && front.all accepts then some (front, cs.drop n) else none

/-- A step as often as it succeeds, but once at most for each character of a text, behind results newest
first. -/
def oncePer {α : Type} (step : Parse α) : List Char → List α → Parse (List α)
  | [], done => pure done.reverse
  | _ :: more, done => fun cs =>
    match step cs with
    | some (value, rest) => oncePer step more (value :: done) rest
    | none => some (done.reverse, cs)

/-- A step that takes at least one character, as often as it succeeds. -/
def many {α : Type} (step : Parse α) : Parse (List α) := fun cs => oncePer step cs [] cs

def separated {α : Type} (step : Parse α) (separator : Parse Unit) : Parse (List α) :=
  orElse (do
    let first ← step
    return first :: (← many (do separator; step)))
    (pure [])

def check (condition : Bool) : Parse Unit := if condition then pure () else fail

end Parse

open Parse

def isBlank (c : Char) : Bool := c == ' ' || c == '\t'

/-- Characters that a comment or a text may hold as they are: no control characters but the tab. -/
def isPlain (c : Char) : Bool := c == '\t' || (0x20 ≤ c.toNat && c.toNat ≠ 0x7F)

def blanks : Parse Unit := do
  let _ ← span isBlank

def newline : Parse Unit := orElse (char '\n') (word ['\r', '\n'])

def comment : Parse Unit := do
  char '#'
  let _ ← span isPlain

def filler : Parse Unit := do
  let _ ← many (orElse (orElse (do let _ ← span1 isBlank) newline) comment)

def namedChar (digits : Nat) : Parse Char := do
  let names ← exactly digits fun c => c.isDigit || ('a' ≤ c && c ≤ 'f') || ('A' ≤ c && c ≤ 'F')
  let code := names.foldl (fun n c =>
    n * 16 + (if c.isDigit then c.toNat - 48 else if 'a' ≤ c then c.toNat - 87 else c.toNat - 55)) 0
  check code.isValidChar
  return Char.ofNat code

def escape : Parse Char := do
  char '\\'
  match ← one fun _ => true with
  | 'b' => return '\x08'
  | 't' => return '\t'
  | 'n' => return '\n'
  | 'f' => return '\x0c'
  | 'r' => return '\r'
  | '\x22' => return '\x22'
  | '\\' => return '\\'
  | 'u' => namedChar 4
  | 'U' => namedChar 8
  | _ => fail

def basicText : Parse (List Char) := do
  char '\x22'
  let content ← many (orElse (one fun c => isPlain c && c != '\x22' && c != '\\') escape)
  char '\x22'
  return content

def literalText : Parse (List Char) := do
  char '\x27'
  let content ← span fun c => isPlain c && c != '\x27'
  char '\x27'
  return content

/-- A backslash at the end of a line takes away all blanks and ends of lines behind it. -/
def foldedLine : Parse (List Char) := do
  char '\\'
  blanks
  newline
  let _ ← many (orElse (do let _ ← span1 isBlank) newline)
  return []

def lineEnd : Parse (List Char) := do
  newline
  return ['\n']

/-- One or two quotes inside a text of several lines; a third would end it. -/
def innerQuotes (quote : Char) : Parse (List Char) := fun cs =>
  let quotes := cs.takeWhile (· == quote)
  if quotes.length = 1 || quotes.length = 2 then some (quotes, cs.drop quotes.length) else none

/-- The end of a text of several lines; up to two quotes in front of it belong to the text. -/
def closingQuotes (quote : Char) : Parse (List Char) := fun cs =>
  let quotes := (cs.takeWhile (· == quote)).length
  if quotes < 3 then none
  else
    let inner := min (quotes - 3) 2
    some (List.replicate inner quote, cs.drop (inner + 3))

/-- A text of several lines; an end of line right behind its start does not count. -/
def longText (quote : Char) (piece : Parse (List Char)) : Parse (List Char) := do
  word [quote, quote, quote]
  let _ ← maybe newline
  let pieces ← many (orElse (orElse piece lineEnd) (innerQuotes quote))
  return pieces.flatten ++ (← closingQuotes quote)

def longBasicText : Parse (List Char) :=
  longText '\x22' (orElse (orElse (span1 fun c => isPlain c && c != '\x22' && c != '\\') foldedLine)
    ((fun c => [c]) <$> escape))

def longLiteralText : Parse (List Char) := longText '\x27' (span1 fun c => isPlain c && c != '\x27')

def anyText : Parse (List Char) :=
  orElse (orElse longBasicText longLiteralText) (orElse basicText literalText)

def isBare (c : Char) : Bool := c.isAlphanum || c == '_' || c == '-'

def simpleKey : Parse String := do
  return String.ofList (← orElse (orElse basicText literalText) (span1 isBare))

/-- Keys have fewer names than this, and arrays and tables are nested less deeply. -/
def depthLimit : Nat := 80

/-- A key with dots, as the path to its last part and that part. -/
def key : Parse (List String × String) := do
  let parts ← separated simpleKey (do blanks; char '.'; blanks)
  check (parts.length < depthLimit)
  match parts.getLast? with
  | some last => return (parts.dropLast, last)
  | none => fail

namespace Number

/-- Digits of a base, with single underscores between them. -/
def digitsBelow (isDigit : Char → Bool) : List Char → Bool
  | [] => false
  | [c] => isDigit c
  | c :: '_' :: rest => isDigit c && digitsBelow isDigit rest
  | c :: rest => isDigit c && digitsBelow isDigit rest

def value (base : Nat) (digits : List Char) : Nat :=
  (digits.filter (· != '_')).foldl (fun n c =>
    n * base + (if c.isDigit then c.toNat - 48 else c.toLower.toNat - 87)) 0

def withoutSign : List Char → List Char
  | '+' :: rest | '-' :: rest => rest
  | cs => cs

def isDecimal (cs : List Char) : Bool :=
  digitsBelow Char.isDigit cs && (cs.length == 1 || cs.head? != some '0')

def isHexDigit (c : Char) : Bool := c.isDigit || ('a' ≤ c.toLower && c.toLower ≤ 'f')

/-- The distance from zero to the least integer of 64 bits. -/
def signedLimit : Nat := 0x8000000000000000

/-- An integer of 64 bits; other bases than ten have no sign. -/
def isInteger (cs : List Char) : Bool :=
  match cs with
  | '0' :: 'x' :: rest => digitsBelow isHexDigit rest && value 16 rest < signedLimit
  | '0' :: 'o' :: rest =>
    digitsBelow (fun c => '0' ≤ c && c ≤ '7') rest && value 8 rest < signedLimit
  | '0' :: 'b' :: rest => digitsBelow (fun c => c == '0' || c == '1') rest && value 2 rest < signedLimit
  | cs =>
    let digits := withoutSign cs
    let limit := if cs.head? == some '-' then signedLimit else signedLimit - 1
    isDecimal digits && value 10 digits ≤ limit

/-- What stands behind the digits of a number: nothing, or a letter, a sign or none, and digits. -/
def exponent? : List Char → Option Int
  | [] => some 0
  | letter :: rest =>
    let digits := withoutSign rest
    if (letter == 'e' || letter == 'E') && digitsBelow Char.isDigit digits then
      some (if rest.head? == some '-' then -(value 10 digits : Int) else value 10 digits)
    else none

/-- A number with a fraction, an exponent or both, as its digits and the power of ten that they count. -/
def scientific? (unsigned : List Char) : Option (Nat × Int) := do
  let isPart (c : Char) : Bool := c.isDigit || c == '_'
  let whole := unsigned.takeWhile isPart
  guard (isDecimal whole)
  match unsigned.drop whole.length with
  | [] => none
  | '.' :: rest =>
    let fraction := rest.takeWhile isPart
    guard (digitsBelow Char.isDigit fraction)
    let exponent ← exponent? (rest.drop fraction.length)
    return (value 10 (whole ++ fraction), exponent - (fraction.filter (· != '_')).length)
  | rest => return (value 10 whole, ← exponent? rest)

/-- The least number that rounds to infinity in 64 bits: from halfway between the greatest finite one and
the next power of two. -/
def infinityLimit : Nat := Nat.pow 2 1024 - Nat.pow 2 970

/-- Whether `digits` times a power of ten stays below infinity. Only numbers of 309 digits need a closer
look. -/
def isFinite (digits : Nat) (exponent : Int) : Bool :=
  let length : Int := (Nat.toDigits 10 digits).length + exponent
  if digits == 0 || length < 309 then true
  else if 309 < length then false
  else digits * Nat.pow 10 exponent.toNat < infinityLimit * Nat.pow 10 (-exponent).toNat

/-- A number with a fraction, an exponent or both, or one of the numbers with a name. One that is too large
is refused, unless it is negative. -/
def isFloat (cs : List Char) : Bool :=
  let unsigned := withoutSign cs
  unsigned == ['i', 'n', 'f'] || unsigned == ['n', 'a', 'n'] ||
    match scientific? unsigned with
    | some (digits, exponent) => cs.head? == some '-' || isFinite digits exponent
    | none => false

end Number

namespace Time

def pair (least most : Nat) (a b : Char) : Bool :=
  a.isDigit && b.isDigit && least ≤ Number.value 10 [a, b] && Number.value 10 [a, b] ≤ most

def daysOfMonth (year month : Nat) : Nat :=
  if month == 2 then
    if year % 4 == 0 && (year % 100 != 0 || year % 400 == 0) then 29 else 28
  else if [4, 6, 9, 11].contains month then 30 else 31

def isDate : List Char → Bool
  | [a, b, c, d, '-', e, f, '-', g, h] =>
    [a, b, c, d].all Char.isDigit && pair 1 12 e f
      && pair 1 (daysOfMonth (Number.value 10 [a, b, c, d]) (Number.value 10 [e, f])) g h
  | _ => false

def isOffset : List Char → Bool
  | [] => true
  | [z] => z == 'Z' || z == 'z'
  | [sign, a, b, ':', c, d] => (sign == '+' || sign == '-') && pair 0 23 a b && pair 0 59 c d
  | _ => false

/-- A time of day; only behind a date an offset may follow it. -/
def isTime (withOffset : Bool) : List Char → Bool
  | a :: b :: ':' :: c :: d :: ':' :: e :: f :: rest =>
    let tail := match rest with
      | '.' :: digits => if (digits.takeWhile Char.isDigit).isEmpty then none
        else some (digits.dropWhile Char.isDigit)
      | rest => some rest
    pair 0 23 a b && pair 0 59 c d && pair 0 60 e f &&
      match tail with
      | some tail => if withOffset then isOffset tail else tail.isEmpty
      | none => false
  | _ => false

/-- A date, a time of day, or both with a letter or a blank between them. -/
def isMoment (cs : List Char) : Bool :=
  isDate cs || isTime false cs ||
    (isDate (cs.take 10) && ["T", "t", " "].contains (String.ofList ((cs.drop 10).take 1))
      && isTime true (cs.drop 11))

end Time

def isScalarChar (c : Char) : Bool := c.isAlphanum || c == '_' || c == '+' || c == '-' || c == '.' || c == ':'

/-- The characters of a number or a time; a blank belongs to it between a date and a time. -/
def scalarChars : Parse (List Char) := fun cs =>
  let front := cs.takeWhile isScalarChar
  match cs.drop front.length with
  | ' ' :: digit :: rest =>
    if Time.isDate front && digit.isDigit then
      let time := (digit :: rest).takeWhile isScalarChar
      some (front ++ ' ' :: time, (digit :: rest).drop time.length)
    else some (front, ' ' :: digit :: rest)
  | rest => some (front, rest)

def plainValue : Parse Toml := do
  let cs ← scalarChars
  if cs == "true".toList then return .bool true
  else if cs == "false".toList then return .bool false
  else
    check (Number.isInteger cs || Number.isFloat cs || Time.isMoment cs)
    return if Time.isMoment cs then .moment else .number

/-- The parts of an array; the last of them may be followed by a comma. -/
def arrayOf (item : Parse Toml) : Parse Toml := do
  char '['
  filler
  let items ← separated (do let value ← item; filler; return value) (do char ','; filler)
  let _ ← maybe (do check !items.isEmpty; char ','; filler)
  char ']'
  return .array items

def inlineTableOf (item : Parse Toml) : Parse Toml := do
  char '\x7b'
  blanks
  let pairs ← separated
    (do
      let (path, last) ← key
      blanks
      char '='
      blanks
      let value ← item
      blanks
      return (path, last, value))
    (do char ','; blanks)
  char '\x7d'
  match pairs.foldlM (fun entries (path, last, value) => assign path last value .inline entries) [] with
  | some entries => return .table .inline entries
  | none => fail

def leaf : Parse Toml := fun cs =>
  match cs with
  | '\x22' :: _ | '\x27' :: _ => (do return .text (String.ofList (← anyText)) : Parse Toml) cs
  | _ => plainValue cs

/-- A value in which arrays and tables are nested less than `depth` deep. -/
def valueWithin : Nat → Parse Toml
  | 0 | 1 => leaf
  | depth + 1 => fun cs =>
    match cs with
    | '[' :: _ => arrayOf (valueWithin depth) cs
    | '\x7b' :: _ => inlineTableOf (valueWithin depth) cs
    | _ => leaf cs

/-- A document as far as it has been read, and the path of the table that is open. -/
structure Document where
  entries : Entries
  opened : List String

def entryLine (document : Document) : Parse Document := do
  let (path, last) ← key
  blanks
  char '='
  blanks
  let value ← valueWithin depthLimit
  match within false (assign path last value) document.opened .header document.entries with
  | some entries => return { document with entries }
  | none => fail

def repeatedHeader (document : Document) : Parse Document := do
  word ['[', '[']
  blanks
  let (path, last) ← key
  blanks
  word [']', ']']
  match openRepeated path last document.entries with
  | some entries => return ⟨entries, path ++ [last]⟩
  | none => fail

def header (document : Document) : Parse Document := do
  char '['
  blanks
  let (path, last) ← key
  blanks
  char ']'
  match openTable path last document.entries with
  | some entries => return ⟨entries, path ++ [last]⟩
  | none => fail

def line (document : Document) : Parse Document := do
  blanks
  let next ← fun cs =>
    match cs with
    | '[' :: '[' :: _ => repeatedHeader document cs
    | '[' :: _ => header document cs
    | '#' :: _ | '\n' :: _ | '\r' :: _ | [] => some (document, cs)
    | _ => entryLine document cs
  blanks
  let _ ← maybe comment
  return next

def linesUpTo : Nat → Document → List Char → Option Document
  | 0, _, _ => none
  | n + 1, document, cs =>
    match line document cs with
    | some (document, []) => some document
    | some (document, rest) =>
      match newline rest with
      | some (_, rest) => linesUpTo n document rest
      | none => none
    | none => none

/-- The entries of a document; a mark of the byte order in front of it is passed over. -/
def ofText? (text : String) : Option Entries :=
  let cs := match text.toList with
    | '\uFEFF' :: rest => rest
    | cs => cs
  (linesUpTo (cs.length + 1) ⟨[], []⟩ cs).map Document.entries

end DiagTrace.Toml
