import DiagTrace.Json.Token

/-!
JSON values. A text has one value with nothing but blanks around it. The tokens are fed one by one to a
machine that holds the containers still open, so nesting has no limit and no separator can be missing or
stand in excess.
-/
namespace DiagTrace

inductive Json where
  | null
  | bool (value : Bool)
  | number (value : Json.Number)
  | text (pieces : List Json.Piece)
  | array (items : List Json)
  /-- Members in the order of the text, names that occur twice included. -/
  | object (members : List (List Json.Piece × Json))
deriving Inhabited

namespace Json

/-- A container whose end has not been read, with its parts so far, newest first. -/
inductive OpenContainer where
  | array (items : List Json)
  | object (members : List (List Piece × Json)) (name : List Piece)

/-- What may stand next. -/
inductive Expected where
  | value
  | firstItem
  | firstName (members : List (List Piece × Json))
  | name (members : List (List Piece × Json))
  | colon (members : List (List Piece × Json)) (name : List Piece)
  /-- A comma or the end of the innermost container, behind a complete value. -/
  | separator (value : Json)

structure Machine where
  opened : List OpenContainer
  expected : Expected

namespace Machine

def start : Machine := ⟨[], .value⟩

def scalar? : Token → Option Json
  | .null => some .null
  | .bool value => some (.bool value)
  | .number value => some (.number value)
  | .text pieces => some (.text pieces)
  | _ => none

def startValue (opened : List OpenContainer) (token : Token) : Option Machine :=
  match token with
  | .openArray => some ⟨.array [] :: opened, .firstItem⟩
  | .openObject => some ⟨opened, .firstName []⟩
  | token => (scalar? token).map fun value => ⟨opened, .separator value⟩

def afterValue (opened : List OpenContainer) (value : Json) (token : Token) : Option Machine :=
  match opened, token with
  | .array items :: outer, .comma => some ⟨.array (value :: items) :: outer, .value⟩
  | .array items :: outer, .closeArray => some ⟨outer, .separator (.array (value :: items).reverse)⟩
  | .object members name :: outer, .comma => some ⟨outer, .name ((name, value) :: members)⟩
  | .object members name :: outer, .closeObject =>
    some ⟨outer, .separator (.object ((name, value) :: members).reverse)⟩
  | _, _ => none

def step (machine : Machine) (token : Token) : Option Machine :=
  match machine.expected, token with
  | .value, token => startValue machine.opened token
  | .firstItem, .closeArray => some ⟨machine.opened.drop 1, .separator (.array [])⟩
  | .firstItem, token => startValue machine.opened token
  | .firstName members, .closeObject => some ⟨machine.opened, .separator (.object members)⟩
  | .firstName members, .text name | .name members, .text name =>
    some ⟨machine.opened, .colon members name⟩
  | .colon members name, .colon => some ⟨.object members name :: machine.opened, .value⟩
  | .separator value, token => afterValue machine.opened value token
  | _, _ => none

def result? (machine : Machine) : Option Json :=
  match machine with
  | ⟨[], .separator value⟩ => some value
  | _ => none

end Machine

def parse? (text : String) : Option Json := do
  let tokens ← Token.scan text.toList
  let machine ← tokens.foldlM Machine.step Machine.start
  machine.result?

/-- The characters of a text; half a character without its other half has none. -/
def asText? : Json → Option String
  | text pieces => (Piece.chars pieces).map String.ofList
  | _ => none

/-- A whole number below a limit, written without sign, fraction and exponent. -/
def asNat? (limit : Nat) : Json → Option Nat
  | number value =>
    if !value.negative && value.isWhole && value.whole < limit then some value.whole else none
  | _ => none

def asBool? : Json → Option Bool
  | bool value => some value
  | _ => none

def asOptional? {α : Type} (read : Json → Option α) : Json → Option (Option α)
  | null => some none
  | value => (read value).map some

/-- One of several words, alone or as the only name of an object with the value `null`. -/
def asWord? : Json → Option String
  | text pieces => (Piece.chars pieces).map String.ofList
  | object [(name, null)] => (Piece.chars name).map String.ofList
  | _ => none

end Json

/-- The fields of a record: by name in an object, other names allowed, or by place in an array. -/
structure Json.Record where
  fields : List (String × Json)

namespace Json.Record

/-- The named values of an object. A name without a meaning or a known name that occurs twice makes the
record void; the places of an array stand for the first of the names. -/
def ofJson? (names : List String) : Json → Option Json.Record
  | .object members => do
    let fields ← members.mapM fun (name, value) => do
      return (String.ofList (← Piece.chars name), value)
    let known := fields.filter fun field => names.contains field.1
    if (known.map Prod.fst).eraseDups.length == known.length then some ⟨known⟩ else none
  | .array items => if items.length ≤ names.length then some ⟨names.zip items⟩ else none
  | _ => none

def get? (record : Json.Record) (name : String) : Option Json := record.fields.lookup name

def required? {α : Type} (record : Json.Record) (name : String) (read : Json → Option α) : Option α :=
  (record.get? name).bind read

def orDefault? {α : Type} (record : Json.Record) (name : String) (absent : α)
    (read : Json → Option α) : Option α :=
  match record.get? name with
  | some value => read value
  | none => some absent

end Json.Record

end DiagTrace
