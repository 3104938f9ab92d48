import DiagTrace.Bytes.Cursor
import DiagTrace.Text.Latin1
import DiagTrace.Text.Utf8
import DiagTrace.Verbose.Decode

/-!
Writing verbose arguments in the layouts that reading expects. Texts get a closing zero, integers are
cut to their width, and an argument without a verbose form is refused.
-/
namespace DiagTrace.Verbose

def length16 (order : ByteOrder) (what : String) (length : Nat) : Except Fault Bytes :=
  if length < 65536 then .ok (order.encode 2 length) else .error (.fieldTooLong what length)

def terminated (text : String) : Bytes := Utf8.encode text ++ [0]

def codedBytes (value : String) : TextCoding → Bytes
  | .utf8 => Utf8.encode value
  | .eightBit => Latin1.encode value

def nameField (order : ByteOrder) : Option (String × Option String) → Except Fault Bytes
  | none => .ok []
  | some (name, _) => do
    let data := terminated name
    return (← length16 order "name" data.length) ++ data

def nameAndUnitField (order : ByteOrder) : Option (String × Option String) → Except Fault Bytes
  | none => .ok []
  | some (name, unit) => do
    let nameData := terminated name
    let unitData := match unit with
      | some unit => terminated unit
      | none => []
    let nameLength ← length16 order "name" nameData.length
    let unitLength ← length16 order "unit" unitData.length
    return nameLength ++ unitLength ++ nameData ++ unitData

def scalingField (order : ByteOrder) (width : Width) : Option Scaling → Bytes
  | none => []
  | some scaling =>
    let offset := offsetWidth width
    order.encode 4 scaling.quantization.toNat
      ++ order.encode offset.bytes (TwosComplement.encode offset.bytes scaling.offset)

def signedField (order : ByteOrder) (width : Width) (value : Int) : Bytes :=
  order.encode width.bytes (TwosComplement.encode width.bytes value)

def boolField (value : Bool) : Bytes := [if value then 1 else 0]

/-- An item that has the kind of the elements of its array. -/
def scalarField (order : ByteOrder) : ScalarKind → Argument → Except Fault Bytes
  | .bool, .bool value => .ok (boolField value)
  | .signed width, .signed value _ _ => .ok (signedField order width value)
  | .unsigned width, .unsigned value _ _ => .ok (order.encode width.bytes value)
  | .float32, .float32 bits => .ok (order.encode 4 bits.toNat)
  | .float64, .float64 bits => .ok (order.encode 8 bits.toNat)
  | _, _ => .error .argumentNotEncodable

/-- The items of an array behind those already written, last part first. -/
def itemsOnto (order : ByteOrder) (element : ScalarKind) :
    List Argument → List Bytes → Except Fault (List Bytes)
  | [], done => .ok done
  | item :: items, done =>
    match scalarField order element item with
    | .ok data => itemsOnto order element items (data :: done)
    | .error fault => .error fault

def itemFields (order : ByteOrder) (element : ScalarKind) (items : List Argument) :
    Except Fault Bytes := do
  return (← itemsOnto order element items []).reverse.flatten

def wordField (order : ByteOrder) (word : UInt32) : Bytes := order.encode 4 word.toNat

def numberArgument (order : ByteOrder) (name : Option (String × Option String)) (word : UInt32)
    (scaling value : Bytes) : Except Fault Bytes := do
  let heading := wordField order (word ||| TypeInfo.flag TypeInfo.named name.isSome)
  return heading ++ (← nameAndUnitField order name) ++ scaling ++ value

def dataArgument (order : ByteOrder) (name : Option (String × Option String)) (word : UInt32)
    (what : String) (data : Bytes) : Except Fault Bytes := do
  let heading := wordField order (word ||| TypeInfo.flag TypeInfo.named name.isSome)
  let length ← length16 order what data.length
  return heading ++ length ++ (← nameField order name) ++ data

/-- An integer shown in another base travels as an unsigned one. -/
def codedInteger (order : ByteOrder) (name : Option (String × Option String)) (coding : Nat)
    (value : UInt64) (width : Width) : Except Fault Bytes :=
  if width == .w128 then .error .argumentNotEncodable
  else
    numberArgument order name
      (TypeInfo.unsigned ||| TypeInfo.codeOfWidth width ||| TypeInfo.codingBits coding) []
      (order.encode width.bytes value.toNat)

def arrayArgument (order : ByteOrder) (name : Option (String × Option String)) (element : ScalarKind)
    (dimensions : List UInt16) (items : List Argument) (scaling : Option Scaling) :
    Except Fault Bytes := do
  if itemCount dimensions != items.length then
    throw (.dimensionMismatch (dimensions.map UInt16.toNat) items.length)
  let scalingData ← match scaling, element.integerWidth? with
    | some _, none => throw .argumentNotEncodable
    | scaling, some width => pure (scalingField order width scaling)
    | none, none => pure []
  let word := TypeInfo.array ||| TypeInfo.ofScalar element
    ||| TypeInfo.flag TypeInfo.named name.isSome ||| TypeInfo.flag TypeInfo.scaled scaling.isSome
  let count ← length16 order "array dimensions" dimensions.length
  let sizes := dimensions.flatMap fun dimension => order.encode 2 dimension.toNat
  let names ← nameAndUnitField order name
  let data ← itemFields order element items
  return wordField order word ++ count ++ sizes ++ names ++ scalingData ++ data

mutual
/-- A value with the name that belongs to it; a name inside a name has no place. -/
def valueField (order : ByteOrder) (name : Option (String × Option String)) :
    Argument → Except Fault Bytes
  | .bool value => do
    let word := TypeInfo.ofScalar .bool ||| TypeInfo.flag TypeInfo.named name.isSome
    return wordField order word ++ (← nameField order name) ++ boolField value
  | .signed value width scaling =>
    numberArgument order name
      (TypeInfo.ofScalar (.signed width) ||| TypeInfo.flag TypeInfo.scaled scaling.isSome)
      (scalingField order width scaling) (signedField order width value)
  | .unsigned value width scaling =>
    numberArgument order name
      (TypeInfo.ofScalar (.unsigned width) ||| TypeInfo.flag TypeInfo.scaled scaling.isSome)
      (scalingField order width scaling) (order.encode width.bytes value)
  | .hex value width => codedInteger order name TypeInfo.hexCoding value width
  | .binary value width => codedInteger order name TypeInfo.binaryCoding value width
  | .float32 bits =>
    numberArgument order name (TypeInfo.ofScalar .float32) [] (order.encode 4 bits.toNat)
  | .float64 bits =>
    numberArgument order name (TypeInfo.ofScalar .float64) [] (order.encode 8 bits.toNat)
  | .string value coding =>
    let bits := match coding with
      | .utf8 => TypeInfo.codingBits TypeInfo.utf8Coding
      | .eightBit => 0
    dataArgument order name (TypeInfo.string ||| bits) "string" (codedBytes value coding ++ [0])
  | .raw data => dataArgument order name TypeInfo.raw "raw data" data
  | .traceInfo value =>
    if name.isSome then .error .argumentNotEncodable
    else dataArgument order none TypeInfo.traceInfo "trace info" (Latin1.encode value ++ [0])
  | .record fields => do
    let heading := wordField order (TypeInfo.record ||| TypeInfo.flag TypeInfo.named name.isSome)
    let count ← length16 order "struct" fields.length
    let names ← nameField order name
    return heading ++ count ++ names ++ (← argumentFields order fields)
  | .array element dimensions items scaling =>
    arrayArgument order name element dimensions items scaling
  | .unknown info data =>
    match info, name with
    | some info, none => .ok (wordField order info ++ data)
    | _, _ => .error .argumentNotEncodable
  | .named inner unit value =>
    match name with
    | none => valueField order (some (inner, unit)) value
    | some _ => .error .argumentNotEncodable
  | .payload _ | .failure _ => .error .argumentNotEncodable

def argumentFields (order : ByteOrder) : List Argument → Except Fault Bytes
  | [] => .ok []
  | argument :: rest => do
    let first ← valueField order none argument
    return first ++ (← argumentFields order rest)
end

def encodeArgument (order : ByteOrder) (argument : Argument) : Except Fault Bytes :=
  valueField order none argument

end DiagTrace.Verbose
