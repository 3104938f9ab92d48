import DiagTrace.Text.Shapeless

/-!
Texts in double quotes. The quote, the backslash and the usual line characters have short escapes, and
a character without a shape is named by its code point.
-/
namespace DiagTrace.Text

def escape (c : Char) : List Char :=
  if c == '\x22' then ['\\', '\x22']
  else if c == '\\' then ['\\', '\\']
  else if c == '\n' then ['\\', 'n']
  else if c == '\r' then ['\\', 'r']
  else if c == '\t' then ['\\', 't']
  else if c.toNat == 0 then ['\\', '0']
  else if isShapeless c then ['\\', 'u', '\x7b'] ++ Nat.toDigits 16 c.toNat ++ ['\x7d']
  else [c]

def quoted (text : String) : String := String.ofList ('\x22' :: text.toList.flatMap escape ++ ['\x22'])

def optional : Option String → String
  | none => "None"
  | some text => "Some(" ++ quoted text ++ ")"

def bracketed (items : List String) : String := "[" ++ ", ".intercalate items ++ "]"

end DiagTrace.Text
