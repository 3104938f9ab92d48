import DiagTrace.Argument.Text
import DiagTrace.Control.Text
import DiagTrace.Line.Basic

/-! Lines as a trace shows them: the text of the message alone, or behind all fields of the header. -/
namespace DiagTrace.Line

/-- The message number of a line that has one, in brackets and with a blank behind it. -/
def numberText : Option UInt32 → String
  | some id => s!"[{id.toNat}] "
  | none => ""

def text : Line → String
  | normal _ messageId arguments =>
    numberText messageId ++ " ".intercalate (Argument.texts arguments)
  | control _ payload => payload.text
  | skipped _ bytes none => s!"Skipped: {bytes}"
  | skipped _ bytes (some reason) => s!"Skipped: {bytes} bytes; {reason}"

/-- The header of a line in the order of the columns; a line without a counter shows -1. -/
def columns (header : LineHeader) : List String :=
  [header.time.text, header.deviceTime.text, (header.count.map fun n => toString n.toNat).getD "-1",
    header.ecuId, header.appId, header.ctxId, toString header.session.toNat,
    header.type.description, if header.isVerbose then "verbose" else "non-verbose"]

def row (line : Line) : String := " ".intercalate (columns line.header ++ [line.text])

end DiagTrace.Line
