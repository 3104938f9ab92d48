import DiagTrace.CommandLine.Options
import DiagTrace.Config
import DiagTrace.Toml.Reader

/-!
Preferences of a run: the configuration of the decoder and what to show of its lines. They come from a TOML
document, and options override them.
-/
namespace DiagTrace.CommandLine

structure Preferences where
  decoder : Config
  showSkipped : Bool
  position : Bool
deriving DecidableEq

namespace Preferences

def standard : Preferences := ⟨.standard, true, false⟩

/-- A record by name in a table, or by place in an array or in tables under a repeated header, where what is
in excess does not count. A time has parts too, but none with a name that counts here. -/
def fieldsOf? (names : List String) : Toml → Option Toml.Entries
  | .table _ entries => some entries
  | .array items => some (names.zip items)
  | .tables items => some (names.zip (items.reverse.map (.table .header)))
  | .moment => some []
  | _ => none

/-- A field with a value of its own where it is absent. -/
def field? {α : Type} (fields : Toml.Entries) (name : String) (absent : α)
    (read : Toml → Option α) : Option α :=
  match fields.lookup name with
  | some value => read value
  | none => some absent

def asBool? : Toml → Option Bool
  | .bool value => some value
  | _ => none

def asPath? : Toml → Option (Option String)
  | .text value => some (some value)
  | _ => none

def isEmpty : Toml → Bool
  | .table _ [] | .array [] => true
  | _ => false

/-- A format by its name, alone or as the only name of a table, with an empty value. -/
def asFormat? : Toml → Option CaptureFormat
  | .text name => CaptureFormat.ofName? name
  | .table _ [(name, value)] => if isEmpty value then CaptureFormat.ofName? name else none
  | _ => none

def decoderOf? (value : Toml) : Option Config := do
  let fields ← fieldsOf? Config.fieldNames value
  let format ← field? fields "format" Config.standard.format asFormat?
  let online ← field? fields "online" Config.standard.online asBool?
  let frameMap ← field? fields "frame_map" Config.standard.frameMap asPath?
  return ⟨format, online, frameMap⟩

def outputOf? (value : Toml) : Option (Bool × Bool) := do
  let fields ← fieldsOf? ["show_skipped", "position"] value
  let showSkipped ← field? fields "show_skipped" standard.showSkipped asBool?
  let position ← field? fields "position" standard.position asBool?
  return (showSkipped, position)

def ofText? (text : String) : Option Preferences := do
  let fields ← Toml.ofText? text
  let decoder ← field? fields "decoder" standard.decoder decoderOf?
  let (showSkipped, position) ←
    field? fields "output" (standard.showSkipped, standard.position) outputOf?
  return ⟨decoder, showSkipped, position⟩

def override (preferences : Preferences) (options : Options) : Preferences where
  decoder :=
    { format := options.format.getD preferences.decoder.format
      online := options.online || preferences.decoder.online
      frameMap := options.frameMap.orElse fun _ => preferences.decoder.frameMap }
  showSkipped := preferences.showSkipped && !options.hideSkipped
  position := preferences.position || options.position

end Preferences

end DiagTrace.CommandLine
