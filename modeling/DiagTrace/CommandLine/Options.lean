import DiagTrace.CaptureFormat

/-!
Options of the command line. An option may be given once, with its value in the same word or the next one;
short flags may share a word; `--` makes all that follows a file.
-/
namespace DiagTrace.CommandLine

inductive OptionName where
  | format | frameMap | online | output | config | hideSkipped | position | verbose | quiet
  | help | version
deriving DecidableEq

namespace OptionName

def ofLong? : String → Option OptionName
  | "format" => some format
  | "frame-map" => some frameMap
  | "online" => some online
  | "output" => some output
  | "config" => some config
  | "hide-skipped" => some hideSkipped
  | "position" => some position
  | "verbose" => some verbose
  | "quiet" => some quiet
  | "help" => some help
  | "version" => some version
  | _ => none

def ofShort? : Char → Option OptionName
  | 'f' => some format
  | 'o' => some output
  | 'c' => some config
  | 'v' => some verbose
  | 'q' => some quiet
  | 'h' => some help
  | 'V' => some version
  | _ => none

def takesValue : OptionName → Bool
  | format | frameMap | output | config => true
  | _ => false

end OptionName

structure Options where
  files : List String
  format : Option CaptureFormat
  frameMap : Option String
  online : Bool
  output : Option String
  config : Option String
  hideSkipped : Bool
  position : Bool
  verbosity : Nat
  quiet : Bool
deriving DecidableEq

/-- Why options do not lead to a run. -/
inductive Stop where
  | usage | help | version
deriving DecidableEq

namespace Options

def none : Options :=
  ⟨[], Option.none, Option.none, false, Option.none, Option.none, false, false, 0, false⟩

/-- Sets a path that must not be empty and is not set yet. -/
def path (old : Option String) (value : String) : Except Stop (Option String) :=
  if value.isEmpty || old.isSome then .error .usage else .ok (some value)

def flag (old : Bool) : Except Stop Bool := if old then .error .usage else .ok true

def addFile (options : Options) (file : String) : Except Stop Options :=
  if file.isEmpty then .error .usage else .ok { options with files := options.files ++ [file] }

def setFlag (options : Options) : OptionName → Except Stop Options
  | .online => do return { options with online := ← flag options.online }
  | .hideSkipped => do return { options with hideSkipped := ← flag options.hideSkipped }
  | .position => do return { options with position := ← flag options.position }
  | .quiet => do return { options with quiet := ← flag options.quiet }
  | .verbose => .ok { options with verbosity := options.verbosity + 1 }
  | .help => .error .help
  | .version => .error .version
  | .format | .frameMap | .output | .config => .error .usage

def setValue (options : Options) (name : OptionName) (value : String) : Except Stop Options :=
  match name with
  | .format =>
    match CaptureFormat.parse value, options.format with
    | .ok format, Option.none => .ok { options with format := some format }
    | _, _ => .error .usage
  | .frameMap => do return { options with frameMap := ← path options.frameMap value }
  | .output => do return { options with output := ← path options.output value }
  | .config => do return { options with config := ← path options.config value }
  | _ => .error .usage

abbrev Pending := Options × Option OptionName

/-- Applies short options that share a word; the first that takes a value takes the rest of the word. -/
def applyShort (options : Options) : List Char → Except Stop Pending
  | [] => .ok (options, Option.none)
  | c :: rest =>
    match OptionName.ofShort? c with
    | some name =>
      if name.takesValue then
        match rest with
        | [] => .ok (options, some name)
        | '=' :: value | value => do return (← options.setValue name (String.ofList value), Option.none)
      else do
        applyShort (← options.setFlag name) rest
    | Option.none => .error .usage

def applyLong (options : Options) (word : List Char) : Except Stop Pending :=
  match OptionName.ofLong? (String.ofList (word.takeWhile (· != '='))), word.dropWhile (· != '=') with
  | some name, [] =>
    if name.takesValue then .ok (options, some name)
    else do return (← options.setFlag name, Option.none)
  | some name, _ :: value => do return (← options.setValue name (String.ofList value), Option.none)
  | Option.none, _ => .error .usage

/-- Whether a word cannot be a value; a single dash can. -/
def isOption : List Char → Bool
  | '-' :: _ :: _ => true
  | _ => false

/-- Applies the words of a command line, behind an option that waits for its value. -/
def apply (options : Options) : Option OptionName → List String → Except Stop Options
  | Option.none, [] => .ok options
  | some _, [] => .error .usage
  | some name, word :: rest =>
    if isOption word.toList then .error .usage
    else do apply (← options.setValue name word) Option.none rest
  | Option.none, word :: rest =>
    match word.toList with
    | ['-', '-'] => rest.foldlM addFile options
    | '-' :: '-' :: long => do
      let (options, waiting) ← options.applyLong long
      apply options waiting rest
    | '-' :: c :: short => do
      let (options, waiting) ← options.applyShort (c :: short)
      apply options waiting rest
    | _ => do apply (← options.addFile word) Option.none rest

def parse (words : List String) : Except Stop Options := apply none Option.none words

end Options

end DiagTrace.CommandLine
