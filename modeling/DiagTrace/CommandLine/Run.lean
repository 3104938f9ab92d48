import DiagTrace.CommandLine.Preferences
import DiagTrace.Line.Text
import DiagTrace.Stream.Setup

/-!
A run of the command line: decode capture files and show their lines. All work is done over a record of file
operations, so a run is a function of what the files hold.
-/
namespace DiagTrace.CommandLine

structure Files (m : Type → Type) where
  read : String → m (Option Bytes)
  /-- Replaces what a file holds; false if it cannot be written. -/
  write : String → String → m Bool

/-- How a run ends: its exit code and what it prints. -/
structure Outcome where
  code : UInt32
  printed : String
deriving DecidableEq

namespace Outcome

def success (printed : String) : Outcome := ⟨0, printed⟩

def failure (printed : String) : Outcome := ⟨1, printed⟩

def misuse : Outcome := ⟨2, ""⟩

end Outcome

def quickStart : String :=
  "DLT Decoder - No input specified\n\nQuick Start:\n  dlt-cli trace.dlt\n"
    ++ "  dlt-cli --format serial --frame-map frames.json capture.bin\n\n"
    ++ "Use --help for more options\n"

def helpText : String :=
  "Decode AUTOSAR DLT capture files\n\nUsage: dlt-cli [OPTIONS] [FILE]...\n\n"
    ++ "Arguments:\n  [FILE]...  Capture files to decode\n\nOptions:\n"
    ++ "  -f, --format <FORMAT>   Capture format: file, serial or network\n"
    ++ "      --frame-map <FILE>  JSON frame map for non-verbose messages\n"
    ++ "      --online            Stamp lines with the current time instead of the capture time\n"
    ++ "  -o, --output <FILE>     Output file for decoded lines (default: stdout)\n"
    ++ "  -c, --config <FILE>     Path to configuration file (config.toml)\n"
    ++ "      --hide-skipped      Do not print skipped byte ranges\n"
    ++ "      --position          Prefix each line with its position in the file\n"
    ++ "  -v, --verbose...        Verbosity level (can be repeated: -v, -vv, -vvv)\n"
    ++ "  -q, --quiet             Suppress all output except errors\n"
    ++ "  -h, --help              Print help\n  -V, --version           Print version\n"

def versionText : String := "dlt-cli 0.1.0\n"

def shown (preferences : Preferences) (line : Line) : String :=
  let row := line.row ++ "\n"
  if preferences.position then Hex.number 8 line.header.position ++ ": " ++ row else row

def captureText (preferences : Preferences) (now : Timestamp) (frames : Option FrameMap)
    (data : Bytes) : String :=
  let config := preferences.decoder
  let decoder := Stream.Decoder.standard config.format (config.clock now) frames
  let lines := (decoder.decodeAll data).1.filter fun line => preferences.showSkipped || !line.isSkipped
  String.join (lines.map (shown preferences))

/-- The texts of several captures up to the first that cannot be read; also says whether all could. -/
def joinCaptures (headed : Bool) : List (String × Option String) → String → String × Bool
  | [], done => (done, true)
  | (_, none) :: _, done => (done, false)
  | (file, some text) :: rest, done =>
    joinCaptures headed rest (done ++ (if headed then "# " ++ file ++ "\n" else "") ++ text)

section

variable {m : Type → Type} [Monad m]

/-- The preferences of a run, or nothing if its configuration file cannot be used. -/
def loadPreferences (files : Files m) (options : Options) : m (Option Preferences) := do
  match options.config with
  | none => return some (Preferences.standard.override options)
  | some path =>
    let content ← files.read path
    return ((content.bind Utf8.decode?).bind Preferences.ofText?).map (·.override options)

def loadFrames (files : Files m) (path : Option String) : m (Option (Option FrameMap)) := do
  match path with
  | none => return some none
  | some path =>
    match FrameMap.ofFile (← files.read path) with
    | .ok map => return some (some map)
    | .error _ => return none

def deliver (files : Files m) (output : Option String) (text : String) (complete : Bool) :
    m Outcome := do
  match output with
  | none => return if complete then .success text else .failure text
  | some path =>
    if ← files.write path text then return if complete then .success "" else .failure ""
    else return .failure ""

def decodeFiles (files : Files m) (now : Timestamp) (options : Options) : m Outcome := do
  match ← loadPreferences files options with
  | none => return .failure ""
  | some preferences =>
    match ← loadFrames files preferences.decoder.frameMap with
    | none => return .failure ""
    | some frames =>
      let captures ← options.files.mapM fun file => do
        return (file, (← files.read file).map (captureText preferences now frames))
      let (text, complete) := joinCaptures (1 < options.files.length) captures ""
      deliver files options.output text complete

/-- A whole run with the words of its command line. -/
def run (files : Files m) (now : Timestamp) (words : List String) : m Outcome := do
  match Options.parse words with
  | .error .usage => return .misuse
  | .error .help => return .success helpText
  | .error .version => return .success versionText
  | .ok options =>
    if options.files.isEmpty then return .success quickStart
    else decodeFiles files now options

end

end DiagTrace.CommandLine
