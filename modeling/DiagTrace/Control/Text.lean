import DiagTrace.Calendar
import DiagTrace.Control.Payload
import DiagTrace.Text.Latin1

/-!
Control payloads as a trace shows them: the name of the service in brackets, with the status of a
response behind it, then what the service carries.
-/
namespace DiagTrace.Control

/-- A log level; level -1 stands for the default of the device. -/
def levelText (level : Int8) : String :=
  match level.toInt with
  | -1 => "default"
  | 0 => "block_all"
  | 1 => "fatal"
  | 2 => "error"
  | 3 => "warning"
  | 4 => "info"
  | 5 => "debug"
  | 6 => "verbose"
  | other => s!"log_level={other}"

/-- A trace status that has a word; status -1 stands for the default of the device. -/
def traceWord? (status : Int8) : Option String :=
  match status.toInt with
  | -1 => some "default"
  | 0 => some "off"
  | 1 => some "on"
  | _ => none

def traceText (status : Int8) : String := (traceWord? status).getD s!"status={status.toInt}"

def Status.text (status : UInt8) : String :=
  if status == Status.ok then "ok"
  else if status == Status.notSupported then "not_supported"
  else if status == Status.error then "error"
  else s!"status={status.toNat}"

/-- A report of log information names its options by their number. -/
def Status.logInfoText (status : UInt8) : String :=
  if status == Status.noMatch then "no_matching_context_id"
  else if status == Status.overflow then "overflow"
  else if 3 ≤ status && status ≤ 7 then toString status.toNat
  else Status.text status

def Status.injectionText (status : UInt8) : String :=
  if status == Status.pending then "pending" else Status.text status

def switchText (enabled : Bool) : String := if enabled then "on" else "off"

/-- A blank and the text, or nothing for an empty text. -/
def optionalPart (text : String) : String := if text.isEmpty then "" else " " ++ text

def dataPart (data : Bytes) : String := optionalPart (String.ofList (Hex.spaced data))

def Target.part (target : Target) : String :=
  if target.app.isEmpty && target.ctx.isEmpty then "" else s!" {target.app} ({target.ctx})"

def ContextInfo.text (context : ContextInfo) : String :=
  let level := match context.logLevel with
    | some level => " " ++ levelText level
    | none => ""
  let trace := match context.traceStatus with
    | some status => " " ++ (traceWord? status).getD (toString status.toInt)
    | none => ""
  context.id ++ level ++ trace

def AppInfo.text (app : AppInfo) : String :=
  let contexts := "(" ++ ", ".intercalate (app.contexts.map ContextInfo.text) ++ ")"
  if app.id.isEmpty then contexts else app.id ++ " " ++ contexts

def heading (service : ServiceId) (status : String) : String := s!"[{service.text} {status}]"

def Request.text : Request → String
  | .setLogLevel target level interface =>
    "[set_log_level] " ++ levelText level ++ target.part ++ optionalPart interface
  | .setTraceStatus target status interface =>
    "[set_trace_status] " ++ traceText status ++ target.part ++ optionalPart interface
  | .getLogInfo options target interface =>
    let which := if target.app.isEmpty then " -all-" else s!" {target.app} ({target.ctx})"
    s!"[get_log_info options={options.toNat}]" ++ which ++ optionalPart interface
  | .setDefaultLogLevel level interface =>
    "[set_default_log_level] " ++ levelText level ++ optionalPart interface
  | .setDefaultTraceStatus enabled interface =>
    "[set_default_trace_status] " ++ switchText enabled ++ optionalPart interface
  | .getTraceStatus target => "[get_trace_status]" ++ target.part
  | .enable service enabled => s!"[{service.text}] " ++ switchText enabled
  | .query service => s!"[{service.text}]"
  | .injection _ data =>
    let length := ByteOrder.little.encode 4 data.length
    "[] " ++ String.ofList (Hex.spaced length) ++ dataPart data
  | .custom service data => s!"[{service.text}]" ++ dataPart data

/-- A moment in the calendar; a count that the calendar does not reach stays a count of seconds. -/
def momentText (seconds : UInt64) (nanoseconds : UInt32) : String :=
  let fraction := nanoseconds.toNat
  let second := seconds.toNat
  let withinSecond := fraction < 1000000000 || (fraction < 2000000000 && second % 60 == 59)
  if second ≤ Calendar.lastSecond && withinSecond then
    Timestamp.isoText ⟨second, fraction⟩
  else s!"{second}." ++ Date.digits 9 fraction

def offsetText (offset : Int32) : String :=
  let minutes := offset.toInt.natAbs / 60
  (if offset.toInt < 0 then "-" else "+") ++ Date.digits 2 (minutes / 60) ++ ":"
    ++ Date.digits 2 (minutes % 60)

def connectionText (state : UInt8) : String :=
  if state == 1 then "disconnected" else if state == 2 then "connected" else "unknown"

def Response.text : Response → String
  | .status service code => heading service (Status.text code)
  | .logLevel service code level =>
    heading service (Status.text code) ++ " " ++ levelText level
  | .enabled service code value =>
    let word := if service == .messageBufferOverflow then toString value else switchText value
    heading service (Status.text code) ++ " " ++ word
  | .logInfo code apps interface =>
    let reports := apps.map fun app => " " ++ app.text ++ ";"
    heading .getLogInfo (Status.logInfoText code) ++ String.join reports
      ++ (if apps.isEmpty then "" else optionalPart interface)
  | .softwareVersion code version =>
    heading .getSoftwareVersion (Status.text code) ++ " " ++ Latin1.printable version
  | .bufferOverflow code counter =>
    heading .bufferOverflow (Status.text code) ++ s!" {counter.toNat}"
  | .syncTimestamp code seconds nanoseconds =>
    heading .syncTimestamp (Status.text code) ++ " " ++ momentText seconds nanoseconds
  | .unregisterContext code target interface =>
    heading .unregisterContext (Status.text code) ++ target.part ++ optionalPart interface
  | .connectionInfo code state interface =>
    heading .connectionInfo (Status.text code) ++ " " ++ connectionText state
      ++ optionalPart interface
  | .timeZone code offset summer =>
    heading .timeZone (Status.text code) ++ " " ++ offsetText offset
      ++ (if summer then " DST" else "")
  | .injection _ code => "[ " ++ Status.injectionText code ++ "]"
  | .custom service code data => heading service (Status.text code) ++ dataPart data

def Payload.text : Payload → String
  | .request body => body.text
  | .response body => body.text
  | .timeMarker => "[time]"

end DiagTrace.Control
