/-!
Message types of a trace line: one of four families with its subtype, or unknown. A type travels as the
message info byte of the extended header without its lowest bit, which marks verbose payloads.
-/
namespace DiagTrace

inductive LogLevel where
  | fatal | error | warn | info | debug | verbose
deriving DecidableEq

inductive AppTrace where
  | variableValue | functionIn | functionOut | state | functionBus
deriving DecidableEq

inductive NetworkTrace where
  | ipc | can | flexRay | most | ethernet | someIp
  | userDefined (index : Fin 9)
deriving DecidableEq

inductive ControlKind where
  | request | response | time
deriving DecidableEq

inductive MessageType where
  | log (level : LogLevel)
  | appTrace (event : AppTrace)
  | networkTrace (bus : NetworkTrace)
  | control (kind : ControlKind)
  | unknown
deriving DecidableEq, Inhabited

/-- Top-level family of a message type, from bits 1 to 3 of the message info byte. -/
inductive MessageFamily where
  | log | appTrace | networkTrace | control | reserved
deriving DecidableEq

namespace MessageType

def subtype : MessageType → Nat
  | .log level => match level with
    | .fatal => 1 | .error => 2 | .warn => 3 | .info => 4 | .debug => 5 | .verbose => 6
  | .appTrace event => match event with
    | .variableValue => 1 | .functionIn => 2 | .functionOut => 3 | .state => 4 | .functionBus => 5
  | .networkTrace bus => match bus with
    | .ipc => 1 | .can => 2 | .flexRay => 3 | .most => 4 | .ethernet => 5 | .someIp => 6
    | .userDefined index => 7 + index.val
  | .control kind => match kind with
    | .request => 1 | .response => 2 | .time => 3
  | .unknown => 15

def family : MessageType → MessageFamily
  | .log _ => .log
  | .appTrace _ => .appTrace
  | .networkTrace _ => .networkTrace
  | .control _ => .control
  | .unknown => .reserved

/-- The message info bits of a type with the verbose bit clear; an unknown type sets all bits. -/
def bits (type : MessageType) : UInt8 :=
  match type.family with
  | .log => UInt8.ofNat (16 * type.subtype)
  | .appTrace => UInt8.ofNat (16 * type.subtype + 2)
  | .networkTrace => UInt8.ofNat (16 * type.subtype + 4)
  | .control => UInt8.ofNat (16 * type.subtype + 6)
  | .reserved => 0xFF

/-- Every type with a code of its own, in code order by family. -/
def known : List MessageType :=
  [.log .fatal, .log .error, .log .warn, .log .info, .log .debug, .log .verbose,
   .appTrace .variableValue, .appTrace .functionIn, .appTrace .functionOut, .appTrace .state,
   .appTrace .functionBus,
   .networkTrace .ipc, .networkTrace .can, .networkTrace .flexRay, .networkTrace .most,
   .networkTrace .ethernet, .networkTrace .someIp,
   .networkTrace (.userDefined 0), .networkTrace (.userDefined 1), .networkTrace (.userDefined 2),
   .networkTrace (.userDefined 3), .networkTrace (.userDefined 4), .networkTrace (.userDefined 5),
   .networkTrace (.userDefined 6), .networkTrace (.userDefined 7), .networkTrace (.userDefined 8),
   .control .request, .control .response, .control .time]

/-- Reads a message info byte; the verbose bit is ignored and codes without a meaning are unknown. -/
def ofInfo (info : UInt8) : MessageType :=
  (known.find? fun type => type.bits == info &&& 0xFE).getD .unknown

def isControl (type : MessageType) : Bool :=
  match type with
  | .control _ => true
  | _ => false

def name : MessageType → String
  | .log level => match level with
    | .fatal => "LOG_FATAL" | .error => "LOG_ERROR" | .warn => "LOG_WARN"
    | .info => "LOG_INFO" | .debug => "LOG_DEBUG" | .verbose => "LOG_VERBOSE"
  | .appTrace event => match event with
    | .variableValue => "APP_TRACE_VARIABLE" | .functionIn => "APP_TRACE_FUNCTION_IN"
    | .functionOut => "APP_TRACE_FUNCTION_OUT" | .state => "APP_TRACE_STATE"
    | .functionBus => "APP_TRACE_VFB"
  | .networkTrace bus => match bus with
    | .ipc => "NW_TRACE_IPC" | .can => "NW_TRACE_CAN" | .flexRay => "NW_TRACE_FLEXRAY"
    | .most => "NW_TRACE_MOST" | .ethernet => "NW_TRACE_ETHERNET" | .someIp => "NW_TRACE_SOME_IP"
    | .userDefined index => "NW_TRACE_USER_DEFINED" ++ toString index.val
  | .control kind => match kind with
    | .request => "CONTROL_REQUEST" | .response => "CONTROL_RESPONSE" | .time => "CONTROL_TIME"
  | .unknown => "UNKNOWN"

def ofName? (text : String) : Option MessageType :=
  (known ++ [unknown]).find? fun type => type.name == text

def description : MessageType → String
  | .log level => match level with
    | .fatal => "log fatal" | .error => "log error" | .warn => "log warn"
    | .info => "log info" | .debug => "log debug" | .verbose => "log verbose"
  | .appTrace event => match event with
    | .variableValue => "app_trace variable" | .functionIn => "app_trace func_in"
    | .functionOut => "app_trace func_out" | .state => "app_trace state"
    | .functionBus => "app_trace vfb"
  | .networkTrace bus => match bus with
    | .ipc => "nw_trace ipc" | .can => "nw_trace can" | .flexRay => "nw_trace flexray"
    | .most => "nw_trace most" | .ethernet => "nw_trace vfb"
    | .someIp | .userDefined _ => "nw_trace "
  | .control kind => match kind with
    | .request => "control request" | .response => "control response" | .time => "control time"
  | .unknown => ""

theorem ofInfo_bits (type : MessageType) (h : type ≠ .unknown) : ofInfo type.bits = type := by
  cases type with
  | log level => cases level <;> decide
  | appTrace event => cases event <;> decide
  | networkTrace bus =>
    cases bus with
    | userDefined index => revert index; decide
    | _ => decide
  | control kind => cases kind <;> decide
  | unknown => exact absurd rfl h

end MessageType

end DiagTrace
