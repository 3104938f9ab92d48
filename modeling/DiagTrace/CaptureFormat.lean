import DiagTrace.Header.Storage
import DiagTrace.Json.Value

/-!
How packets follow each other in a stream: bare, behind a storage header in a capture file, or behind a
marker on a serial line.
-/
namespace DiagTrace

inductive CaptureFormat where
  | network | file | serial
deriving DecidableEq, Inhabited

namespace CaptureFormat

/-- The bytes in front of each packet on a serial line: `DLS` and a byte of value one. -/
def serialMarker : Bytes := [0x44, 0x4C, 0x53, 0x01]

def marker? : CaptureFormat → Option Bytes
  | network => none
  | file => some StorageHeader.marker
  | serial => some serialMarker

def headerOffset : CaptureFormat → Nat
  | network => 0
  | file => StorageHeader.length
  | serial => 4

/-- Bytes given up where a packet should start and none does. -/
def minimumDiscard : CaptureFormat → Nat
  | network => 1
  | file | serial => 4

def name : CaptureFormat → String
  | network => "network"
  | file => "file"
  | serial => "serial"

def ofName? (text : String) : Option CaptureFormat :=
  [network, file, serial].find? fun format => format.name == text

/-- The text with the letters from A to Z in lower case. -/
def lowercase (text : String) : String := String.ofList (text.toList.map Char.toLower)

/-- Reads a format by its name or one of its other names, in any case. -/
def parse (text : String) : Except String CaptureFormat :=
  let word := lowercase text
  if ["network", "net", "tcp"].contains word then .ok network
  else if ["file", "dlt"].contains word then .ok file
  else if ["serial", "ser"].contains word then .ok serial
  else .error ("unknown capture format '" ++ word ++ "'")

def ofJson? (json : Json) : Option CaptureFormat := json.asWord?.bind ofName?

end CaptureFormat

end DiagTrace
