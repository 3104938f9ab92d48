import DiagTrace.CaptureFormat
import DiagTrace.Header.Extended

/-!
The headers of one packet as they stand in a stream: a storage header or a marker as the framing demands, the
standard header, and the extended header where the standard header announces it.
-/
namespace DiagTrace.Stream

structure Headers where
  /-- Present in capture files only. -/
  storage : Option StorageHeader
  standard : StandardHeader
  extended : Option ExtendedHeader
deriving DecidableEq

namespace Headers

def parseStorage (format : CaptureFormat) (packet : Bytes) : Except Fault (Option StorageHeader) :=
  match format with
  | .file => (StorageHeader.parse packet).map some
  | .network | .serial => .ok none

def parseExtended (standard : StandardHeader) (behind : Bytes) :
    Except Fault (Option ExtendedHeader × Bytes) :=
  if standard.hasExtended then do
    let extended ← ExtendedHeader.parse behind
    return (some extended, behind.drop ExtendedHeader.length)
  else .ok (none, behind)

def parse (format : CaptureFormat) (packet : Bytes) : Except Fault (Headers × Bytes) := do
  let storage ← parseStorage format packet
  let bare := packet.drop format.headerOffset
  let standard ← StandardHeader.parse bare
  let (extended, payload) ← parseExtended standard (bare.drop standard.headerLength)
  return (⟨storage, standard, extended⟩, payload)

def preamble (format : CaptureFormat) (headers : Headers) : Bytes :=
  match headers.storage with
  | some storage => storage.encode
  | none => format.marker?.getD []

def encode (format : CaptureFormat) (headers : Headers) : Bytes :=
  headers.preamble format ++ headers.standard.encode
    ++ (headers.extended.map ExtendedHeader.encode).getD []

end Headers

end DiagTrace.Stream
