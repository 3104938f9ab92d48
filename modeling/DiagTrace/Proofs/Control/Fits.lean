import DiagTrace.Control.Registry
import DiagTrace.Proofs.Verbose.Fits

/-! The control payloads that have a place on the wire, for the services of the standard. -/
namespace DiagTrace.Control

open Verbose (TextFits)

def TargetFits (target : Target) : Prop := Ident.Plain target.app ∧ Ident.Plain target.ctx

def RequestFits : Request → Prop
  | .setLogLevel target _ interface | .setTraceStatus target _ interface | .getLogInfo _ target interface =>
    TargetFits target ∧ Ident.Plain interface
  | .setDefaultLogLevel _ interface | .setDefaultTraceStatus _ interface => Ident.Plain interface
  | .getTraceStatus target => TargetFits target
  | .enable service _ => service ∈ Registry.switches
  | .query service => service ∈ Registry.queries
  | .injection service data => ServiceId.firstInjection ≤ service ∧ data.length < Bytes.capacity 4
  | .custom .. => False

structure ContextFits (status : UInt8) (context : ContextInfo) : Prop where
  id : Ident.Plain context.id
  level : context.logLevel.isSome = Status.hasLevels status
  trace : context.traceStatus.isSome = Status.hasTraces status
  described : context.description.isSome = Status.hasDescriptions status
  description : ∀ text ∈ context.description, TextFits text

structure AppFits (status : UInt8) (app : AppInfo) : Prop where
  id : Ident.Plain app.id
  few : app.contexts.length ≤ 65535
  each : ∀ context ∈ app.contexts, ContextFits status context
  described : app.description.isSome = Status.hasDescriptions status
  description : ∀ text ∈ app.description, TextFits text

/-- A report lists applications only with a status from 3 to 7. -/
def ReportFits (status : UInt8) (apps : List AppInfo) : Prop :=
  (status ∈ [0, 1, 2, 8, 9] ∧ apps = []) ∨
  (3 ≤ status ∧ status ≤ 7 ∧ apps.length ≤ 65535 ∧ ∀ app ∈ apps, AppFits status app)

/-- A failed service answers with its status alone, and so does one that only acknowledges. -/
def ResponseFits : Response → Prop
  | .status service status =>
    service ∈ Registry.acknowledgements ∨
    (Registry.standard.isRegistered ⟨service, .response⟩ = true ∧ (status = 1 ∨ status = 2))
  | .logLevel service status _ => service = .getDefaultLogLevel ∧ status ≠ 1 ∧ status ≠ 2
  | .enabled service status _ => service ∈ Registry.switchStates ∧ status ≠ 1 ∧ status ≠ 2
  | .logInfo status apps interface => ReportFits status apps ∧ Ident.Plain interface
  | .softwareVersion status version => Latin1.Plain version ∧ status ≠ 1 ∧ status ≠ 2
  | .bufferOverflow status _ | .timeZone status _ _ => status ≠ 1 ∧ status ≠ 2
  | .syncTimestamp status seconds _ => seconds.toNat < Bytes.capacity 6 ∧ status ≠ 1 ∧ status ≠ 2
  | .unregisterContext status target interface =>
    TargetFits target ∧ Ident.Plain interface ∧ status ≠ 1 ∧ status ≠ 2
  | .connectionInfo status _ interface => Ident.Plain interface ∧ status ≠ 1 ∧ status ≠ 2
  | .injection service _ => ServiceId.firstInjection ≤ service
  | .custom .. => False

def PayloadFits : Payload → Prop
  | .request request => RequestFits request
  | .response response => ResponseFits response
  | .timeMarker => True

/-- The payloads that are found again in front of a tail. Injected data is all that follows its length, the bare
status of a failed report is told from a report by what is missing behind it, and the length of a version, with
its closing zero, is counted in 32 bits. -/
def Delimited (tail : Bytes) : Payload → Prop
  | .request (.injection ..) => tail = []
  | .response (.status service _) => service = .getLogInfo → tail.length < 4
  | .response (.softwareVersion _ version) => version.toList.length + 1 < Bytes.capacity 4
  | _ => True

end DiagTrace.Control
