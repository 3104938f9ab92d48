import Mathlib.Data.List.Induction
import DiagTrace.Proofs.Stream.Packet
import DiagTrace.Proofs.Stream.Sweep

/-!
The use of a decoder over time: calls that feed bytes, flush, or change what the decoder knows, in any order.
A session keeps beside the decoder what a caller can see of it: all bytes fed and all lines returned.
-/
namespace DiagTrace.Stream

inductive Call where
  | feed (data : Bytes)
  | flush
  /-- Any change of the services, wire types and frames. -/
  | adjust (control : Control.Registry) (nonVerbose : NonVerbose.Codec)

structure Session where
  decoder : Decoder
  fed : Bytes
  /-- Each line returned so far, with the number of flushes before the call that returned it. -/
  returned : List (Nat × Line)
  flushes : Nat

namespace Session

def start (setting : Setting) : Session := ⟨.start setting .recorded, [], [], 0⟩

def lines (session : Session) : List Line := session.returned.map Prod.snd

def record (session : Session) (result : List Line × Decoder) : Session :=
  { session with
    decoder := result.2, returned := session.returned ++ result.1.map (session.flushes, ·) }

def call (session : Session) : Call → Session
  | .feed data => { session.record (session.decoder.feed data) with fed := session.fed ++ data }
  | .flush => { session.record session.decoder.flush with flushes := session.flushes + 1 }
  | .adjust control nonVerbose =>
    { session with
      decoder := { session.decoder with setting := { session.decoder.setting with control, nonVerbose } } }

def run (session : Session) (calls : List Call) : Session := calls.foldl call session

@[simp] theorem run_append (session : Session) (calls others : List Call) :
    session.run (calls ++ others) = (session.run calls).run others :=
  List.foldl_append

@[simp] theorem run_singleton (session : Session) (call : Call) : session.run [call] = session.call call :=
  rfl

theorem format_call (session : Session) (call : Call) :
    (session.call call).decoder.setting.format = session.decoder.setting.format := by
  cases call with
  | feed data => simp [Session.call, record, Decoder.feed_eq_run]
  | flush => simp [Session.call, record, Decoder.flush_eq_run]
  | adjust control nonVerbose => rfl

/-- What every call preserves holds of every session. -/
theorem run_invariant {setting : Setting} (invariant : Session → Prop) (initial : invariant (start setting))
    (step : ∀ session call, session.decoder.setting.format = setting.format → invariant session →
      invariant (session.call call)) (calls : List Call) :
    invariant ((start setting).run calls) ∧
      ((start setting).run calls).decoder.setting.format = setting.format := by
  induction calls using List.reverseRecOn with
  | nil => exact ⟨initial, rfl⟩
  | append_singleton calls call ih =>
    rw [run_append, run_singleton, format_call]
    exact ⟨step _ call ih.2 ih.1, ih.2⟩

end Session

end DiagTrace.Stream
