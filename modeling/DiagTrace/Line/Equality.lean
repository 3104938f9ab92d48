import DiagTrace.Argument.Equality
import DiagTrace.Line.Basic

/-!
When two lines count as equal. Header fields count where the features say that they carry a meaning; the
number of a line and its position never do.
-/
namespace DiagTrace

namespace LineHeader

/-- Equality of a field that counts only with its feature. -/
def fieldEquals {α : Type} [DecidableEq α] (a : LineHeader) (feature : Feature) (x y : α) : Bool :=
  !a.features.has feature || x == y

def equals (a b : LineHeader) : Bool :=
  a.features == b.features && a.count == b.count
    && a.fieldEquals .ecuId a.ecuId b.ecuId
    && a.fieldEquals .appId a.appId b.appId
    && a.fieldEquals .ctxId a.ctxId b.ctxId
    && a.fieldEquals .deviceTimestamp a.deviceTime b.deviceTime
    && a.fieldEquals .sessionId a.session b.session
    && a.fieldEquals .logTimestamp a.time b.time
    && a.fieldEquals .messageType a.type b.type

end LineHeader

namespace Line

def equals : Line → Line → Bool
  | normal a m x, normal b n y => a.equals b && m == n && Argument.allEqual x y
  | control a p, control b q => a.equals b && p == q
  | skipped a m x, skipped b n y => a.equals b && m == n && x == y
  | _, _ => false

end Line

end DiagTrace
