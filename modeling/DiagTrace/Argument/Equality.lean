import DiagTrace.Argument.Basic
import DiagTrace.Decimal.Binary

/-!
When two arguments count as equal: floating-point numbers are compared as numbers, so the zeros are
equal and what is not a number equals nothing, and all else is compared as it stands.
-/
namespace DiagTrace

namespace Scaling

def equals (a b : Scaling) : Bool :=
  Decimal.BinaryValue.equals .single a.quantization.toNat b.quantization.toNat && a.offset == b.offset

def optionEquals : Option Scaling → Option Scaling → Bool
  | none, none => true
  | some a, some b => a.equals b
  | _, _ => false

end Scaling

namespace Argument

mutual
def equals : Argument → Argument → Bool
  | bool a, bool b => a == b
  | signed a v s, signed b w t => a == b && v == w && Scaling.optionEquals s t
  | unsigned a v s, unsigned b w t => a == b && v == w && Scaling.optionEquals s t
  | float32 a, float32 b => Decimal.BinaryValue.equals .single a.toNat b.toNat
  | float64 a, float64 b => Decimal.BinaryValue.equals .double a.toNat b.toNat
  | string a c, string b d => a == b && c == d
  | raw a, raw b => a == b
  | array e m a s, array f n b t => e == f && m == n && allEqual a b && Scaling.optionEquals s t
  | record a, record b => allEqual a b
  | traceInfo a, traceInfo b => a == b
  | hex a v, hex b w => a == b && v == w
  | binary a v, binary b w => a == b && v == w
  | payload a, payload b => a == b
  | unknown i a, unknown j b => i == j && a == b
  | failure a, failure b => a == b
  | named m u a, named n v b => m == n && u == v && equals a b
  | _, _ => false

def allEqual : List Argument → List Argument → Bool
  | [], [] => true
  | a :: as, b :: bs => equals a b && allEqual as bs
  | _, _ => false
end

end Argument

end DiagTrace
