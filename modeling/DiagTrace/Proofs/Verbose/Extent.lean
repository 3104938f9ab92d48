import DiagTrace.Proofs.Bytes.Delimiting
import DiagTrace.Proofs.Verbose.Reading

/-!
Where verbose arguments end. Each takes a number of bytes that no byte behind it has a part in, and holds no more
parts than bytes. Of a payload that is cut off, the arguments in front of the cut are read as they were, and the cut
is told.
-/
namespace DiagTrace

namespace Argument

mutual
def nodes : Argument → Nat
  | array _ _ items _ => 1 + nodesOf items
  | record fields => 1 + nodesOf fields
  | named _ _ value => 1 + nodes value
  | _ => 1

def nodesOf : List Argument → Nat
  | [] => 0
  | argument :: rest => nodes argument + nodesOf rest
end

theorem nodesOf_eq_costs (arguments : List Argument) : nodesOf arguments = Read.costs nodes arguments := by
  induction arguments with
  | nil => rfl
  | cons argument rest ih => rw [nodesOf, ih, Read.costs]

theorem nodes_le_nodesOf {argument : Argument} {arguments : List Argument} (present : argument ∈ arguments) :
    argument.nodes ≤ nodesOf arguments := by
  induction arguments with
  | nil => cases present
  | cons first rest ih =>
    rw [nodesOf]
    rcases List.mem_cons.mp present with rfl | later
    · exact Nat.le_add_right _ _
    · have inside := ih later
      omega

theorem nodes_withName_le (value : Argument) (name : Option (String × Option String)) :
    (value.withName name).nodes ≤ value.nodes + 1 := by
  cases name with
  | none => exact Nat.le_succ _
  | some label => exact Nat.le_of_eq (Nat.add_comm 1 value.nodes)

end Argument

namespace Verbose

open Read
open Argument (nodesOf)

variable {order : ByteOrder} {info : UInt32}

theorem nodesOf_items {element : ScalarKind} {items : List Argument} (each : ∀ item ∈ items, ItemFits element item) :
    nodesOf items = items.length := by
  induction items with
  | nil => rfl
  | cons item items ih =>
    have single : item.nodes = 1 := by cases each item List.mem_cons_self <;> rfl
    have rest := ih fun other present => each other (List.mem_cons_of_mem _ present)
    rw [nodesOf, single, rest, List.length_cons, Nat.add_comm]

section Parts

variable {α : Type} {step : Read α}

theorem delimits_optionally (self : SelfDelimiting step free) (present : Bool) :
    SelfDelimiting (optionally present step) free := by
  cases present with
  | false => exact delimits_pure rfl
  | true => exact delimits_map self fun _ => Nat.le_refl _

theorem delimits_text (length : Nat) : SelfDelimiting (readText length) free :=
  delimits_last (delimits_take length) fun _ => Nat.zero_le _

theorem delimits_name (order : ByteOrder) : SelfDelimiting (readName order) free := by
  apply delimits_bind (delimits_u16 order)
  intro length
  exact delimits_last (delimits_text length) fun _ => Nat.le_refl _

theorem delimits_nameAndUnit (order : ByteOrder) : SelfDelimiting (readNameAndUnit order) free := by
  apply delimits_bind (delimits_u16 order)
  intro nameLength
  apply delimits_bind (delimits_u16 order)
  intro unitLength
  apply delimits_bind (delimits_text nameLength)
  intro name
  split
  · exact delimits_pure rfl
  · exact delimits_last (delimits_text unitLength) fun _ => Nat.le_refl _

theorem delimits_scaling (order : ByteOrder) (width : Width) : SelfDelimiting (readScaling order width) free := by
  apply delimits_bind (delimits_free (delimits_u32 order))
  intro quantization
  exact delimits_last (delimits_signed order (offsetWidth width)) fun _ => Nat.zero_le _

theorem delimits_bool : SelfDelimiting readBool fun _ => 1 :=
  delimits_last delimits_byte fun _ => Nat.le_refl _

end Parts

section Values

/-- What a value costs behind its word of type information, which pays for four parts. -/
def unpaid (argument : Argument) : Nat := argument.nodes - 4

theorem unpaid_withName_le (value : Argument) (name : Option (String × Option String)) :
    unpaid (value.withName name) ≤ value.nodes - 1 := by
  have named := Argument.nodes_withName_le value name
  unfold unpaid
  omega

theorem unpaid_single {value : Argument} (single : value.nodes = 1) (name : Option (String × Option String)) (n : Nat) :
    unpaid (value.withName name) ≤ n := by
  have little := unpaid_withName_le value name
  omega

theorem delimits_boolArgument (order : ByteOrder) (info : UInt32) :
    SelfDelimiting (readBoolArgument order info) unpaid := by
  apply delimits_bind (delimits_optionally (delimits_name order) _)
  intro name
  split
  · refine delimits_last delimits_bool fun value => ?_
    have single : (Argument.bool value).nodes = 1 := rfl
    exact unpaid_single single name 1
  · exact delimits_throw _

theorem integerValue_single (info : UInt32) (width : Width) (scaling : Option Scaling) (number : Nat) :
    (integerValue info width scaling number).nodes = 1 := by
  unfold integerValue
  simp only
  repeat' split
  all_goals rfl

theorem delimits_integer (order : ByteOrder) (info : UInt32) : SelfDelimiting (readInteger order info) unpaid := by
  unfold readInteger
  split
  · exact delimits_throw _
  · rename_i width _
    apply delimits_bind (delimits_optionally (delimits_nameAndUnit order) _)
    intro name
    apply delimits_bind (delimits_optionally (delimits_scaling order width) _)
    intro scaling
    exact delimits_last (delimits_nat order width.bytes) fun number =>
      unpaid_single (integerValue_single info width scaling number) name width.bytes

theorem delimits_floatValue (order : ByteOrder) (info : UInt32) :
    SelfDelimiting (readFloatValue order info) fun value => value.nodes - 1 := by
  unfold readFloatValue
  split
  · exact delimits_last (delimits_u32 order) fun _ => Nat.zero_le _
  · exact delimits_last (delimits_float64 order) fun _ => Nat.zero_le _
  · exact delimits_last (delimits_take 2) fun _ => Nat.zero_le _
  · exact delimits_last (delimits_take 16) fun _ => Nat.zero_le _
  · exact delimits_throw _

theorem delimits_float (order : ByteOrder) (info : UInt32) : SelfDelimiting (readFloat order info) unpaid := by
  apply delimits_bind (delimits_optionally (delimits_nameAndUnit order) _)
  intro name
  exact delimits_last (delimits_floatValue order info) fun value => unpaid_withName_le value name

theorem stringValue_single (info : UInt32) (data : Bytes) : (stringValue info data).nodes = 1 := by
  unfold stringValue
  split
  · rfl
  · rfl

theorem delimits_string (order : ByteOrder) (info : UInt32) : SelfDelimiting (readString order info) unpaid := by
  apply delimits_bind (delimits_u16 order)
  intro length
  apply delimits_bind (delimits_optionally (delimits_name order) _)
  intro name
  exact delimits_last (delimits_take length) fun data => unpaid_single (stringValue_single info _) name length

theorem delimits_raw (order : ByteOrder) (info : UInt32) : SelfDelimiting (readRaw order info) unpaid := by
  apply delimits_bind (delimits_u16 order)
  intro length
  apply delimits_bind (delimits_optionally (delimits_name order) _)
  intro name
  refine delimits_last (delimits_take length) fun data => ?_
  have single : (Argument.raw data).nodes = 1 := rfl
  exact unpaid_single single name length

theorem delimits_traceInfo (order : ByteOrder) : SelfDelimiting (readTraceInfo order) unpaid := by
  apply delimits_bind (delimits_u16 order)
  intro length
  exact delimits_last (delimits_take length) fun _ => Nat.zero_le _

theorem delimits_scalar (order : ByteOrder) (element : ScalarKind) :
    SelfDelimiting (readScalar order element) fun _ => element.bytes := by
  cases element with
  | bool => exact delimits_last delimits_bool fun _ => Nat.le_refl _
  | signed width => exact delimits_last (delimits_signed order width) fun _ => Nat.le_refl _
  | unsigned width => exact delimits_last (delimits_nat order width.bytes) fun _ => Nat.le_refl _
  | float32 => exact delimits_last (delimits_u32 order) fun _ => Nat.le_refl _
  | float64 => exact delimits_last (delimits_float64 order) fun _ => Nat.le_refl _

theorem bytes_pos (element : ScalarKind) : 1 ≤ element.bytes := by
  cases element with
  | signed width => cases width <;> decide
  | unsigned width => cases width <;> decide
  | _ => decide

/-- Reading items looks at how much is left; of what it needs there, it reads every byte. -/
theorem delimits_items (order : ByteOrder) (element : ScalarKind) (count : Nat) :
    SelfDelimiting (readItems order element count) nodesOf := by
  intro cursor items last read
  obtain ⟨length, each⟩ := yields_items order element count cursor items last read
  unfold readItems at read
  split at read
  · obtain ⟨front, split, paid, given⟩ := delimits_times (delimits_scalar order element) count cursor items last read
    rw [costs_const, length] at paid
    refine ⟨front, split, ?_, ?_⟩
    · have enough := Nat.mul_le_mul_left count (bytes_pos element)
      rw [nodesOf_items each, length]
      omega
    · intro tail position
      have present : (front ++ tail).hasAtLeast (count * element.bytes) = true := by
        rw [Bytes.hasAtLeast_iff, List.length_append]
        omega
      have whole := given tail position
      simp only [readItems, present, ↓reduceIte]
      exact whole
  · cases read

theorem delimits_arrayScaling {element : ScalarKind} {scaled : Bool} {next : Option Scaling → Read Argument}
    {cost : Argument → Nat} (rest : ∀ scaling, SelfDelimiting (next scaling) cost) :
    SelfDelimiting (match element.integerWidth? with
      | some width => optionally scaled (readScaling order width) >>= next
      | none => pure none >>= next) cost := by
  cases element.integerWidth? with
  | none => exact rest none
  | some width => exact delimits_bind (delimits_optionally (delimits_scaling order width) scaled) rest

theorem delimits_array (order : ByteOrder) (info : UInt32) : SelfDelimiting (readArray order info) unpaid := by
  apply delimits_bind (delimits_checked (elementKind info))
  intro element
  apply delimits_bind (delimits_u16 order)
  intro count
  have dimension : SelfDelimiting (readDimension order) free :=
    delimits_last (delimits_u16 order) fun _ => Nat.le_refl _
  apply delimits_bind (delimits_free (delimits_times dimension count))
  intro dimensions
  apply delimits_bind (delimits_optionally (delimits_nameAndUnit order) _)
  intro name
  apply delimits_arrayScaling
  intro scaling
  apply delimits_last (delimits_items order element _)
  intro items
  have little := unpaid_withName_le (.array element dimensions items scaling) name
  rw [Argument.nodes, Nat.add_sub_cancel_left] at little
  exact little

theorem delimits_record (order : ByteOrder) (info : UInt32) {field : Read Argument}
    (each : SelfDelimiting field Argument.nodes) : SelfDelimiting (readRecord order info field) unpaid := by
  apply delimits_bind (delimits_u16 order)
  intro count
  apply delimits_bind (delimits_optionally (delimits_name order) _)
  intro name
  apply delimits_last (delimits_times each count)
  intro fields
  have little := unpaid_withName_le (.record fields) name
  rw [Argument.nodes, Nat.add_sub_cancel_left, Argument.nodesOf_eq_costs] at little
  exact little

theorem delimits_value {record : UInt32 → Read Argument} (info : UInt32)
    (records : ∀ info, SelfDelimiting (record info) unpaid) : SelfDelimiting (readValue order record info) unpaid := by
  unfold readValue
  simp only
  split
  · exact delimits_boolArgument order info
  split
  · exact delimits_integer order info
  split
  · exact delimits_float order info
  split
  · exact delimits_string order info
  split
  · exact delimits_raw order info
  split
  · exact delimits_traceInfo order
  split
  · exact records info
  split
  · exact delimits_array order info
  · exact delimits_throw _

/-- An argument ends where its own bytes end, and has no more parts than bytes. -/
theorem delimits_nested (order : ByteOrder) (depth : Nat) :
    SelfDelimiting (readNested order depth) Argument.nodes := by
  induction depth with
  | zero =>
    apply delimits_bind (delimits_u32 order)
    intro info
    exact delimits_value info fun _ => delimits_throw _
  | succ depth ih =>
    apply delimits_bind (delimits_u32 order)
    intro info
    exact delimits_value info fun info => delimits_record order info ih

end Values

end Verbose

end DiagTrace
