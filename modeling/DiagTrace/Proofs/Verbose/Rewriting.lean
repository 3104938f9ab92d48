import DiagTrace.Proofs.Verbose.Reading
import DiagTrace.Proofs.Verbose.RoundTrip

/-!
Arguments that were read are written again, unless they hold what has no place on the wire.
-/
namespace DiagTrace.Verbose

open Read

/-- A text with its closing zero is too long for its length, or a floating-point number of 16 or 128 bits has a
name: the argument itself, or one inside it. -/
inductive Unwritable : Argument → Prop where
  | text {text : String} {coding : TextCoding} (long : 65534 < (codedBytes text coding).length) :
      Unwritable (.string text coding)
  | traceInfo {text : String} (long : 65534 < text.toList.length) : Unwritable (.traceInfo text)
  | name {name : String} {unit : Option String} {value : Argument} (long : ¬ TextFits name) :
      Unwritable (.named name unit value)
  | unit {name text : String} {value : Argument} (measured : takesUnit value = true) (long : ¬ TextFits text) :
      Unwritable (.named name (some text) value)
  | wideFloat {name : String} {unit : Option String} {info : UInt32} {data : Bytes} (wide : WideFloat info data) :
      Unwritable (.named name unit (.unknown (some info) data))
  | value {name : String} {unit : Option String} {value : Argument} (inside : Unwritable value) :
      Unwritable (.named name unit value)
  | field {field : Argument} {fields : List Argument} (present : field ∈ fields) (inside : Unwritable field) :
      Unwritable (.record fields)

variable {order : ByteOrder} {name : Option (String × Option String)} {depth : Nat} {bs : Bytes}

section Fitting

theorem fits_or_unwritable_of_value {value : Argument} (fields : ∀ inner, depth = inner + 1 → ∀ field,
    ArgumentRead inner field → ArgumentFits inner field ∨ Unwritable field) (read : ValueRead depth value) :
    ValueFits depth value ∨ Unwritable value := by
  cases read with
  | fitting fits => exact .inl fits
  | utf8 text =>
    rcases Nat.lt_or_ge 65534 (Utf8.encode text).length with long | short
    · exact .inr (.text long)
    · exact .inl (.utf8 short)
  | @eightBit _ text plain =>
    rcases Nat.lt_or_ge 65534 text.toList.length with long | short
    · refine .inr (.text ?_)
      rw [codedBytes, Latin1.length_encode]
      exact long
    · exact .inl (.eightBit ⟨plain, short⟩)
  | @record inner members few each =>
    rcases all_or_some fun field present => fields inner rfl field (each field present) with
      fit | ⟨field, present, unwritable⟩
    · exact .inl (.record few fit)
    · exact .inr (.field present unwritable)

theorem fits_or_unwritable_of_argument {argument : Argument} (values : ∀ value, ValueRead depth value →
    ValueFits depth value ∨ Unwritable value) (read : ArgumentRead depth argument) :
    ArgumentFits depth argument ∨ Unwritable argument := by
  cases read with
  | unnamed read =>
    rcases values _ read with fits | unwritable
    · exact .inl (.unnamed fits)
    · exact .inr unwritable
  | @named _ value name unit read measured =>
    rcases values value read with fits | unwritable
    · by_cases called : TextFits name
      · cases unit with
        | none => exact .inl (.named fits called fun text there => nomatch there)
        | some text =>
          have takes := measured rfl
          by_cases short : TextFits text
          · refine .inl (.named fits called fun found there => ?_)
            cases there
            exact ⟨takes, short⟩
          · exact .inr (.unit takes short)
      · exact .inr (.name called)
    · exact .inr (.value unwritable)
  | @traceInfo _ text plain =>
    rcases Nat.lt_or_ge 65534 text.toList.length with long | short
    · exact .inr (.traceInfo long)
    · exact .inl (.traceInfo ⟨plain, short⟩)
  | wideFloat wide unnamed => exact .inl (.unknown wide.1 unnamed wide.2)
  | namedWideFloat wide => exact .inr (.wideFloat wide)

theorem value_fits_or_unwritable {value : Argument} (read : ValueRead depth value) :
    ValueFits depth value ∨ Unwritable value := by
  induction depth generalizing value with
  | zero => exact fits_or_unwritable_of_value (fun inner deeper => nomatch deeper) read
  | succ depth ih =>
    refine fits_or_unwritable_of_value (fun inner deeper field read => ?_) read
    cases deeper
    exact fits_or_unwritable_of_argument (fun value read => ih read) read

/-- What was read has a place on the wire, unless it holds what has none. -/
theorem fits_or_unwritable {argument : Argument} (read : ArgumentRead depth argument) :
    ArgumentFits depth argument ∨ Unwritable argument :=
  fits_or_unwritable_of_argument (fun _ read => value_fits_or_unwritable read) read

end Fitting

section Refused

theorem length16_ok {what : String} {length : Nat} (written : length16 order what length = .ok bs) :
    length ≤ 65535 := by
  unfold length16 at written
  split at written
  · omega
  · cases written

theorem name_of_data {word : UInt32} {what : String} {data : Bytes}
    (written : dataArgument order name word what data = .ok bs) :
    data.length ≤ 65535 ∧ ∃ names, nameField order name = .ok names := by
  obtain ⟨_, length, rest⟩ := of_bind written
  obtain ⟨names, called, _⟩ := of_bind rest
  exact ⟨length16_ok length, names, called⟩

theorem name_of_number {word : UInt32} {scaling value : Bytes}
    (written : numberArgument order name word scaling value = .ok bs) :
    ∃ names, nameAndUnitField order name = .ok names := by
  obtain ⟨names, called, _⟩ := of_bind written
  exact ⟨names, called⟩

theorem name_of_array {element : ScalarKind} {dimensions : List UInt16} {items : List Argument}
    {scaling : Option Scaling} (written : arrayArgument order name element dimensions items scaling = .ok bs) :
    ∃ names, nameAndUnitField order name = .ok names := by
  cases names : nameAndUnitField order name with
  | ok called => exact ⟨called, rfl⟩
  | error fault =>
    simp only [arrayArgument, names, bind, Except.bind] at written
    split at written
    · cases written
    · split at written
      · cases written
      all_goals
        simp only [pure, Except.pure] at written
        split at written <;> cases written

theorem textFits_of_length16 {text what : String} (written : length16 order what (terminated text).length = .ok bs) :
    TextFits text := by
  have short := length16_ok written
  rw [length_terminated] at short
  exact Nat.le_of_succ_le_succ short

theorem called_of_nameField {text : String} {unit : Option String}
    (written : nameField order (some (text, unit)) = .ok bs) : TextFits text := by
  obtain ⟨_, length, _⟩ := of_bind written
  exact textFits_of_length16 length

theorem measured_of_nameAndUnitField {text : String} {unit : Option String}
    (written : nameAndUnitField order (some (text, unit)) = .ok bs) :
    TextFits text ∧ ∀ found ∈ unit, TextFits found := by
  obtain ⟨_, length, rest⟩ := of_bind written
  refine ⟨textFits_of_length16 length, fun found there => ?_⟩
  cases there
  obtain ⟨_, unit_length, _⟩ := of_bind rest
  exact textFits_of_length16 unit_length

theorem name_of_value {text : String} {unit : Option String} {value : Argument}
    (written : valueField order (some (text, unit)) value = .ok bs) :
    TextFits text ∧ (takesUnit value = true → ∀ found ∈ unit, TextFits found) := by
  have measured : (∃ names, nameAndUnitField order (some (text, unit)) = .ok names) →
      TextFits text ∧ (takesUnit value = true → ∀ found ∈ unit, TextFits found) := by
    rintro ⟨names, fields⟩
    obtain ⟨called, fits⟩ := measured_of_nameAndUnitField fields
    exact ⟨called, fun _ => fits⟩
  have called : takesUnit value = false → (∃ names, nameField order (some (text, unit)) = .ok names) →
      TextFits text ∧ (takesUnit value = true → ∀ found ∈ unit, TextFits found) := by
    rintro unitless ⟨names, fields⟩
    refine ⟨called_of_nameField fields, fun takes => ?_⟩
    rw [unitless] at takes
    cases takes
  cases value with
  | bool value =>
    simp only [valueField] at written
    obtain ⟨names, fields, _⟩ := of_bind written
    exact called rfl ⟨names, fields⟩
  | signed value width scaling => exact measured (name_of_number written)
  | unsigned value width scaling => exact measured (name_of_number written)
  | float32 bits => exact measured (name_of_number written)
  | float64 bits => exact measured (name_of_number written)
  | hex value width =>
    unfold valueField codedInteger at written
    split at written
    · cases written
    · exact measured (name_of_number written)
  | binary value width =>
    unfold valueField codedInteger at written
    split at written
    · cases written
    · exact measured (name_of_number written)
  | string value coding => exact called rfl (name_of_data written).2
  | raw data => exact called rfl (name_of_data written).2
  | array element dimensions items scaling => exact measured (name_of_array written)
  | record fields =>
    simp only [valueField] at written
    obtain ⟨_, _, rest⟩ := of_bind written
    obtain ⟨names, fields, _⟩ := of_bind rest
    exact called rfl ⟨names, fields⟩
  | unknown info data => cases info <;> cases written
  | _ => cases written

theorem fields_written {arguments : List Argument} (written : argumentFields order arguments = .ok bs) :
    ∀ argument ∈ arguments, ∃ field, valueField order none argument = .ok field := by
  induction arguments generalizing bs with
  | nil => exact fun argument there => nomatch there
  | cons argument arguments ih =>
    simp only [argumentFields] at written
    obtain ⟨field, first, others⟩ := of_bind written
    obtain ⟨_, rest, _⟩ := of_bind others
    intro other present
    rcases List.mem_cons.mp present with rfl | later
    · exact ⟨field, first⟩
    · exact ih rest other later

theorem fields_of_record {fields : List Argument} (written : valueField order name (.record fields) = .ok bs) :
    ∃ data, argumentFields order fields = .ok data := by
  simp only [valueField] at written
  obtain ⟨_, _, counted⟩ := of_bind written
  obtain ⟨_, _, called⟩ := of_bind counted
  obtain ⟨data, fields, _⟩ := of_bind called
  exact ⟨data, fields⟩

theorem unwritable_refused {argument : Argument} (unwritable : Unwritable argument) (order : ByteOrder) :
    ∀ name bs, valueField order name argument ≠ .ok bs := by
  -- The induction is on where the part without a place stands in the argument; whatever name it gets does not help.
  induction unwritable with
  | @text text coding long =>
    intro name bs written
    have short := (name_of_data written).1
    rw [List.length_append, List.length_singleton] at short
    omega
  | @traceInfo text long =>
    intro name bs written
    cases name with
    | some label => cases written
    | none =>
      have short := (name_of_data written).1
      rw [List.length_append, List.length_singleton, Latin1.length_encode] at short
      omega
  | name long =>
    intro name bs written
    cases name with
    | some label => cases written
    | none => exact long (name_of_value written).1
  | unit measured long =>
    intro name bs written
    cases name with
    | some label => cases written
    | none => exact long ((name_of_value written).2 measured _ rfl)
  | wideFloat wide =>
    intro name bs written
    cases name <;> cases written
  | value inside ih =>
    intro name bs written
    cases name with
    | some label => cases written
    | none => exact ih _ bs written
  | field present inside ih =>
    intro name bs written
    obtain ⟨data, fields⟩ := fields_of_record written
    obtain ⟨field, alone⟩ := fields_written fields _ present
    exact ih none field alone

end Refused

section Arguments

variable {arguments : List Argument}

theorem decodeFrom_read (order : ByteOrder) (count : Nat) (cursor : Cursor) (left : Nat) (done : List Argument)
    (before : ∀ argument ∈ done, ArgumentRead maxDepth argument) :
    (decodeFrom order count cursor left done).1.length ≤ done.length + left ∧
      ∀ argument ∈ (decodeFrom order count cursor left done).1,
        ArgumentRead maxDepth argument ∨ argument.isFailure = true := by
  induction left generalizing cursor done with
  | zero =>
    refine ⟨Nat.le_of_eq List.length_reverse, fun argument present => ?_⟩
    exact .inl (before argument (List.mem_reverse.mp present))
  | succ left ih =>
    unfold decodeFrom
    split
    · rename_i argument next read
      have shape := yields_nested order maxDepth cursor argument next read
      have all : ∀ other ∈ argument :: done, ArgumentRead maxDepth other := by
        intro other present
        rcases List.mem_cons.mp present with rfl | earlier
        · exact shape
        · exact before other earlier
      obtain ⟨few, each⟩ := ih next (argument :: done) all
      rw [List.length_cons] at few
      exact ⟨by omega, each⟩
    · refine ⟨by simp only [List.length_reverse, List.length_cons]; omega, fun argument present => ?_⟩
      rcases List.mem_cons.mp (List.mem_reverse.mp present) with rfl | earlier
      · exact .inr rfl
      · exact .inl (before argument earlier)

theorem decode_read (order : ByteOrder) (payload : Bytes) (count : Nat) :
    (decode order payload count).1.length ≤ count ∧ ∀ argument ∈ (decode order payload count).1,
      ArgumentRead maxDepth argument ∨ argument.isFailure = true := by
  have read := decodeFrom_read order count (Cursor.ofBytes payload) count [] fun argument there => nomatch there
  rw [List.length_nil, Nat.zero_add] at read
  exact read

theorem fits_of_written (read : ∀ argument ∈ arguments, ArgumentRead maxDepth argument ∨ argument.isFailure = true)
    (written : argumentFields order arguments = .ok bs) : ∀ argument ∈ arguments, ArgumentFits maxDepth argument := by
  intro argument present
  obtain ⟨field, alone⟩ := fields_written written argument present
  rcases read argument present with shape | failed
  · rcases fits_or_unwritable shape with fits | unwritable
    · exact fits
    · exact absurd alone (unwritable_refused unwritable order none field)
  · cases argument with
    | failure message => cases alone
    | _ => cases failed

theorem written_or_unwritable
    (read : ∀ argument ∈ arguments, ArgumentRead maxDepth argument ∨ argument.isFailure = true) {fault : Fault}
    (refused : argumentFields order arguments = .error fault) :
    ∃ argument ∈ arguments, argument.isFailure = true ∨ Unwritable argument := by
  have each : ∀ argument ∈ arguments, ArgumentTrips order maxDepth argument ∨
      (argument.isFailure = true ∨ Unwritable argument) := by
    intro argument present
    rcases read argument present with shape | failed
    · rcases fits_or_unwritable shape with fits | unwritable
      · exact .inl (argument_roundTrips fits)
      · exact .inr (.inr unwritable)
    · exact .inr (.inl failed)
  rcases all_or_some each with trips | reason
  · rw [argumentFields_eq trips] at refused
    cases refused
  · exact reason

end Arguments

end DiagTrace.Verbose
