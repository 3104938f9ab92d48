import DiagTrace.Proofs.Header.RoundTrip
import DiagTrace.Proofs.Stream.Framing

/-!
Reading and writing a header are inverse to each other, for each of the three kinds. Writing is also spelled out
field by field, into a buffer that a caller has lent: so written, it could stop halfway or put a field outside of the
buffer. That it never does is the equation between the two (`Lawful.fill_eq`).
-/
namespace DiagTrace

/-- How filling a buffer can end early: refused, or at a place that the buffer does not have. -/
inductive Halt where
  | refused (fault : Fault)
  | outside

abbrev Lent := EStateM Halt Bytes

namespace Lent

variable {α β : Type} {step : Lent α} {next : α → Lent β} {written bs cs : Bytes} {value : α} {result : β}

def require (needed : Nat) : Lent Unit := do
  let available := (← get).length
  if available < needed then throw (.refused (.bufferTooSmall needed available))

def putAt (offset : Nat) (bs : Bytes) : Lent Unit := do
  let buffer ← get
  if offset + bs.length ≤ buffer.length then
    set (buffer.take offset ++ bs ++ buffer.drop (offset + bs.length))
  else throw .outside

def putOptional (offset : Nat) : Option UInt32 → Lent Nat
  | none => return offset
  | some value => do
    putAt offset (ByteOrder.big.encode 4 value.toNat)
    return offset + 4

/-- An effect that puts bytes behind those already written, in every buffer that has room for them. -/
def Appends (step : Lent α) (written bs : Bytes) (value : α) : Prop :=
  ∀ buffer : Bytes, written.length + bs.length ≤ buffer.length →
    step.run (Bytes.overwrite buffer written) = .ok value (Bytes.overwrite buffer (written ++ bs))

theorem appends_pure (value : α) : Appends (pure value) written [] value := by
  intro buffer _
  rw [List.append_nil]
  rfl

theorem appends_bind (first : Appends step written bs value)
    (second : Appends (next value) (written ++ bs) cs result) : Appends (step >>= next) written (bs ++ cs) result := by
  intro buffer room
  rw [List.length_append] at room
  have start := first buffer (by omega)
  have rest := second buffer (by rw [List.length_append]; omega)
  rw [List.append_assoc] at rest
  rw [EStateM.run_bind, start]
  exact rest

theorem appends_putAt {offset : Nat} (behind : written.length = offset) : Appends (putAt offset bs) written bs () := by
  intro buffer room
  subst behind
  have length : (Bytes.overwrite buffer written).length = buffer.length := by
    rw [Bytes.overwrite, List.length_append, List.length_drop]
    omega
  have front : (Bytes.overwrite buffer written).take written.length = written := List.take_left
  have back : (Bytes.overwrite buffer written).drop (written.length + bs.length) =
      buffer.drop (written.length + bs.length) := by
    rw [Bytes.overwrite, List.drop_append, List.drop_eq_nil_of_le (Nat.le_add_right ..), List.nil_append,
      Nat.add_sub_cancel_left, List.drop_drop]
  have inside : written.length + bs.length ≤ (Bytes.overwrite buffer written).length := by
    rw [length]
    exact room
  have put : (putAt written.length bs).run (Bytes.overwrite buffer written) =
      (if written.length + bs.length ≤ (Bytes.overwrite buffer written).length then
        set ((Bytes.overwrite buffer written).take written.length ++ bs
          ++ (Bytes.overwrite buffer written).drop (written.length + bs.length))
      else throw .outside : Lent Unit).run (Bytes.overwrite buffer written) := rfl
  have whole : Bytes.overwrite buffer (written ++ bs) = written ++ bs ++ buffer.drop (written.length + bs.length) := by
    rw [Bytes.overwrite, List.length_append]
  rw [put, if_pos inside, front, back, whole]
  rfl

theorem appends_putOptional {offset : Nat} (behind : written.length = offset) (value : Option UInt32) :
    Appends (putOptional offset value) written (StandardHeader.optionalBytes value)
      (written ++ StandardHeader.optionalBytes value).length := by
  cases value with
  | none =>
    have stays : (written ++ StandardHeader.optionalBytes none).length = offset := by
      rw [StandardHeader.optionalBytes, List.append_nil, behind]
    rw [stays]
    exact appends_pure offset
  | some value =>
    have moves : (written ++ StandardHeader.optionalBytes (some value)).length = offset + 4 := by
      rw [List.length_append, behind, StandardHeader.length_optionalBytes]
      rfl
    rw [moves]
    have put : Appends (putOptional offset (some value)) written (ByteOrder.big.encode 4 value.toNat ++ [])
        (offset + 4) :=
      appends_bind (appends_putAt behind) (appends_pure (offset + 4))
    rw [List.append_nil] at put
    exact put

theorem run_require (needed : Nat) (buffer : Bytes) :
    (require needed).run buffer =
      if buffer.length < needed then .error (.refused (.bufferTooSmall needed buffer.length)) buffer
      else .ok () buffer := by
  have branches : (require needed).run buffer =
      (if buffer.length < needed then throw (.refused (.bufferTooSmall needed buffer.length))
      else pure () : Lent Unit).run buffer := rfl
  rw [branches]
  split <;> rfl

/-- What is put into a buffer after its room was checked is there whole, or the buffer is as it was. -/
theorem run_required {needed : Nat} (whole : Appends step [] bs value) (length : bs.length = needed)
    (buffer : Bytes) :
    (do require needed; step : Lent α).run buffer =
      if needed ≤ buffer.length then .ok value (Bytes.overwrite buffer bs)
      else .error (.refused (.bufferTooSmall needed buffer.length)) buffer := by
  rw [EStateM.run_bind, run_require]
  by_cases room : needed ≤ buffer.length
  · rw [if_pos room, if_neg (Nat.not_lt_of_le room)]
    exact whole buffer (by rw [List.length_nil, Nat.zero_add, length]; exact room)
  · rw [if_neg room, if_pos (Nat.lt_of_not_le room)]

end Lent

/-- A kind of header: the ones of it that can be written, their bytes, and the ways to read and to write one. -/
structure HeaderKind (Header : Type) where
  Proper : Header → Prop
  length : Header → Nat
  encode : Header → Bytes
  parse : Bytes → Except Fault Header
  write : Header → Bytes → Except Fault (Nat × Bytes)
  /-- Puts the fields one by one and says how many bytes they are. -/
  put : Header → Lent Nat

namespace HeaderKind

variable {Header : Type} {kind : HeaderKind Header} {header : Header}

def fill (kind : HeaderKind Header) (header : Header) : Lent Nat := do
  Lent.require (kind.length header)
  kind.put header

structure Lawful (kind : HeaderKind Header) : Prop where
  length_encode : ∀ {header}, kind.Proper header → (kind.encode header).length = kind.length header
  parse_encode : ∀ {header}, kind.Proper header → ∀ rest, kind.parse (kind.encode header ++ rest) = .ok header
  front_of_parse : ∀ {buffer header}, kind.parse buffer = .ok header →
    kind.Proper header ∧ kind.length header ≤ buffer.length ∧ kind.encode header = buffer.take (kind.length header)
  write_eq : ∀ {header}, kind.Proper header → ∀ buffer, kind.write header buffer =
    if kind.length header ≤ buffer.length then .ok (kind.length header, Bytes.overwrite buffer (kind.encode header))
    else .error (.bufferTooSmall (kind.length header) buffer.length)
  appends_put : ∀ {header}, kind.Proper header →
    Lent.Appends (kind.put header) [] (kind.encode header) (kind.length header)

/-- A header is read back from where it was written, and written back over where it was read. -/
structure Inverse (kind : HeaderKind Header) : Prop where
  short : ∀ header buffer, kind.Proper header → buffer.length < kind.length header →
    kind.write header buffer = .error (.bufferTooSmall (kind.length header) buffer.length) ∧
    (kind.fill header).run buffer =
      .error (.refused (.bufferTooSmall (kind.length header) buffer.length)) buffer
  long : ∀ header buffer, kind.Proper header → kind.length header ≤ buffer.length →
    ∃ after, kind.write header buffer = .ok (kind.length header, after) ∧
      (kind.fill header).run buffer = .ok (kind.length header) after ∧ after.length = buffer.length ∧
      after.drop (kind.length header) = buffer.drop (kind.length header) ∧ kind.parse after = .ok header
  back : ∀ buffer header, kind.parse buffer = .ok header →
    kind.Proper header ∧ kind.length header ≤ buffer.length ∧
      ∀ other : Bytes, kind.length header ≤ other.length → ∃ after,
        kind.write header other = .ok (kind.length header, after) ∧
        after.take (kind.length header) = buffer.take (kind.length header)

namespace Lawful

theorem fill_eq (lawful : Lawful kind) (proper : kind.Proper header) (buffer : Bytes) :
    (kind.fill header).run buffer =
      match kind.write header buffer with
      | .ok (written, after) => .ok written after
      | .error fault => .error (.refused fault) buffer := by
  have filled := Lent.run_required (lawful.appends_put proper) (lawful.length_encode proper) buffer
  rw [fill, filled, lawful.write_eq proper]
  split <;> rfl

theorem write_long (lawful : Lawful kind) (proper : kind.Proper header) {buffer : Bytes}
    (room : kind.length header ≤ buffer.length) :
    kind.write header buffer = .ok (kind.length header, kind.encode header ++ buffer.drop (kind.length header)) := by
  rw [lawful.write_eq proper, if_pos room, Bytes.overwrite, lawful.length_encode proper]

theorem inverse (lawful : Lawful kind) : Inverse kind := by
  constructor
  case short =>
    intro header buffer proper small
    have refused : kind.write header buffer = .error (.bufferTooSmall (kind.length header) buffer.length) := by
      rw [lawful.write_eq proper, if_neg (Nat.not_le_of_lt small)]
    refine ⟨refused, ?_⟩
    rw [lawful.fill_eq proper, refused]
  case long =>
    intro header buffer proper room
    have written := lawful.write_long proper room
    have length := lawful.length_encode proper
    refine ⟨_, written, ?_, ?_, ?_, lawful.parse_encode proper _⟩
    · rw [lawful.fill_eq proper, written]
    · rw [List.length_append, List.length_drop, length]
      omega
    · exact List.drop_left' length
  case back =>
    intro buffer header parsed
    obtain ⟨proper, inside, front⟩ := lawful.front_of_parse parsed
    refine ⟨proper, inside, fun other room => ⟨_, lawful.write_long proper room, ?_⟩⟩
    rw [← front]
    exact List.take_left' (lawful.length_encode proper)

end Lawful

end HeaderKind

theorem Bytes.if_hasAtLeast {α : Type} (bs : Bytes) (n : Nat) (enough short : α) :
    (if bs.hasAtLeast n then enough else short) = if n ≤ bs.length then enough else short := by
  simp only [hasAtLeast_iff]

namespace ByteOrder

theorem encode_half (order : ByteOrder) {bs : Bytes} (length : bs.length = 2) :
    order.encode 2 (UInt16.ofNat (order.decode bs)).toNat = bs := by
  have bound := decode_lt order bs
  have back := encode_decode order bs
  rw [length] at bound back
  rw [UInt16.toNat_ofNat_of_lt' bound, back]

theorem encode_word (order : ByteOrder) {bs : Bytes} (length : bs.length = 4) :
    order.encode 4 (UInt32.ofNat (order.decode bs)).toNat = bs := by
  have bound := decode_lt order bs
  have back := encode_decode order bs
  rw [length] at bound back
  rw [UInt32.toNat_ofNat_of_lt' bound, back]

end ByteOrder

namespace StandardHeader

variable {buffer : Bytes} {header : StandardHeader}

def put (header : StandardHeader) : Lent Nat := do
  Lent.putAt 0 [header.type]
  Lent.putAt 1 [header.count]
  Lent.putAt 2 (ByteOrder.big.encode 2 header.length.toNat)
  let offset ← Lent.putOptional 4 header.ecuId
  let offset ← Lent.putOptional offset header.session
  Lent.putOptional offset header.ticks

theorem encode_numberAt {offset : Nat} (inside : offset + 4 ≤ buffer.length) :
    ByteOrder.big.encode 4 (UInt32.ofNat (numberAt buffer offset 4)).toNat = (buffer.drop offset).take 4 := by
  apply ByteOrder.encode_word
  rw [List.length_take, List.length_drop]
  omega

theorem optionalBytes_optionalAt {present : Bool} {offset : Nat}
    (inside : offset + (if present then 4 else 0) ≤ buffer.length) :
    optionalBytes (optionalAt buffer present offset) = (buffer.drop offset).take (if present then 4 else 0) := by
  cases present with
  | false => rfl
  | true => exact encode_numberAt inside

theorem isSome_optionalAt (buffer : Bytes) (present : Bool) (offset : Nat) :
    (optionalAt buffer present offset).isSome = present := by
  cases present <;> rfl

theorem front_of_parse (parsed : parse buffer = .ok header) :
    Consistent header ∧ header.headerLength ≤ buffer.length ∧ header.encode = buffer.take header.headerLength := by
  unfold parse at parsed
  split at parsed
  · rename_i type count high low rest
    split at parsed
    · rename_i long
      cases parsed
      have inside := (Bytes.hasAtLeast_iff _ _).mp long
      have fixed : (type :: count :: high :: low :: rest).take 4 = [type, count, high, low] := rfl
      have announced : ByteOrder.big.encode 2 (UInt16.ofNat (ByteOrder.big.decode [high, low])).toNat = [high, low] :=
        ByteOrder.encode_half .big rfl
      refine ⟨⟨isSome_optionalAt .., isSome_optionalAt .., isSome_optionalAt ..⟩, inside, ?_⟩
      simp only [HeaderType.standardLength, HeaderType.bytesIf] at inside
      simp only [encode, headerLength, HeaderType.standardLength, HeaderType.bytesIf, announced]
      rw [optionalBytes_optionalAt (by omega), optionalBytes_optionalAt (by omega),
        optionalBytes_optionalAt (by omega), List.take_add, List.take_add, List.take_add, fixed]
    · cases parsed
  · cases parsed

theorem appends_put (consistent : Consistent header) :
    Lent.Appends header.put [] header.encode header.headerLength := by
  have whole : header.encode = [header.type] ++ ([header.count] ++ (ByteOrder.big.encode 2 header.length.toNat
      ++ (optionalBytes header.ecuId ++ (optionalBytes header.session ++ optionalBytes header.ticks)))) := by
    simp only [encode, List.append_assoc, List.cons_append, List.nil_append]
  have total : header.headerLength = ([] ++ [header.type] ++ [header.count]
      ++ ByteOrder.big.encode 2 header.length.toNat ++ optionalBytes header.ecuId ++ optionalBytes header.session
      ++ optionalBytes header.ticks).length := by
    rw [← length_encode consistent, whole]
    simp only [List.nil_append, List.append_assoc]
  rw [put, total, whole]
  apply Lent.appends_bind (Lent.appends_putAt rfl)
  apply Lent.appends_bind (Lent.appends_putAt rfl)
  apply Lent.appends_bind (Lent.appends_putAt rfl)
  apply Lent.appends_bind (Lent.appends_putOptional rfl header.ecuId)
  apply Lent.appends_bind (Lent.appends_putOptional rfl header.session)
  exact Lent.appends_putOptional rfl header.ticks

def kind : HeaderKind StandardHeader := ⟨Consistent, headerLength, encode, parse, write, put⟩

theorem lawful : kind.Lawful where
  length_encode := length_encode
  parse_encode := parse_encode
  front_of_parse := front_of_parse
  write_eq := fun {header} consistent buffer => by
    have measured : header.write buffer =
        if buffer.hasAtLeast header.headerLength then .ok (header.headerLength, Bytes.overwrite buffer header.encode)
        else .error (.bufferTooSmall header.headerLength buffer.length) := by
      rw [write, length_encode consistent]
    exact measured.trans (Bytes.if_hasAtLeast ..)
  appends_put := appends_put

end StandardHeader

namespace ExtendedHeader

variable {buffer : Bytes} {header : ExtendedHeader}

theorem front_of_parse (parsed : parse buffer = .ok header) :
    length ≤ buffer.length ∧ header.encode = buffer.take length := by
  unfold parse at parsed
  split at parsed
  · rename_i info argumentCount rest
    split at parsed
    · rename_i long
      cases parsed
      have inside := (Bytes.hasAtLeast_iff _ _).mp long
      have fixed : (info :: argumentCount :: rest).take 2 = [info, argumentCount] := rfl
      have split_length : length = 2 + 4 + 4 := rfl
      refine ⟨inside, ?_⟩
      rw [split_length] at inside ⊢
      simp only [encode]
      rw [StandardHeader.encode_numberAt (by omega), StandardHeader.encode_numberAt (by omega), List.take_add,
        List.take_add, fixed]
      rfl
    · cases parsed
  · cases parsed

def put (header : ExtendedHeader) : Lent Nat := do
  Lent.putAt 0 [header.info]
  Lent.putAt 1 [header.argumentCount]
  Lent.putAt 2 (ByteOrder.big.encode 4 header.appId.toNat)
  Lent.putAt 6 (ByteOrder.big.encode 4 header.ctxId.toNat)
  return length

theorem appends_put (header : ExtendedHeader) : Lent.Appends header.put [] header.encode length := by
  have whole : header.encode = [header.info] ++ ([header.argumentCount]
      ++ (ByteOrder.big.encode 4 header.appId.toNat ++ (ByteOrder.big.encode 4 header.ctxId.toNat ++ []))) := by
    simp only [encode, List.cons_append, List.nil_append, List.append_nil]
  rw [whole]
  apply Lent.appends_bind (Lent.appends_putAt rfl)
  apply Lent.appends_bind (Lent.appends_putAt rfl)
  apply Lent.appends_bind (Lent.appends_putAt rfl)
  apply Lent.appends_bind (Lent.appends_putAt rfl)
  exact Lent.appends_pure length

def kind : HeaderKind ExtendedHeader := ⟨fun _ => True, fun _ => length, encode, parse, write, put⟩

theorem lawful : kind.Lawful where
  length_encode := fun _ => length_encode _
  parse_encode := fun _ => parse_encode _
  front_of_parse := fun parsed => ⟨trivial, front_of_parse parsed⟩
  write_eq := fun _ _ => Bytes.if_hasAtLeast ..
  appends_put := fun _ => appends_put _

end ExtendedHeader

namespace StorageHeader

variable {buffer : Bytes} {header : StorageHeader}

theorem front_of_parse (parsed : parse buffer = .ok header) :
    length ≤ buffer.length ∧ header.encode = buffer.take length := by
  unfold parse at parsed
  split at parsed
  · cases parsed
  · rename_i long
    split at parsed
    · cases parsed
    · rename_i marked
      cases parsed
      rw [Bool.not_eq_true, Bool.not_eq_false'] at long
      rw [Bool.not_eq_true, bne_eq_false_iff_eq] at marked
      have inside := (Bytes.hasAtLeast_iff _ _).mp long
      have split_length : length = 4 + 4 + 4 + 4 := rfl
      have word_length : ∀ offset ≤ 12, ((buffer.drop offset).take 4).length = 4 := by
        intro offset inside_offset
        rw [List.length_take, List.length_drop]
        omega
      refine ⟨inside, ?_⟩
      rw [split_length] at inside ⊢
      simp only [encode]
      rw [ByteOrder.encode_word .little (word_length 4 (by omega)),
        ByteOrder.encode_word .little (word_length 8 (by omega)), StandardHeader.encode_numberAt (by omega),
        List.take_add, List.take_add, List.take_add, marked]

def put (header : StorageHeader) : Lent Nat := do
  Lent.putAt 0 marker
  Lent.putAt 4 (ByteOrder.little.encode 4 header.seconds.toNat)
  Lent.putAt 8 (ByteOrder.little.encode 4 header.microseconds.toNat)
  Lent.putAt 12 (ByteOrder.big.encode 4 header.ecuId.toNat)
  return length

theorem appends_put (header : StorageHeader) : Lent.Appends header.put [] header.encode length := by
  have whole : header.encode = marker ++ (ByteOrder.little.encode 4 header.seconds.toNat
      ++ (ByteOrder.little.encode 4 header.microseconds.toNat
        ++ (ByteOrder.big.encode 4 header.ecuId.toNat ++ []))) := by
    simp only [encode, List.append_assoc, List.append_nil]
  rw [whole]
  apply Lent.appends_bind (Lent.appends_putAt rfl)
  apply Lent.appends_bind (Lent.appends_putAt rfl)
  apply Lent.appends_bind (Lent.appends_putAt rfl)
  apply Lent.appends_bind (Lent.appends_putAt rfl)
  exact Lent.appends_pure length

def kind : HeaderKind StorageHeader := ⟨fun _ => True, fun _ => length, encode, parse, write, put⟩

theorem lawful : kind.Lawful where
  length_encode := fun _ => length_encode _
  parse_encode := fun _ => parse_encode _
  front_of_parse := fun parsed => ⟨trivial, front_of_parse parsed⟩
  write_eq := fun _ _ => Bytes.if_hasAtLeast ..
  appends_put := fun _ => appends_put _

end StorageHeader

theorem StandardHeader.headers_of_validate {buffer : Bytes} {n : Nat} (valid : validate buffer = .ok n)
    (complete : n ≤ buffer.length) :
    ∃ header, parse buffer = .ok header ∧ header.headerLength ≤ n ∧
      (header.hasExtended = true → ∃ extended,
        ExtendedHeader.parse (buffer.drop header.headerLength) = .ok extended ∧
        header.headerLength + ExtendedHeader.length ≤ n) := by
  obtain ⟨header, parsed, covered⟩ := parse_of_validate valid complete
  rw [announcedHeaders] at covered
  refine ⟨header, parsed, Nat.le_of_add_right_le covered, fun more => ?_⟩
  rw [if_pos more] at covered
  have long : ExtendedHeader.length ≤ (buffer.drop header.headerLength).length := by
    rw [List.length_drop]
    omega
  obtain ⟨extended, read⟩ := ExtendedHeader.parse_of_length long
  exact ⟨extended, read, covered⟩

namespace HeaderKind

/-- Every kind of header is read back from where it was written, into any buffer with room for it, and written back as
it was read; and the headers of a packet whose first bytes are valid are all there and end inside of it. -/
theorem headers_come_back_both_ways :
    StandardHeader.kind.Inverse ∧ ExtendedHeader.kind.Inverse ∧ StorageHeader.kind.Inverse ∧
    ∀ (buffer : Bytes) (n : Nat), StandardHeader.validate buffer = .ok n → n ≤ buffer.length →
      ∃ header, StandardHeader.parse buffer = .ok header ∧ header.headerLength ≤ n ∧
        (header.hasExtended = true → ∃ extended,
          ExtendedHeader.parse (buffer.drop header.headerLength) = .ok extended ∧
          header.headerLength + ExtendedHeader.length ≤ n) := by
  refine ⟨StandardHeader.lawful.inverse, ExtendedHeader.lawful.inverse, StorageHeader.lawful.inverse, ?_⟩
  intro buffer n valid complete
  exact StandardHeader.headers_of_validate valid complete

def announcing : StandardHeader :=
  { type := 0x35, count := 7, length := 22, ecuId := some 0x45435531, session := none, ticks := some 12345 }

theorem announcing_comes_back :
    StandardHeader.kind.Proper announcing ∧
    announcing.write (List.replicate 11 0xFF) = .error (.bufferTooSmall 12 11) ∧
    (∃ after, announcing.write (List.replicate 14 0xFF) = .ok (12, after) ∧ after.drop 12 = [0xFF, 0xFF] ∧
      StandardHeader.parse after = .ok announcing) ∧
    StandardHeader.validate (announcing.encode ++ List.replicate 10 0) = .ok 22 ∧
    ∃ header, StandardHeader.parse (announcing.encode ++ List.replicate 10 0) = .ok header ∧
      header.headerLength ≤ 22 := by
  obtain ⟨standard, _, _, covered⟩ := headers_come_back_both_ways
  have proper : StandardHeader.kind.Proper announcing := StandardHeader.Consistent.mk rfl rfl rfl
  have refused := (standard.short announcing (List.replicate 11 0xFF) proper (by decide)).1
  obtain ⟨after, written, _, _, untouched, read⟩ :=
    standard.long announcing (List.replicate 14 0xFF) proper (by decide)
  have valid : StandardHeader.validate (announcing.encode ++ List.replicate 10 0) = .ok 22 := rfl
  obtain ⟨header, parsed, inside, _⟩ := covered _ _ valid (by decide)
  exact ⟨proper, refused, ⟨after, written, untouched, read⟩, valid, header, parsed, inside⟩

end HeaderKind

end DiagTrace
