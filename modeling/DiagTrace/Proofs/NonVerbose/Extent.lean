import DiagTrace.Proofs.NonVerbose.Grammar

/-!
How far a slot reaches. A slot says how many bytes it covers, or it says nothing and their number stands in front of
them. The value is that of the bytes covered, in whichever way they were found (`read_declared_iff`,
`read_counted_iff`). Texts and raw bytes pay no attention to what the slot says: their number is always there.
-/
namespace DiagTrace

theorem Read.last_ok_iff {α β : Type} {step : Read α} {f : α → β} {cursor last : Cursor} {value : β} :
    (step >>= fun x => pure (f x)) cursor = .ok (value, last) ↔
      ∃ x, step cursor = .ok (x, last) ∧ value = f x := by
  constructor
  · intro read
    obtain ⟨⟨x, behind⟩, found, rest⟩ := of_bind read
    cases rest
    exact ⟨x, found, rfl⟩
  · rintro ⟨x, found, rfl⟩
    simp only [bind, StateT.bind, Except.bind, found]
    rfl

namespace WireType

variable {order : ByteOrder} {what : String} {length : UInt16} {size n : Nat} {cursor last : Cursor}
  {covered front : Bytes} {argument : Argument} {type : WireType}

def isCounted : WireType → Bool
  | string _ | raw => true
  | bool | integer _ _ | float32 | float64 | unknown => false

def leastSize : WireType → Nat
  | bool => 1
  | integer _ width => width.bytes
  | float32 => 4
  | float64 => 8
  | string _ | raw | unknown => 0

/-- The value of the bytes that a slot covers. Of more bytes than a value of fixed size needs, the last do not count. -/
def valueOf (order : ByteOrder) (covered : Bytes) : WireType → Argument
  | bool => .bool ((covered.take 1).head? != some 0)
  | integer display width => integerValue display width (order.decode (covered.take width.bytes))
  | float32 => .float32 (UInt32.ofNat (order.decode (covered.take 4)))
  | float64 => .float64 (UInt64.ofNat (order.decode (covered.take 8)))
  | string coding => stringValue coding (Verbose.withoutTerminator covered)
  | raw => .raw covered
  | unknown => .unknown none covered

theorem readDeclared_iff :
    readDeclared what n cursor = .ok (covered, last) ↔
      n ≤ cursor.rest.length ∧ covered = cursor.rest.take n ∧ last = cursor.advance n := by
  rw [← Bytes.hasAtLeast_iff]
  unfold readDeclared
  split
  · rename_i enough
    constructor
    · intro read
      cases read
      exact ⟨enough, rfl, rfl⟩
    · rintro ⟨_, rfl, rfl⟩
      rfl
  · rename_i lacking
    constructor
    · intro impossible
      cases impossible
    · intro found
      exact absurd found.1 lacking

theorem readPrefixed_iff (what : String) :
    readPrefixed order what cursor = .ok (covered, last) ↔
      2 + order.decode (cursor.rest.take 2) ≤ cursor.rest.length ∧
        covered = (cursor.rest.drop 2).take (order.decode (cursor.rest.take 2)) ∧
        last = cursor.advance (2 + order.decode (cursor.rest.take 2)) := by
  unfold readPrefixed
  by_cases counted : cursor.rest.hasAtLeast 2 = true
  · simp only [counted, ↓reduceIte]
    rw [← Bytes.hasAtLeast_iff]
    split
    · rename_i enough
      constructor
      · intro read
        cases read
        exact ⟨enough, rfl, rfl⟩
      · rintro ⟨_, rfl, rfl⟩
        rfl
    · rename_i lacking
      constructor
      · intro impossible
        cases impossible
      · intro found
        exact absurd found.1 lacking
  · simp only [if_neg counted]
    rw [Bytes.hasAtLeast_iff] at counted
    constructor
    · intro impossible
      cases impossible
    · intro found
      omega

theorem readCovered_declared (declared : length ≠ 0) :
    readCovered order what length = readDeclared what length.toNat := by
  have said : (length == 0) = false := beq_false_of_ne declared
  rw [readCovered, said]
  rfl

theorem readFixed_iff :
    readFixed order what length size cursor = .ok (front, last) ↔
      ∃ covered, readCovered order what length cursor = .ok (covered, last) ∧ size ≤ covered.length ∧
        front = covered.take size := by
  unfold readFixed
  split
  · rename_i narrow
    rw [Bool.and_eq_true, bne_iff_ne, decide_eq_true_iff] at narrow
    constructor
    · intro impossible
      cases impossible
    · rintro ⟨covered, read, enough, _⟩
      rw [readCovered_declared narrow.1, readDeclared_iff] at read
      obtain ⟨_, rfl, _⟩ := read
      rw [List.length_take] at enough
      omega
  · constructor
    · intro read
      obtain ⟨⟨covered, behind⟩, found, rest⟩ := of_bind read
      simp only at rest
      split at rest
      · cases rest
      · rename_i enough
        cases rest
        exact ⟨covered, found, by omega, rfl⟩
    · rintro ⟨covered, found, enough, rfl⟩
      have wide : ¬ covered.length < size := by omega
      simp only [bind, StateT.bind, Except.bind, found, if_neg wide]
      rfl

/-- Whatever its type, an argument is the value of the bytes that its slot covers. -/
theorem read_iff (Covers : Bytes → Cursor → Prop)
    (covers : ∀ what covered last, (if type.isCounted then readPrefixed order what else readCovered order what length)
      cursor = .ok (covered, last) ↔ Covers covered last) :
    type.read order length cursor = .ok (argument, last) ↔
      ∃ covered, Covers covered last ∧ type.leastSize ≤ covered.length ∧ argument = valueOf order covered type := by
  have fixed : ∀ (what : String) (size : Nat) (value : Bytes → Argument), type.isCounted = false →
      ((readFixed order what length size >>= fun front => pure (value front)) cursor = .ok (argument, last) ↔
        ∃ covered, Covers covered last ∧ size ≤ covered.length ∧ argument = value (covered.take size)) := by
    intro what size value uncounted
    rw [Read.last_ok_iff]
    constructor
    · rintro ⟨front, read, rfl⟩
      obtain ⟨covered, found, enough, rfl⟩ := readFixed_iff.mp read
      have given := covers what covered last
      rw [uncounted] at given
      exact ⟨covered, given.mp found, enough, rfl⟩
    · rintro ⟨covered, found, enough, rfl⟩
      have given := covers what covered last
      rw [uncounted] at given
      exact ⟨covered.take size, readFixed_iff.mpr ⟨covered, given.mpr found, enough, rfl⟩, rfl⟩
  have whole : ∀ (what : String) (value : Bytes → Argument),
      (((if type.isCounted then readPrefixed order what else readCovered order what length) >>=
        fun covered => pure (value covered)) cursor = .ok (argument, last) ↔
          ∃ covered, Covers covered last ∧ 0 ≤ covered.length ∧ argument = value covered) := by
    intro what value
    rw [Read.last_ok_iff]
    simp only [covers, Nat.zero_le, true_and]
  cases type with
  | bool => exact fixed _ 1 _ rfl
  | integer display width => exact fixed _ width.bytes _ rfl
  | float32 => exact fixed _ 4 _ rfl
  | float64 => exact fixed _ 8 _ rfl
  | string coding => exact whole "string" _
  | raw => exact whole "raw" _
  | unknown => exact whole "unknown argument" _

theorem read_declared_iff (uncounted : type.isCounted = false) (declared : length ≠ 0) :
    type.read order length cursor = .ok (argument, last) ↔
      length.toNat ≤ cursor.rest.length ∧ type.leastSize ≤ length.toNat ∧
        argument = valueOf order (cursor.rest.take length.toNat) type ∧ last = cursor.advance length.toNat := by
  rw [read_iff (fun covered last =>
    length.toNat ≤ cursor.rest.length ∧ covered = cursor.rest.take length.toNat ∧ last = cursor.advance length.toNat)]
  · constructor
    · rintro ⟨covered, ⟨there, rfl, rfl⟩, enough, rfl⟩
      rw [List.length_take_of_le there] at enough
      exact ⟨there, enough, rfl, rfl⟩
    · rintro ⟨there, enough, rfl, rfl⟩
      rw [← List.length_take_of_le there] at enough
      exact ⟨_, ⟨there, rfl, rfl⟩, enough, rfl⟩
  · intro what covered last
    rw [uncounted, if_neg Bool.false_ne_true, readCovered_declared declared, readDeclared_iff]

theorem read_counted_iff (counted : type.isCounted = true ∨ length = 0) :
    type.read order length cursor = .ok (argument, last) ↔
      ∃ n, n = order.decode (cursor.rest.take 2) ∧ 2 + n ≤ cursor.rest.length ∧ type.leastSize ≤ n ∧
        argument = valueOf order ((cursor.rest.drop 2).take n) type ∧ last = cursor.advance (2 + n) := by
  rw [read_iff (fun covered last => 2 + order.decode (cursor.rest.take 2) ≤ cursor.rest.length ∧
    covered = (cursor.rest.drop 2).take (order.decode (cursor.rest.take 2)) ∧
    last = cursor.advance (2 + order.decode (cursor.rest.take 2)))]
  · have length_covered : 2 + order.decode (cursor.rest.take 2) ≤ cursor.rest.length →
        ((cursor.rest.drop 2).take (order.decode (cursor.rest.take 2))).length =
          order.decode (cursor.rest.take 2) := by
      intro there
      rw [List.length_take, List.length_drop]
      omega
    constructor
    · rintro ⟨covered, ⟨there, rfl, rfl⟩, enough, rfl⟩
      rw [length_covered there] at enough
      exact ⟨_, rfl, there, enough, rfl, rfl⟩
    · rintro ⟨n, rfl, there, enough, rfl, rfl⟩
      rw [← length_covered there] at enough
      exact ⟨_, ⟨there, rfl, rfl⟩, enough, rfl⟩
  · intro what covered last
    rw [← readPrefixed_iff what]
    rcases counted with always | rfl
    · rw [always, if_pos rfl]
    · have unsaid : readCovered order what 0 = readPrefixed order what := rfl
      rw [unsaid, ite_self]

end WireType

namespace NonVerbose.Codec

variable {codec : Codec} {order : ByteOrder} {pdu : Pdu} {data : Bytes} {argument : Argument} {used : Nat}

def typeOf (codec : Codec) (pdu : Pdu) : WireType := (codec.find? pdu.type).getD .unknown

theorem decodePdu_of_read (plain : pdu.description = none) :
    codec.decodePdu order pdu data = .ok (argument, used) ↔
      ∃ last, (codec.typeOf pdu).read order pdu.length (.ofBytes data) = .ok (argument, last) ∧
        used = last.position := by
  unfold decodePdu readPdu
  rw [plain]
  constructor
  · intro decoded
    obtain ⟨⟨value, last⟩, read, done⟩ := of_bind decoded
    cases done
    exact ⟨last, read, rfl⟩
  · rintro ⟨last, read, rfl⟩
    have found : ((codec.find? pdu.type).getD .unknown).read order pdu.length (.ofBytes data) =
      .ok (argument, last) := read
    simp only [found, bind, Except.bind, pure, Except.pure]

theorem decodePdu_declared_iff (plain : pdu.description = none) (uncounted : (codec.typeOf pdu).isCounted = false)
    (declared : pdu.length ≠ 0) :
    codec.decodePdu order pdu data = .ok (argument, used) ↔
      used = pdu.length.toNat ∧ used ≤ data.length ∧ (codec.typeOf pdu).leastSize ≤ used ∧
        argument = (codec.typeOf pdu).valueOf order (data.take used) := by
  rw [decodePdu_of_read plain]
  simp only [WireType.read_declared_iff uncounted declared]
  constructor
  · rintro ⟨last, ⟨there, enough, rfl, rfl⟩, rfl⟩
    rw [Cursor.advance, Cursor.ofBytes, Nat.zero_add]
    exact ⟨rfl, there, enough, rfl⟩
  · rintro ⟨rfl, there, enough, rfl⟩
    exact ⟨_, ⟨there, enough, rfl, rfl⟩, (Nat.zero_add _).symm⟩

theorem decodePdu_counted_iff (plain : pdu.description = none)
    (counted : (codec.typeOf pdu).isCounted = true ∨ pdu.length = 0) :
    codec.decodePdu order pdu data = .ok (argument, used) ↔
      ∃ n, n = order.decode (data.take 2) ∧ used = 2 + n ∧ used ≤ data.length ∧
        (codec.typeOf pdu).leastSize ≤ n ∧ argument = (codec.typeOf pdu).valueOf order ((data.drop 2).take n) := by
  rw [decodePdu_of_read plain]
  simp only [WireType.read_counted_iff counted]
  constructor
  · rintro ⟨last, ⟨n, same, there, enough, rfl, rfl⟩, rfl⟩
    rw [Cursor.advance, Cursor.ofBytes, Nat.zero_add]
    exact ⟨n, same, rfl, there, enough, rfl⟩
  · rintro ⟨n, same, rfl, there, enough, rfl⟩
    exact ⟨_, ⟨n, same, there, enough, rfl, rfl⟩, (Nat.zero_add _).symm⟩

theorem decodePdu_unsaid (plain : pdu.description = none) (uncounted : (codec.typeOf pdu).isCounted = false)
    (declared : pdu.length ≠ 0) {value : Bytes} (whole : value.length = pdu.length.toNat) (tail : Bytes) :
    ((codec.decodePdu order pdu (value ++ tail)).map Prod.fst).toOption =
      ((codec.decodePdu order { pdu with length := 0 } (order.encode 2 value.length ++ (value ++ tail))).map
        Prod.fst).toOption := by
  have fits : value.length < Bytes.capacity 2 := by
    have small := pdu.length.toNat_lt
    rw [whole]
    exact small
  have number : (order.encode 2 value.length ++ (value ++ tail)).take 2 = order.encode 2 value.length :=
    List.take_left' (ByteOrder.length_encode order 2 value.length)
  have behind : ((order.encode 2 value.length ++ (value ++ tail)).drop 2).take value.length = value := by
    rw [List.drop_left' (ByteOrder.length_encode order 2 value.length), List.take_left]
  have front : (value ++ tail).take value.length = value := List.take_left
  have same : ∀ argument,
      (∃ used, codec.decodePdu order pdu (value ++ tail) = .ok (argument, used)) ↔
        ∃ used, codec.decodePdu order { pdu with length := 0 } (order.encode 2 value.length ++ (value ++ tail)) =
          .ok (argument, used) := by
    intro argument
    have unsaid : ({ pdu with length := 0 } : Pdu).description = none := plain
    simp only [decodePdu_declared_iff plain uncounted declared, decodePdu_counted_iff unsaid (.inr rfl), number,
      ByteOrder.decode_encode, Nat.mod_eq_of_lt fits]
    constructor
    · rintro ⟨used, rfl, _, enough, rfl⟩
      rw [← whole] at enough ⊢
      refine ⟨_, _, rfl, rfl, ?_, enough, ?_⟩
      · simp only [List.length_append, ByteOrder.length_encode]
        omega
      · rw [behind, front]
        rfl
    · rintro ⟨_, _, rfl, rfl, _, enough, rfl⟩
      refine ⟨_, rfl, ?_, ?_, ?_⟩
      · rw [← whole, List.length_append]
        exact Nat.le_add_right _ _
      · rw [← whole]
        exact enough
      · rw [← whole, behind, front]
        rfl
  apply Option.ext
  intro argument
  have given : ∀ result : Except Fault (Argument × Nat),
      (result.map Prod.fst).toOption = some argument ↔ ∃ used, result = .ok (argument, used) := by
    intro result
    cases result with
    | error fault => simp [Except.map, Except.toOption]
    | ok read =>
      obtain ⟨found, used⟩ := read
      simp [Except.map, Except.toOption, eq_comm]
  rw [given, given]
  exact same argument

def countedNames : List String := ["S_RAW", "S_RAWD", "S_STRG_ASCII", "S_STRG_UTF8", "S_UTF8"]

theorem isCounted_standard (pdu : Pdu) : (standard.typeOf pdu).isCounted = true ↔ pdu.type ∈ countedNames := by
  have entries : ∀ entry ∈ standardTypes, entry.2.isCounted = true ↔ entry.1 ∈ countedNames := by decide
  unfold typeOf find?
  constructor
  · intro counted
    cases found : standard.types.lookup pdu.type with
    | none =>
      rw [found] at counted
      cases counted
    | some type =>
      rw [found] at counted
      obtain ⟨before, behind, split, _⟩ := List.lookup_eq_some_iff.mp found
      have entry : (pdu.type, type) ∈ standardTypes := by
        have entries_split : standardTypes = before ++ (pdu.type, type) :: behind := split
        rw [entries_split]
        exact List.mem_append_right _ List.mem_cons_self
      exact (entries _ entry).mp counted
  · intro named
    simp only [countedNames, List.mem_cons, List.not_mem_nil, or_false] at named
    rcases named with name | name | name | name | name
    all_goals
      rw [name]
      rfl

/-- A slot without a fixed text that says how many bytes it covers is read from exactly these, and its argument is
their value, unless its type is counted: then, and where the slot says nothing, the bytes covered stand behind their
number, and the argument does not depend on what the slot says. The two forms agree: bytes that a slot covers are
refused, or give an argument, no matter whether the slot says their number or it stands in front of them. Of the
standard types five are counted. -/
theorem slot_covers_what_it_says (codec : Codec) (order : ByteOrder) (pdu : Pdu) (plain : pdu.description = none) :
    (pdu.length ≠ 0 → (codec.typeOf pdu).isCounted = false →
      (∀ data argument used, codec.decodePdu order pdu data = .ok (argument, used) ↔
        used = pdu.length.toNat ∧ used ≤ data.length ∧ (codec.typeOf pdu).leastSize ≤ used ∧
          argument = (codec.typeOf pdu).valueOf order (data.take used)) ∧
      ∀ value tail : Bytes, value.length = pdu.length.toNat →
        ((codec.decodePdu order pdu (value ++ tail)).map Prod.fst).toOption =
          ((codec.decodePdu order { pdu with length := 0 }
            (order.encode 2 value.length ++ (value ++ tail))).map Prod.fst).toOption) ∧
    ((codec.typeOf pdu).isCounted = true ∨ pdu.length = 0 →
      ∀ data argument used, codec.decodePdu order pdu data = .ok (argument, used) ↔
        ∃ n, n = order.decode (data.take 2) ∧ used = 2 + n ∧ used ≤ data.length ∧
          (codec.typeOf pdu).leastSize ≤ n ∧
          argument = (codec.typeOf pdu).valueOf order ((data.drop 2).take n)) ∧
    ((standard.typeOf pdu).isCounted = true ↔ pdu.type ∈ countedNames) := by
  refine ⟨fun declared uncounted => ⟨?_, ?_⟩, ?_, isCounted_standard pdu⟩
  · intro data argument used
    exact decodePdu_declared_iff plain uncounted declared
  · intro value tail whole
    exact decodePdu_unsaid plain uncounted declared whole tail
  · intro counted data argument used
    exact decodePdu_counted_iff plain counted

theorem widerSlot_covers_what_it_says :
    (Pdu.value "S_UINT16" 3).description = none ∧ (Pdu.value "S_RAW" 1).description = none ∧
    standard.decodePdu .big (.value "S_UINT16" 3) [1, 2, 255, 7] = .ok (.unsigned 258 .w16 none, 3) ∧
    ((standard.decodePdu .big (.value "S_UINT16" 0) [0, 3, 1, 2, 255, 7]).map Prod.fst).toOption =
      some (.unsigned 258 .w16 none) ∧
    standard.decodePdu .big (.value "S_RAW" 1) [0, 2, 8, 9, 7] = .ok (.raw [8, 9], 4) := by
  obtain ⟨declared, -, -⟩ := slot_covers_what_it_says standard .big (.value "S_UINT16" 3) rfl
  obtain ⟨-, counted, -⟩ := slot_covers_what_it_says standard .big (.value "S_RAW" 1) rfl
  obtain ⟨covers, agree⟩ := declared (by decide) (by decide)
  have said := (covers [1, 2, 255, 7] (.unsigned 258 .w16 none) 3).mpr ⟨rfl, by decide, by decide, rfl⟩
  have unsaid := agree [1, 2, 255] [7] rfl
  have behind := (counted (.inl (by decide)) [0, 2, 8, 9, 7] (.raw [8, 9]) 4).mpr
    ⟨2, rfl, rfl, by decide, by decide, rfl⟩
  have joined : ([1, 2, 255] ++ [7] : Bytes) = [1, 2, 255, 7] := rfl
  rw [joined, said] at unsaid
  exact ⟨rfl, rfl, said, unsaid.symm, behind⟩

/-- Raw bytes are read from behind a number that their slot has not asked for, and end elsewhere than it says. -/
theorem rawSlot_covers_more_than_it_says :
    standard.decodePdu .little (.value "S_RAW" 1) [1, 0, 7] = .ok (.raw [7], 3) ∧
    ¬ ∀ (pdu : Pdu) (data : Bytes) (argument : Argument) (used : Nat), pdu.description = none → pdu.length ≠ 0 →
      standard.decodePdu .little pdu data = .ok (argument, used) → used = pdu.length.toNat := by
  have read : standard.decodePdu .little (.value "S_RAW" 1) [1, 0, 7] = .ok (.raw [7], 3) := rfl
  refine ⟨read, fun exact_length => ?_⟩
  have used := exact_length (.value "S_RAW" 1) [1, 0, 7] (.raw [7]) 3 rfl (by decide) read
  revert used
  decide

end NonVerbose.Codec

end DiagTrace
