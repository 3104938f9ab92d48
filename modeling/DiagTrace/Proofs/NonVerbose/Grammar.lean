import DiagTrace.NonVerbose.Codec
import DiagTrace.Proofs.Bytes.Delimiting

/-!
The payloads that a frame accepts. Every wire type finds the end of its value without a look at what follows, so a
payload fits a frame in one way at most: cut into one piece for each slot, each of which is an argument by itself.
-/
namespace DiagTrace

namespace WireType

open Read

variable {order : ByteOrder} {length : UInt16}

theorem readDeclared_ok_iff (what : String) (n : Nat) (cursor : Cursor) (result : Bytes × Cursor) :
    readDeclared what n cursor = .ok result ↔ take n cursor = .ok result := by
  unfold readDeclared take
  split
  · exact Iff.rfl
  · simp only [reduceCtorEq]

theorem delimits_declared (what : String) (n : Nat) : SelfDelimiting (readDeclared what n) free :=
  delimits_congr (readDeclared_ok_iff what n) (delimits_free (delimits_data n))

theorem u16_bind {α : Type} (order : ByteOrder) (next : Nat → Read α) (cursor : Cursor) :
    (u16 order >>= next) cursor =
      if cursor.rest.hasAtLeast 2 = true then next (order.decode (cursor.rest.take 2)) (cursor.advance 2)
      else .error (.truncated 2 cursor.remaining) := by
  change (((take 2 cursor).bind fun read => .ok (order.decode read.1, read.2)).bind fun read => next read.1 read.2) = _
  unfold take
  split
  · rfl
  · rfl

theorem readPrefixed_ok_iff (order : ByteOrder) (what : String) (cursor : Cursor) (result : Bytes × Cursor) :
    readPrefixed order what cursor = .ok result ↔ (u16 order >>= fun n => take n) cursor = .ok result := by
  unfold readPrefixed
  rw [u16_bind]
  simp only [take]
  by_cases counted : cursor.rest.hasAtLeast 2 = true
  · have enough_iff : cursor.rest.hasAtLeast (2 + order.decode (cursor.rest.take 2)) =
        Bytes.hasAtLeast (cursor.rest.drop 2) (order.decode (cursor.rest.take 2)) := by
      rw [Bytes.hasAtLeast_iff] at counted
      rw [Bool.eq_iff_iff, Bytes.hasAtLeast_iff, Bytes.hasAtLeast_iff, List.length_drop]
      omega
    have advanced : cursor.advance (2 + order.decode (cursor.rest.take 2)) =
        (cursor.advance 2).advance (order.decode (cursor.rest.take 2)) := by
      simp only [Cursor.advance, List.drop_drop, Nat.add_assoc]
    have behind : (cursor.advance 2).rest = cursor.rest.drop 2 := rfl
    simp only [counted, ↓reduceIte, enough_iff, advanced, behind]
    split
    · exact Iff.rfl
    · simp only [reduceCtorEq]
  · simp only [if_neg counted, reduceCtorEq]

theorem delimits_prefixed (order : ByteOrder) (what : String) : SelfDelimiting (readPrefixed order what) free := by
  refine delimits_congr (readPrefixed_ok_iff order what) ?_
  apply delimits_bind (delimits_u16 order)
  intro n
  exact delimits_less (delimits_data n) fun _ => Nat.zero_le _

theorem delimits_covered (order : ByteOrder) (what : String) (length : UInt16) :
    SelfDelimiting (readCovered order what length) free := by
  unfold readCovered
  split
  · exact delimits_prefixed order what
  · exact delimits_declared what length.toNat

theorem delimits_fixed (order : ByteOrder) (what : String) (length : UInt16) (size : Nat) :
    SelfDelimiting (readFixed order what length size) free := by
  unfold readFixed
  split
  · exact delimits_refused _ _
  · apply delimits_bind (delimits_covered order what length)
    intro data
    simp only
    split
    · exact delimits_refused _ _
    · exact delimits_pure rfl

theorem delimits_read (order : ByteOrder) (length : UInt16) (type : WireType) :
    SelfDelimiting (type.read order length) free := by
  cases type with
  | bool => exact delimits_last (delimits_fixed _ _ _ _) fun _ => Nat.le_refl _
  | integer display width => exact delimits_last (delimits_fixed _ _ _ _) fun _ => Nat.le_refl _
  | float32 => exact delimits_last (delimits_fixed _ _ _ _) fun _ => Nat.le_refl _
  | float64 => exact delimits_last (delimits_fixed _ _ _ _) fun _ => Nat.le_refl _
  | string coding => exact delimits_last (delimits_prefixed _ _) fun _ => Nat.le_refl _
  | raw => exact delimits_last (delimits_prefixed _ _) fun _ => Nat.le_refl _
  | unknown => exact delimits_last (delimits_covered _ _ _) fun _ => Nat.le_refl _

end WireType

namespace NonVerbose.Codec

open Read

variable {codec : Codec} {order : ByteOrder} {frame : Frame} {pdu : Pdu} {pdus : List Pdu} {data piece : Bytes}
  {argument : Argument} {arguments : List Argument} {pieces : List Bytes}

theorem delimits_readPdu (codec : Codec) (order : ByteOrder) (pdu : Pdu) :
    SelfDelimiting (codec.readPdu order pdu) free := by
  unfold readPdu
  split
  · exact delimits_pure rfl
  · exact WireType.delimits_read _ _ _

theorem decodePdu_ok_iff {used : Nat} :
    codec.decodePdu order pdu data = .ok (argument, used) ↔
      ∃ front tail, data = front ++ tail ∧ front.length = used ∧ Gives (codec.readPdu order pdu) front argument := by
  unfold decodePdu
  constructor
  · intro decoded
    obtain ⟨⟨value, last⟩, read, done⟩ := of_bind decoded
    obtain ⟨front, split, _, given⟩ := delimits_readPdu codec order pdu _ _ _ read
    have again := given last.rest 0
    rw [← split] at again
    have ends : last.position = 0 + front.length :=
      congrArg (fun result : Argument × Cursor => result.2.position) (Except.ok.inj (read.symm.trans again))
    cases done
    exact ⟨front, last.rest, split, by rw [ends, Nat.zero_add], given⟩
  · rintro ⟨front, tail, rfl, rfl, given⟩
    have read := given tail 0
    simp only [Cursor.ofBytes, read, Nat.zero_add, bind, Except.bind, pure, Except.pure]

theorem decodePdu_whole_iff :
    codec.decodePdu order pdu piece = .ok (argument, piece.length) ↔
      Gives (codec.readPdu order pdu) piece argument := by
  rw [decodePdu_ok_iff]
  constructor
  · rintro ⟨front, tail, whole, length, given⟩
    have nothing_behind : tail = [] := by
      rw [whole, List.length_append] at length
      exact List.eq_nil_of_length_eq_zero (by omega)
    rw [whole, nothing_behind, List.append_nil]
    exact given
  · intro given
    exact ⟨piece, [], (List.append_nil piece).symm, rfl, given⟩

/-- Pieces for slots in their order: from each piece by itself an argument is read, and all of the piece is used. -/
inductive Cut (codec : Codec) (order : ByteOrder) : List Pdu → List Bytes → List Argument → Prop where
  | nil : Cut codec order [] [] []
  | cons {pdu : Pdu} {piece : Bytes} {argument : Argument} {pdus : List Pdu} {pieces : List Bytes}
      {arguments : List Argument} (whole : codec.decodePdu order pdu piece = .ok (argument, piece.length))
      (rest : Cut codec order pdus pieces arguments) :
      Cut codec order (pdu :: pdus) (piece :: pieces) (argument :: arguments)

theorem cut_iff_inPieces :
    Cut codec order pdus pieces arguments ↔ InPieces (codec.readPdu order) pdus pieces arguments := by
  constructor
  · intro cut
    induction cut with
    | nil => exact .nil
    | cons whole _ ih => exact .cons (decodePdu_whole_iff.mp whole) ih
  · intro cut
    induction cut with
    | nil => exact .nil
    | cons given _ ih => exact .cons (decodePdu_whole_iff.mpr given) ih

theorem piece_of_description (described : pdu.description.isSome = true)
    (whole : codec.decodePdu order pdu piece = .ok (argument, piece.length)) : piece = [] := by
  obtain ⟨description, there⟩ := Option.isSome_iff_exists.mp described
  unfold decodePdu readPdu at whole
  rw [there] at whole
  cases piece with
  | nil => rfl
  | cons byte piece => cases whole

theorem used_le_length {used : Nat} (decoded : codec.decodePdu order pdu data = .ok (argument, used)) :
    used ≤ data.length := by
  obtain ⟨front, tail, rfl, rfl, _⟩ := decodePdu_ok_iff.mp decoded
  rw [List.length_append]
  exact Nat.le_add_right _ _

theorem readFrame_ok_iff (codec : Codec) (order : ByteOrder) (frame : Frame) (cursor last : Cursor)
    (arguments : List Argument) :
    codec.readFrame order frame cursor = .ok (arguments, last) ↔
      each (codec.readPdu order) frame.pdus cursor = .ok (arguments, last) ∧ last.rest = [] := by
  unfold readFrame
  simp only [bind, StateT.bind, Except.bind]
  cases each (codec.readPdu order) frame.pdus cursor with
  | error fault => simp only [reduceCtorEq, false_and]
  | ok result =>
    obtain ⟨values, behind⟩ := result
    change (if behind.rest.isEmpty = true then pure values else throw _ : Read (List Argument)) behind = _ ↔ _
    split
    · rename_i empty
      rw [List.isEmpty_iff] at empty
      constructor
      · intro finished
        cases finished
        exact ⟨rfl, empty⟩
      · rintro ⟨same, _⟩
        cases same
        rfl
    · rename_i left
      rw [List.isEmpty_iff] at left
      constructor
      · intro impossible
        cases impossible
      · rintro ⟨same, empty⟩
        cases same
        exact absurd empty left

theorem decodeFrame_ok_iff (codec : Codec) (order : ByteOrder) (frame : Frame) (data : Bytes)
    (arguments : List Argument) :
    codec.decodeFrame order frame data = .ok arguments ↔
      ∃ pieces, pieces.flatten = data ∧ Cut codec order frame.pdus pieces arguments := by
  constructor
  · intro decoded
    obtain ⟨⟨values, last⟩, read, done⟩ := of_bind decoded
    cases done
    obtain ⟨read_each, nothing_behind⟩ := (readFrame_ok_iff ..).mp read
    obtain ⟨pieces, cut, split⟩ := each_inPieces (delimits_readPdu codec order) read_each
    rw [nothing_behind, List.append_nil] at split
    exact ⟨pieces, split.symm, cut_iff_inPieces.mpr cut⟩
  · rintro ⟨pieces, rfl, cut⟩
    have read_each := gives_each (cut_iff_inPieces.mp cut) [] 0
    rw [List.append_nil] at read_each
    have read := (readFrame_ok_iff codec order frame ..).mpr ⟨read_each, rfl⟩
    simp only [decodeFrame, Cursor.ofBytes, read, bind, Except.bind, pure, Except.pure]

section Slices

def slice? (data : Bytes) (offset : Nat) : Option Bytes :=
  if offset ≤ data.length then some (data.drop offset) else none

/-- The arguments of slots, each read from the slice behind the bytes that those before it reported as used, and the
offset behind the last. There is no result at all where a slice would start outside of the data. -/
def readSlices? (codec : Codec) (order : ByteOrder) (data : Bytes) :
    List Pdu → Nat → Option (Except Fault (List Argument × Nat))
  | [], offset => some (.ok ([], offset))
  | pdu :: pdus, offset => do
    let rest ← slice? data offset
    match codec.decodePdu order pdu rest with
    | .error fault => return .error fault
    | .ok (argument, used) =>
      let behind ← readSlices? codec order data pdus (offset + used)
      return behind.map fun (arguments, last) => (argument :: arguments, last)

theorem slice?_of_le {offset : Nat} (within : offset ≤ data.length) : slice? data offset = some (data.drop offset) :=
  if_pos within

theorem readSlices?_within (codec : Codec) (order : ByteOrder) (pdus : List Pdu) {offset : Nat}
    (within : offset ≤ data.length) :
    ∃ result, readSlices? codec order data pdus offset = some result ∧ ∀ arguments last,
      result = .ok (arguments, last) → ∃ pieces tail, data.drop offset = pieces.flatten ++ tail ∧
        Cut codec order pdus pieces arguments ∧ last = offset + pieces.flatten.length := by
  -- The induction is on the slots; the offset stays within the data, since no slot uses more than its slice.
  induction pdus generalizing offset with
  | nil =>
    refine ⟨.ok ([], offset), rfl, fun arguments last done => ?_⟩
    cases done
    exact ⟨[], data.drop offset, rfl, .nil, rfl⟩
  | cons pdu pdus ih =>
    simp only [readSlices?, slice?_of_le within, Option.bind_eq_bind, Option.bind_some]
    cases decoded : codec.decodePdu order pdu (data.drop offset) with
    | error fault => exact ⟨.error fault, rfl, fun _ _ impossible => nomatch impossible⟩
    | ok result =>
      obtain ⟨argument, used⟩ := result
      obtain ⟨front, tail, split, rfl, given⟩ := decodePdu_ok_iff.mp decoded
      have inside : offset + front.length ≤ data.length := by
        have lengths := congrArg List.length split
        rw [List.length_drop, List.length_append] at lengths
        omega
      obtain ⟨behind, read, cuts⟩ := ih inside
      refine ⟨behind.map fun result => (argument :: result.1, result.2), ?_, fun arguments last done => ?_⟩
      · simp only [read, Option.bind_some]
        rfl
      obtain ⟨⟨others, ends⟩, rest, same⟩ := ok_of_map done
      cases same
      obtain ⟨pieces, more, split_rest, cut, rfl⟩ := cuts others _ rest
      rw [← List.drop_drop, split, List.drop_left] at split_rest
      refine ⟨front :: pieces, more, ?_, .cons (decodePdu_whole_iff.mpr given) cut, ?_⟩
      · rw [split, split_rest, List.flatten_cons, List.append_assoc]
      · rw [List.flatten_cons, List.length_append, Nat.add_assoc]

theorem readSlices?_of_cut {tail : Bytes} (cut : Cut codec order pdus pieces arguments) {offset : Nat}
    (within : offset ≤ data.length) (split : data.drop offset = pieces.flatten ++ tail) :
    readSlices? codec order data pdus offset = some (.ok (arguments, offset + pieces.flatten.length)) := by
  induction cut generalizing offset with
  | nil => rfl
  | @cons pdu piece argument pdus pieces arguments whole rest ih =>
    rw [List.flatten_cons, List.append_assoc] at split
    have inside : offset + piece.length ≤ data.length := by
      have lengths := congrArg List.length split
      rw [List.length_drop, List.length_append] at lengths
      omega
    have behind : data.drop (offset + piece.length) = pieces.flatten ++ tail := by
      rw [← List.drop_drop, split, List.drop_left]
    have decoded := decodePdu_ok_iff.mpr ⟨piece, _, split, rfl, decodePdu_whole_iff.mp whole⟩
    simp only [readSlices?, slice?_of_le within, decoded, ih inside behind, Option.bind_eq_bind, Option.bind_some,
      List.flatten_cons, List.length_append, Nat.add_assoc]
    rfl

end Slices

/-- A frame accepts exactly the payloads that can be cut into one piece for each slot so that every piece is read as an
argument by itself, with no bytes of it left; the piece of a fixed text is empty. There is one such cut at most, and the
arguments are those of its pieces. No slot uses more bytes than it is given, so that reading slot after slot from slices
of the payload never leaves it, and payloads that fit two frames fit, one behind the other, the slots of both. -/
theorem frame_accepts_one_cut (codec : Codec) (order : ByteOrder) (frame : Frame) (data : Bytes) :
    (∀ arguments, codec.decodeFrame order frame data = .ok arguments ↔
      ∃ pieces, pieces.flatten = data ∧ Cut codec order frame.pdus pieces arguments) ∧
    (∀ pieces parts arguments others, pieces.flatten = data → Cut codec order frame.pdus pieces arguments →
      parts.flatten = data → Cut codec order frame.pdus parts others → pieces = parts ∧ arguments = others) ∧
    (∀ pdu piece argument, pdu.description.isSome = true →
      codec.decodePdu order pdu piece = .ok (argument, piece.length) → piece = []) ∧
    (∀ pdu bytes argument used, codec.decodePdu order pdu bytes = .ok (argument, used) → used ≤ bytes.length) ∧
    (∃ result, readSlices? codec order data frame.pdus 0 = some result ∧ ∀ arguments,
      codec.decodeFrame order frame data = .ok arguments ↔ result = .ok (arguments, data.length)) ∧
    (∀ arguments (second both : Frame) more others, codec.decodeFrame order frame data = .ok arguments →
      codec.decodeFrame order second more = .ok others → both.pdus = frame.pdus ++ second.pdus →
      codec.decodeFrame order both (data ++ more) = .ok (arguments ++ others)) := by
  refine ⟨codec.decodeFrame_ok_iff order frame data, ?_, fun _ _ _ => piece_of_description,
    fun _ _ _ _ => used_le_length, ?_, ?_⟩
  · intro pieces parts arguments others whole cut whole_parts other
    have same : pieces.flatten ++ [] = parts.flatten ++ [] := by rw [whole, whole_parts]
    exact InPieces.unique (cut_iff_inPieces.mp cut) (cut_iff_inPieces.mp other) same
  · obtain ⟨result, read, cuts⟩ := readSlices?_within codec order frame.pdus (Nat.zero_le data.length)
    refine ⟨result, read, fun arguments => ?_⟩
    rw [decodeFrame_ok_iff]
    constructor
    · rintro ⟨pieces, rfl, cut⟩
      have whole : pieces.flatten.drop 0 = pieces.flatten ++ [] := by rw [List.drop_zero, List.append_nil]
      rw [readSlices?_of_cut cut (Nat.zero_le _) whole, Nat.zero_add] at read
      exact (Option.some.inj read).symm
    · intro done
      obtain ⟨pieces, tail, split, cut, ends⟩ := cuts arguments data.length done
      rw [List.drop_zero] at split
      have nothing_behind : tail = [] := by
        have lengths := congrArg List.length split
        rw [List.length_append] at lengths
        exact List.eq_nil_of_length_eq_zero (by omega)
      exact ⟨pieces, by rw [split, nothing_behind, List.append_nil], cut⟩
  · intro arguments second both more others first_decoded second_decoded slots
    obtain ⟨pieces, rfl, cut⟩ := (codec.decodeFrame_ok_iff order frame data arguments).mp first_decoded
    obtain ⟨parts, rfl, other⟩ := (codec.decodeFrame_ok_iff order second more others).mp second_decoded
    refine (codec.decodeFrame_ok_iff ..).mpr ⟨pieces ++ parts, List.flatten_append, ?_⟩
    rw [slots, cut_iff_inPieces]
    exact (cut_iff_inPieces.mp cut).append (cut_iff_inPieces.mp other)

def fewTypes : Codec := ⟨[("S_UINT8", .integer .unsigned .w8), ("S_STRG_ASCII", .string .eightBit)], none⟩

def mixedFrame : Frame :=
  { Frame.plain 9 with pdus := [.text "t = ", .value "S_UINT8" 3, .value "S_STRG_ASCII" 0, .value "S_OTHER" 2] }

theorem mixedFrame_cut :
    Cut fewTypes .little mixedFrame.pdus [[], [7, 255, 255], [3, 0, 104, 105, 0], [171, 205]]
      [.string "t = " .eightBit, .unsigned 7 .w8 none, .string "hi" .eightBit, .unknown none [171, 205]] :=
  .cons rfl (.cons rfl (.cons rfl (.cons rfl .nil)))

theorem mixedFrame_accepts :
    fewTypes.decodeFrame .little mixedFrame [7, 255, 255, 3, 0, 104, 105, 0, 171, 205] =
      .ok [.string "t = " .eightBit, .unsigned 7 .w8 none, .string "hi" .eightBit, .unknown none [171, 205]] ∧
    (∀ pieces arguments, pieces.flatten = [7, 255, 255, 3, 0, 104, 105, 0, 171, 205] →
      Cut fewTypes .little mixedFrame.pdus pieces arguments →
        [[], [7, 255, 255], [3, 0, 104, 105, 0], [171, 205]] = pieces) ∧
    fewTypes.decodeFrame .little { mixedFrame with pdus := mixedFrame.pdus ++ [.text "end"] }
        ([7, 255, 255, 3, 0, 104, 105, 0, 171, 205] ++ []) =
      .ok ([.string "t = " .eightBit, .unsigned 7 .w8 none, .string "hi" .eightBit, .unknown none [171, 205]]
        ++ [.string "end" .eightBit]) := by
  obtain ⟨accepts, one, -, -, -, joined⟩ :=
    frame_accepts_one_cut fewTypes .little mixedFrame [7, 255, 255, 3, 0, 104, 105, 0, 171, 205]
  have accepted := (accepts _).mpr ⟨_, rfl, mixedFrame_cut⟩
  have text_alone : fewTypes.decodeFrame .little { mixedFrame with pdus := [.text "end"] } [] =
      .ok [.string "end" .eightBit] := rfl
  exact ⟨accepted, fun pieces arguments whole cut => (one _ _ _ _ rfl mixedFrame_cut whole cut).1,
    joined _ _ _ _ _ accepted text_alone rfl⟩

end NonVerbose.Codec

end DiagTrace
