import DiagTrace.Header.Extended
import DiagTrace.Header.Storage

/-! Headers come back from their bytes, whatever follows them. -/
namespace DiagTrace

namespace StandardHeader

theorem numberAt_append (front rest : Bytes) {offset n v : Nat} (length : front.length = offset)
    (fits : v < Bytes.capacity n) : numberAt (front ++ (ByteOrder.big.encode n v ++ rest)) offset n = v := by
  subst length
  rw [numberAt, List.drop_left, List.take_left' (ByteOrder.length_encode .big n v), ByteOrder.decode_encode,
    Nat.mod_eq_of_lt fits]

theorem word_numberAt_append (front rest : Bytes) (offset : Nat) (v : UInt32) (length : front.length = offset) :
    UInt32.ofNat (numberAt (front ++ (ByteOrder.big.encode 4 v.toNat ++ rest)) offset 4) = v := by
  have fits : v.toNat < Bytes.capacity 4 := v.toNat_lt
  rw [numberAt_append front rest length fits, UInt32.ofNat_toNat]

theorem optionalAt_append (front rest : Bytes) (offset : Nat) (value : Option UInt32) {present : Bool}
    (length : front.length = offset) (there : value.isSome = present) :
    optionalAt (front ++ (optionalBytes value ++ rest)) present offset = value := by
  subst there
  cases value with
  | none => rfl
  | some value =>
    rw [optionalAt, Option.isSome_some, if_pos rfl, optionalBytes, word_numberAt_append front rest _ value length]

theorem length_optionalBytes (value : Option UInt32) :
    (optionalBytes value).length = if value.isSome then 4 else 0 := by
  cases value with
  | none => rfl
  | some value => exact ByteOrder.length_encode .big 4 value.toNat

/-- The optional fields are those that the header type announces. -/
structure Consistent (header : StandardHeader) : Prop where
  ecuId : header.ecuId.isSome = HeaderType.has header.type HeaderType.withEcuId
  session : header.session.isSome = HeaderType.has header.type HeaderType.withSession
  ticks : header.ticks.isSome = HeaderType.has header.type HeaderType.withTime

variable {header : StandardHeader}

theorem length_encode (consistent : Consistent header) : header.encode.length = header.headerLength := by
  simp only [encode, headerLength, HeaderType.standardLength, HeaderType.bytesIf, List.cons_append,
    List.length_cons, List.length_append, ByteOrder.length_encode, length_optionalBytes, consistent.ecuId,
    consistent.session, consistent.ticks]
  omega

theorem encode_eq (header : StandardHeader) (rest : Bytes) :
    header.encode ++ rest =
      header.type :: header.count :: UInt8.ofNat (header.length.toNat / 256) :: UInt8.ofNat header.length.toNat
        :: (optionalBytes header.ecuId
          ++ (optionalBytes header.session ++ (optionalBytes header.ticks ++ rest))) := by
  simp only [encode, List.append_assoc, List.cons_append]
  rfl

theorem decode_length (header : StandardHeader) :
    ByteOrder.big.decode [UInt8.ofNat (header.length.toNat / 256), UInt8.ofNat header.length.toNat] =
      header.length.toNat := by
  have fits : header.length.toNat < Bytes.capacity 2 := header.length.toNat_lt
  have same := ByteOrder.decode_encode .big 2 header.length.toNat
  rw [Nat.mod_eq_of_lt fits] at same
  exact same

theorem parse_encode (consistent : Consistent header) (rest : Bytes) :
    parse (header.encode ++ rest) = .ok header := by
  have long : Bytes.hasAtLeast (header.encode ++ rest) (HeaderType.standardLength header.type) = true := by
    rw [Bytes.hasAtLeast_iff, List.length_append, length_encode consistent, headerLength]
    exact Nat.le_add_right _ _
  let first : Bytes := [header.type, header.count, UInt8.ofNat (header.length.toNat / 256),
    UInt8.ofNat header.length.toNat]
  have session_at : (first ++ optionalBytes header.ecuId).length =
      4 + HeaderType.bytesIf header.type HeaderType.withEcuId 4 := by
    rw [List.length_append, length_optionalBytes, consistent.ecuId]
    rfl
  have ticks_at : (first ++ optionalBytes header.ecuId ++ optionalBytes header.session).length =
      4 + HeaderType.bytesIf header.type HeaderType.withEcuId 4
        + HeaderType.bytesIf header.type HeaderType.withSession 4 := by
    rw [List.length_append, session_at, length_optionalBytes, consistent.session]
    rfl
  have ecuId := optionalAt_append first
    (optionalBytes header.session ++ (optionalBytes header.ticks ++ rest)) 4 header.ecuId rfl consistent.ecuId
  have session := optionalAt_append (first ++ optionalBytes header.ecuId)
    (optionalBytes header.ticks ++ rest) _ header.session session_at consistent.session
  have ticks := optionalAt_append (first ++ optionalBytes header.ecuId ++ optionalBytes header.session) rest
    _ header.ticks ticks_at consistent.ticks
  simp only [List.append_assoc] at session ticks
  rw [encode_eq] at long ⊢
  simp only [first, List.cons_append, List.nil_append] at ecuId session ticks
  unfold parse
  simp only [long, ↓reduceIte, ecuId, session, ticks, decode_length, UInt16.ofNat_toNat]

theorem validate_encode (version : header.type &&& HeaderType.versionMask = HeaderType.version1)
    (least : HeaderType.minimumLength header.type ≤ header.length.toNat) (rest : Bytes) :
    validate (header.encode ++ rest) = .ok header.length.toNat := by
  have current : (header.type &&& HeaderType.versionMask != HeaderType.version1) = false := by
    rw [version, bne_self_eq_false]
  rw [encode_eq]
  simp only [validate, current, Bool.false_eq_true, ↓reduceIte, decode_length, Nat.not_lt_of_le least]

end StandardHeader

namespace ExtendedHeader

theorem length_encode (header : ExtendedHeader) : header.encode.length = length := by
  simp [encode, length]

theorem parse_encode (header : ExtendedHeader) (rest : Bytes) : parse (header.encode ++ rest) = .ok header := by
  have long : Bytes.hasAtLeast (header.encode ++ rest) length = true := by
    rw [Bytes.hasAtLeast_iff, List.length_append, length_encode]
    exact Nat.le_add_right _ _
  have appId := StandardHeader.word_numberAt_append [header.info, header.argumentCount]
    (ByteOrder.big.encode 4 header.ctxId.toNat ++ rest) 2 header.appId rfl
  have ctxId := StandardHeader.word_numberAt_append
    ([header.info, header.argumentCount] ++ ByteOrder.big.encode 4 header.appId.toNat) rest 6 header.ctxId
    (by rw [List.length_append, ByteOrder.length_encode, List.length_cons, List.length_singleton])
  simp only [encode, List.append_assoc, List.cons_append, List.nil_append] at long appId ctxId ⊢
  simp only [parse, long, ↓reduceIte, appId, ctxId]

end ExtendedHeader

namespace StorageHeader

theorem length_encode (header : StorageHeader) : header.encode.length = length := by
  simp [encode, length, marker]

theorem parse_encode (header : StorageHeader) (rest : Bytes) : parse (header.encode ++ rest) = .ok header := by
  have long : Bytes.hasAtLeast (header.encode ++ rest) length = true := by
    rw [Bytes.hasAtLeast_iff, List.length_append, length_encode]
    exact Nat.le_add_right _ _
  let seconds := ByteOrder.little.encode 4 header.seconds.toNat
  let microseconds := ByteOrder.little.encode 4 header.microseconds.toNat
  let ecuId := ByteOrder.big.encode 4 header.ecuId.toNat
  have whole : header.encode ++ rest = marker ++ (seconds ++ (microseconds ++ (ecuId ++ rest))) := by
    simp only [encode, List.append_assoc, seconds, microseconds, ecuId]
  have marked : (header.encode ++ rest).take 4 = marker := by
    rw [whole]
    rfl
  have seconds_at : ((header.encode ++ rest).drop 4).take 4 = seconds := by
    rw [whole]
    exact List.take_left' (ByteOrder.length_encode .little 4 _)
  have microseconds_at : ((header.encode ++ rest).drop 8).take 4 = microseconds := by
    have front : (marker ++ seconds).length = 8 := by
      rw [List.length_append, ByteOrder.length_encode]
      rfl
    rw [whole, ← List.append_assoc, List.drop_left' front]
    exact List.take_left' (ByteOrder.length_encode .little 4 _)
  have ecuId_at : UInt32.ofNat (StandardHeader.numberAt (header.encode ++ rest) 12 4) = header.ecuId := by
    have front : (marker ++ seconds ++ microseconds).length = 12 := by
      rw [List.length_append, List.length_append, ByteOrder.length_encode, ByteOrder.length_encode]
      rfl
    have read := StandardHeader.word_numberAt_append (marker ++ seconds ++ microseconds) rest 12 header.ecuId front
    rw [List.append_assoc, List.append_assoc] at read
    rw [whole]
    exact read
  have fits : header.seconds.toNat < Bytes.capacity 4 := header.seconds.toNat_lt
  have short : header.microseconds.toNat < Bytes.capacity 4 := header.microseconds.toNat_lt
  unfold parse
  simp only [long, Bool.not_true, Bool.false_eq_true, ↓reduceIte, marked, bne_self_eq_false, seconds_at,
    microseconds_at, ecuId_at, seconds, microseconds, ByteOrder.decode_encode, Nat.mod_eq_of_lt fits,
    Nat.mod_eq_of_lt short, UInt32.ofNat_toNat]

end StorageHeader

end DiagTrace
