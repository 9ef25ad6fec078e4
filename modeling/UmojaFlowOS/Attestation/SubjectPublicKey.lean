import UmojaFlowOS.Encoding.DefiniteLength

/-!
# The public key bits of a certificate

`_read_der_tlv` and `subject_public_key_bits` of
`scripts/infra/verify_role_sidecar_authorization.py`. The latter is a function of the bytes
that `cert.public_key().public_bytes` returns.
-/

namespace UmojaFlowOS.Attestation

open Crypto Encoding

/-- The length of `_read_der_tlv` and the position after it
(lines 116-123). -/
def readDerLength (data : List UInt8) (lengthByte : UInt8) (offset : Nat) :
    Except String (Nat × Nat) :=
  if lengthByte &&& 0x80 ≠ 0 then
    let count := (lengthByte &&& 0x7F).toNat
    if count = 0 ∨ offset + count > data.length then
      .error "invalid DER length"
    else
      .ok (ofBigEndian (slice data offset (offset + count)), offset + count)
  else
    .ok (lengthByte.toNat, offset)

/-- `_read_der_tlv` (lines 106-127). An offset is a position: the
calls pass 0 and the end of an earlier read. -/
def readDerTlv (data : List UInt8) (offset : Nat) : Except String (UInt8 × List UInt8 × Nat) :=
  match data[offset]? with
  | none => .error "DER truncated before tag"
  | some tag =>
    match data[offset + 1]? with
    | none => .error "DER truncated before length"
    | some lengthByte => do
      let (length, offset) ← readDerLength data lengthByte (offset + 2)
      if offset + length > data.length then
        throw "DER value truncated"
      return (tag, slice data offset (offset + length), offset + length)

/-- `subject_public_key_bits` (lines 130-145). -/
def subjectPublicKeyBits (spki : List UInt8) : Except String (List UInt8) := do
  let (seqTag, seqValue, stop) ← readDerTlv spki 0
  if seqTag ≠ 0x30 ∨ stop ≠ spki.length then
    throw "invalid SubjectPublicKeyInfo sequence"
  let (_, _, algorithmEnd) ← readDerTlv seqValue 0
  let (bitTag, bitValue, bitEnd) ← readDerTlv seqValue algorithmEnd
  if bitTag ≠ 0x03 ∨ bitEnd ≠ seqValue.length then
    throw "invalid SubjectPublicKeyInfo bit string"
  match bitValue with
  | [] => throw "invalid SubjectPublicKeyInfo bit string"
  | unused :: bits =>
    if unused ≠ 0 then
      throw "non-zero unused bits in SubjectPublicKeyInfo"
    return bits

/-! ## Reading what was written -/

theorem long_form_iff (byte : UInt8) : byte &&& 0x80 ≠ 0 ↔ 128 ≤ byte.toNat := by
  have all : ∀ n < 256, n &&& 128 ≠ 0 ↔ 128 ≤ n := by decide +kernel
  rw [Ne, ← UInt8.toNat_inj, UInt8.toNat_and]
  exact all byte.toNat byte.toNat_lt

theorem toNat_count (byte : UInt8) : (byte &&& 0x7F).toNat = byte.toNat % 128 := by
  rw [UInt8.toNat_and]
  exact Nat.and_two_pow_sub_one_eq_mod byte.toNat 7

/-- The bytes up to the position returned end a header for the length returned. -/
theorem readDerLength_ok (tag : UInt8)
    (run : readDerLength data lengthByte offset = .ok (length, start)) :
    offset ≤ start ∧ Header tag length (tag :: lengthByte :: slice data offset start) := by
  unfold readDerLength at run
  by_cases long : lengthByte &&& 0x80 ≠ 0
  · have form := (long_form_iff lengthByte).mp long
    have count := toNat_count lengthByte
    have bound := lengthByte.toNat_lt
    rw [if_pos long] at run
    dsimp only at run
    split at run
    · cases run
    rename_i present
    cases run
    have counted : (slice data offset (offset + (lengthByte &&& 0x7F).toNat)).length =
        lengthByte.toNat - 128 := by
      rw [length_slice (by omega)]
      omega
    refine ⟨by omega, .long lengthByte _ form counted ?_⟩
    intro empty
    simp only [empty, List.length_nil] at counted
    omega
  · have form := (long_form_iff lengthByte).not.mp long
    rw [if_neg long] at run
    cases run
    have none : slice data offset offset = [] := by simp [slice]
    rw [none]
    exact ⟨le_rfl, .short lengthByte (by omega)⟩

/-- What is read is a header and its value, as they stand in the data. -/
theorem readDerTlv_ok (run : readDerTlv data offset = .ok (tag, value, stop)) :
    stop ≤ data.length ∧
      ∃ header, Header tag value.length header ∧ slice data offset stop = header ++ value := by
  unfold readDerTlv at run
  split at run
  · cases run
  rename_i first firstRead
  split at run
  · cases run
  rename_i second secondRead
  rcases measured : readDerLength data second (offset + 2) with err | ⟨length, start⟩
  · rw [measured] at run
    cases run
  obtain ⟨after, header⟩ := readDerLength_ok first measured
  rw [measured] at run
  by_cases truncated : start + length > data.length
  · simp [truncated, bind, Except.bind, throw, throwThe, MonadExceptOf.throw] at run
  simp only [bind, Except.bind, truncated, if_false] at run
  obtain ⟨rfl, rest⟩ := Prod.mk.inj (Except.ok.inj run)
  cases rest
  have size : (slice data start (start + length)).length = length := by
    rw [length_slice (by omega)]
    omega
  refine ⟨by omega, _, size.symm ▸ header, ?_⟩
  rw [← slice_append (by omega : offset ≤ offset + 1) (by omega), slice_one firstRead,
    ← slice_append (by omega : offset + 1 ≤ offset + 1 + 1) (by omega), slice_one secondRead,
    ← slice_append after (by omega)]
  rfl

/-- The length of a header is read back from what follows its tag. -/
theorem readDerLength_header (announced : Header tag length header) (before rest : List UInt8) :
    ∃ lengthByte tail, header = tag :: lengthByte :: tail ∧
      readDerLength (before ++ (header ++ rest)) lengthByte (before.length + 2) =
        .ok (length, before.length + header.length) := by
  cases announced with
  | short byte form =>
    have single : ¬ byte &&& 0x80 ≠ 0 := by
      rw [long_form_iff]
      omega
    refine ⟨byte, [], rfl, ?_⟩
    rw [readDerLength, if_neg single]
    rfl
  | long count digits form counted some =>
    have bound := count.toNat_lt
    have width : (count &&& 0x7F).toNat = digits.length := by
      rw [toNat_count]
      omega
    have nonempty := List.length_pos_iff.mpr some
    have read : slice (before ++ (tag :: count :: digits ++ rest)) (before.length + 2)
        (before.length + 2 + digits.length) = digits := by
      simpa using slice_middle (before ++ [tag, count]) digits rest
    have present : ¬ (digits.length = 0 ∨ before.length + 2 + digits.length >
        (before ++ (tag :: count :: digits ++ rest)).length) := by
      simp only [List.length_append, List.length_cons]
      omega
    refine ⟨count, digits, rfl, ?_⟩
    rw [readDerLength, if_pos ((long_form_iff count).mpr form)]
    simp only [width, present, if_false, read, List.length_cons]
    simp only [Nat.add_comm, Nat.add_left_comm]

/-- A header and its value are read back, at the end of any bytes and before any others. -/
theorem readDerTlv_header (announced : Header tag value.length header) (before rest : List UInt8) :
    readDerTlv (before ++ (header ++ (value ++ rest))) before.length =
      .ok (tag, value, before.length + (header ++ value).length) := by
  obtain ⟨lengthByte, tail, rfl, measured⟩ :=
    readDerLength_header announced before (value ++ rest)
  generalize shape : tag :: lengthByte :: tail = header at measured
  have first : (before ++ (header ++ (value ++ rest)))[before.length]? = some tag := by
    simp [← shape]
  have second : (before ++ (header ++ (value ++ rest)))[before.length + 1]? = some lengthByte := by
    simp [← shape]
  have read : slice (before ++ (header ++ (value ++ rest))) (before.length + header.length)
      (before.length + header.length + value.length) = value := by
    simpa using slice_middle (before ++ header) value rest
  have within : ¬ before.length + header.length + value.length >
      (before ++ (header ++ (value ++ rest))).length := by
    simp only [List.length_append]
    omega
  rw [List.length_append, ← Nat.add_assoc]
  unfold readDerTlv
  simp only [first, second, measured, bind, Except.bind, within, if_false, read]
  rfl

theorem readDerTlv_derEncode (tag : UInt8) (encodable : LengthFits value.length)
    (before rest : List UInt8) :
    readDerTlv (before ++ (derEncode tag value ++ rest)) before.length =
      .ok (tag, value, before.length + (derEncode tag value).length) := by
  have read := readDerTlv_header (derHeader_is_header tag encodable) before rest
  rwa [← List.append_assoc (derHeader tag value.length)] at read

/-! ## Well-formed keys -/

/-- A `SubjectPublicKeyInfo` whose key is a bit string of whole bytes, by the contents of its
algorithm identifier and its bits, and not too long to be encoded. -/
structure SubjectPublicKeyInfo where
  algorithm : List UInt8
  bits : List UInt8
  encodable : LengthFits (derEncode 0x30 algorithm ++ derEncode 0x03 (0 :: bits)).length

def SubjectPublicKeyInfo.encode (info : SubjectPublicKeyInfo) : List UInt8 :=
  derEncode 0x30 (derEncode 0x30 info.algorithm ++ derEncode 0x03 (0 :: info.bits))

/-- The bits of an encoded key are found. -/
theorem subjectPublicKeyBits_encode (info : SubjectPublicKeyInfo) :
    subjectPublicKeyBits info.encode = .ok info.bits := by
  obtain ⟨algorithm, bits, encodable⟩ := info
  have small := encodable
  simp only [LengthFits, derEncode, List.length_append] at small
  have algorithmFits : LengthFits algorithm.length := by
    unfold LengthFits
    omega
  have bitsFit : LengthFits (0 :: bits).length := by
    unfold LengthFits
    omega
  have outer := readDerTlv_derEncode 0x30 encodable [] []
  have first := readDerTlv_derEncode 0x30 algorithmFits [] (derEncode 0x03 (0 :: bits))
  have second := readDerTlv_derEncode 0x03 bitsFit (derEncode 0x30 algorithm) []
  simp only [List.append_nil, List.nil_append, List.length_nil, Nat.zero_add] at outer first second
  unfold subjectPublicKeyBits SubjectPublicKeyInfo.encode
  simp [outer, first, second, bind, Except.bind, pure, Except.pure]

/-- An Ed25519 key: the object identifier 1.3.101.112 and the 32 bytes of the key. -/
def ed25519Key (key : List UInt8) (size : key.length = 32) : SubjectPublicKeyInfo where
  algorithm := [0x06, 0x03, 0x2b, 0x65, 0x70]
  bits := key
  encodable := by
    simp only [derEncode, derHeader, LengthFits, List.length_append, List.length_cons, size]
    decide

example :
    (ed25519Key (List.replicate 32 7) rfl).encode =
      [0x30, 0x2a, 0x30, 0x05, 0x06, 0x03, 0x2b, 0x65, 0x70, 0x03, 0x21, 0x00] ++
        List.replicate 32 7 ∧
    subjectPublicKeyBits (ed25519Key (List.replicate 32 7) rfl).encode =
      .ok (List.replicate 32 7) := by
  decide

/-- Whatever `_read_der_tlv` returns is a header and exactly its value, within the data; the
distinguished encoding of any value is read back, wherever it stands; and so the key bits of
every well-formed `SubjectPublicKeyInfo` are returned. -/
theorem der_reader_is_exact :
    (∀ data offset tag value stop, readDerTlv data offset = .ok (tag, value, stop) →
      stop ≤ data.length ∧
        ∃ header, Header tag value.length header ∧ slice data offset stop = header ++ value) ∧
    (∀ tag value before rest, LengthFits value.length →
      readDerTlv (before ++ (derEncode tag value ++ rest)) before.length =
        .ok (tag, value, before.length + (derEncode tag value).length)) ∧
    ∀ info : SubjectPublicKeyInfo, subjectPublicKeyBits info.encode = .ok info.bits :=
  ⟨fun _ _ _ _ _ => readDerTlv_ok,
    fun tag _ before rest encodable => readDerTlv_derEncode tag encodable before rest,
    subjectPublicKeyBits_encode⟩

end UmojaFlowOS.Attestation
