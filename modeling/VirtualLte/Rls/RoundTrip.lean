import VirtualLte.Rls

/-!
# RLS datagrams are read as they are written

* `ueRlsDecode_eq_some_iff` says which octets decode to which message.
* `..._append`: what an encoder writes decodes to what it was given, whatever follows it in
  the datagram.
-/

namespace VirtualLte.Rls

variable {data : Bytes} (sti : UInt64)

/-! ## What decodes -/

/-- The four octets every message starts with. -/
structure Compatible (data : Bytes) : Prop where
  header : ueRlsHeaderSize ≤ data.length
  marker : octet data 0 = 0x03
  major : octet data 1 = 3
  minor : octet data 2 = 2
  patch : octet data 3 = 8

/-- What stands behind the header, for each type. -/
inductive Decoded (data : Bytes) : UeRlsMessage → Prop
  | heartbeat (htype : octet data 4 = UeRlsMsgType.heartbeat.toUInt8) (hlen : 25 ≤ data.length) :
    Decoded data (.heartbeat (getBe64 data 5) (signedWord (wordAt data 13))
      (signedWord (wordAt data 17)) (signedWord (wordAt data 21)))
  | heartbeatAck (htype : octet data 4 = UeRlsMsgType.heartbeatAck.toUInt8)
    (hlen : 17 ≤ data.length) :
    Decoded data (.heartbeatAck (getBe64 data 5) (signedWord (wordAt data 13)))
  | pduTx {pduType : UeRlsPduType} (htype : octet data 4 = UeRlsMsgType.pduTransmission.toUInt8)
    (hpduType : octet data 13 = pduType.toUInt8) (hmax : (wordAt data 22).toNat ≤ ueRlsMaxPduSize)
    (hlen : 26 + (wordAt data 22).toNat ≤ data.length) :
    Decoded data (.pduTx (getBe64 data 5) pduType (wordAt data 14) (wordAt data 18)
      ((data.drop 26).take (wordAt data 22).toNat))
  | pduAck (htype : octet data 4 = UeRlsMsgType.pduTransmissionAck.toUInt8)
    (hmax : (wordAt data 13).toNat ≤ ueRlsMaxAckIds)
    (hlen : 17 + (wordAt data 13).toNat * 4 ≤ data.length) :
    Decoded data (.pduAck (getBe64 data 5)
      ((List.range (wordAt data 13).toNat).map fun i => wordAt data (17 + i * 4)))

theorem wordAt_drop (b : Bytes) (i k : Nat) : wordAt (b.drop i) k = wordAt b (i + k) := by
  simp only [wordAt, octet_drop, Nat.add_assoc]

theorem pduTypeOf_eq_some_iff {x : UInt8} {t : UeRlsPduType} :
    pduTypeOf x = some t ↔ x = t.toUInt8 := by
  constructor
  · intro h
    unfold pduTypeOf at h
    split at h
    · cases h
      assumption
    · obtain ⟨hx, ht⟩ := Option.ite_none_right_eq_some.mp h
      cases ht
      exact hx
  · intro h
    rw [h, pduTypeOf_toUInt8]

theorem ueRlsDecode_eq_some_iff {m : UeRlsMessage} :
    ueRlsDecode data = some m ↔ Compatible data ∧ Decoded data m := by
  have hids : ∀ i, 13 + (4 + i * 4) = 17 + i * 4 := fun i => by omega
  constructor
  · intro h
    simp only [ueRlsDecode, Option.ite_none_left_eq_some, octet_drop, wordAt_drop, hids,
      List.length_drop, ueRlsHeaderSize, List.drop_drop, not_or, Decidable.not_not, Nat.not_lt,
      Nat.reduceAdd, Nat.add_zero] at h
    obtain ⟨hlen, hmarker, ⟨hmajor, hminor, hpatch⟩, h⟩ := h
    refine ⟨⟨hlen, hmarker, hmajor, hminor, hpatch⟩, ?_⟩
    split at h
    · rename_i htype
      obtain ⟨hroom, hm⟩ := Option.ite_none_left_eq_some.mp h
      rw [← Option.some.inj hm]
      exact .heartbeat htype (by omega)
    split at h
    · rename_i htype
      obtain ⟨hroom, hm⟩ := Option.ite_none_left_eq_some.mp h
      rw [← Option.some.inj hm]
      exact .heartbeatAck htype (by omega)
    split at h
    · rename_i htype
      obtain ⟨hroom, h⟩ := Option.ite_none_left_eq_some.mp h
      split at h
      · cases h
      · rename_i pduType hpduType
        simp only [Option.ite_none_left_eq_some, Nat.not_lt] at h
        obtain ⟨hmax, hfits, hm⟩ := h
        rw [← Option.some.inj hm]
        exact .pduTx htype (pduTypeOf_eq_some_iff.mp hpduType) hmax (by omega)
    · rename_i htype
      simp only [Option.ite_none_right_eq_some, Option.ite_none_left_eq_some, Nat.not_lt] at h
      obtain ⟨htype', hroom, hmax, hfits, hm⟩ := h
      rw [← Option.some.inj hm]
      exact .pduAck htype' hmax (by omega)
  · rintro ⟨hdr, hm⟩
    have hlen := hdr.header
    simp only [ueRlsHeaderSize] at hlen
    simp only [ueRlsDecode, octet_drop, wordAt_drop, hids, List.length_drop, ueRlsHeaderSize,
      List.drop_drop, hdr.marker, hdr.major, hdr.minor, hdr.patch, Nat.reduceAdd, Nat.add_zero]
    cases hm with
    | heartbeat htype hroom =>
      simp only [htype, UeRlsMsgType.toUInt8]
      rw [if_neg (by omega), if_neg (by decide), if_neg (by decide), if_pos trivial, if_neg (by omega)]
    | heartbeatAck htype hroom =>
      simp only [htype, UeRlsMsgType.toUInt8]
      rw [if_neg (by omega), if_neg (by decide), if_neg (by decide), if_neg (by decide), if_pos trivial,
        if_neg (by omega)]
    | pduTx htype hpduType hmax hroom =>
      simp only [htype, hpduType, UeRlsMsgType.toUInt8, pduTypeOf_toUInt8]
      rw [if_neg (by omega), if_neg (by decide), if_neg (by decide), if_neg (by decide),
        if_neg (by decide), if_pos trivial, if_neg (by omega), if_neg (by omega), if_neg (by omega)]
    | pduAck htype hmax hroom =>
      simp only [htype, UeRlsMsgType.toUInt8]
      rw [if_neg (by omega), if_neg (by decide), if_neg (by decide), if_neg (by decide),
        if_neg (by decide), if_neg (by decide), if_pos trivial, if_neg (by omega), if_neg (by omega),
        if_neg (by omega)]

/-! ## What is encoded decodes -/

theorem compatible_header (type : UeRlsMsgType) (sti : UInt64) (rest : Bytes) :
    Compatible (rlsWriteHeader type sti ++ rest) where
  header := by
    rw [List.length_append]
    exact Nat.le_add_right 13 rest.length
  marker := rfl
  major := rfl
  minor := rfl
  patch := rfl

@[simp] theorem rlsWriteHeader_length (type : UeRlsMsgType) (sti : UInt64) :
    (rlsWriteHeader type sti).length = 13 := rfl

@[simp] theorem putBe32_length (v : UInt32) : (putBe32 v).length = 4 := rfl

theorem getBe64_header (type : UeRlsMsgType) (sti : UInt64) (rest : Bytes) :
    getBe64 (rlsWriteHeader type sti ++ rest) 5 = sti := getBe64_putBe64_append sti rest

theorem ueRlsDecode_heartbeat_append (x y z : UInt32) (rest : Bytes) :
    ueRlsDecode (rlsWriteHeader .heartbeat sti ++ (putBe32 x ++ (putBe32 y ++ (putBe32 z ++ rest)))) =
      some (.heartbeat sti (signedWord x) (signedWord y) (signedWord z)) := by
  refine ueRlsDecode_eq_some_iff.mpr ⟨compatible_header _ _ _, ?_⟩
  have hsti := getBe64_header .heartbeat sti (putBe32 x ++ (putBe32 y ++ (putBe32 z ++ rest)))
  generalize hdata : rlsWriteHeader .heartbeat sti ++
    (putBe32 x ++ (putBe32 y ++ (putBe32 z ++ rest))) = data at hsti ⊢
  have hx : wordAt data 13 = x := hdata ▸ getBe32_putBe32 x
  have hy : wordAt data 17 = y := hdata ▸ getBe32_putBe32 y
  have hz : wordAt data 21 = z := hdata ▸ getBe32_putBe32 z
  have hlen : 25 ≤ data.length := by
    simp only [← hdata, List.length_append, rlsWriteHeader_length, putBe32_length]
    omega
  have h := Decoded.heartbeat (hdata ▸ rfl) hlen
  rwa [hsti, hx, hy, hz] at h

theorem ueRlsDecode_pduTransmission_append (pduType : UeRlsPduType) (pduId payload : UInt32)
    {pdu : Bytes} (hmax : pdu.length ≤ ueRlsMaxPduSize) (rest : Bytes) :
    ueRlsDecode (rlsWriteHeader .pduTransmission sti ++ ([pduType.toUInt8] ++ putBe32 pduId ++
        putBe32 payload ++ putBe32 (UInt32.ofNat pdu.length) ++ (pdu ++ rest))) =
      some (.pduTx sti pduType pduId payload pdu) := by
  have hcount : (UInt32.ofNat pdu.length).toNat = pdu.length := by
    rw [ueRlsMaxPduSize] at hmax
    rw [UInt32.toNat_ofNat']
    omega
  refine ueRlsDecode_eq_some_iff.mpr ⟨compatible_header _ _ _, ?_⟩
  generalize UInt32.ofNat pdu.length = n at hcount
  generalize hdata : rlsWriteHeader .pduTransmission sti ++ ([pduType.toUInt8] ++ putBe32 pduId ++
        putBe32 payload ++ putBe32 n ++ (pdu ++ rest)) = data
  have hsti : getBe64 data 5 = sti := by
    rw [← hdata]
    exact getBe64_header _ _ _
  have hid : wordAt data 14 = pduId := by
    rw [← hdata]
    exact getBe32_putBe32 pduId
  have hpayload : wordAt data 18 = payload := by
    rw [← hdata]
    exact getBe32_putBe32 payload
  have hn : wordAt data 22 = n := by
    rw [← hdata]
    exact getBe32_putBe32 n
  have hdrop : data.drop 26 = pdu ++ rest := by
    rw [← hdata]
    rfl
  have hlen : 26 + pdu.length ≤ data.length := by
    simp only [← hdata, List.length_append, rlsWriteHeader_length, putBe32_length,
      List.length_singleton]
    omega
  rw [← hcount, ← hn] at hmax hlen
  have h := Decoded.pduTx (by rw [← hdata]; rfl) (by rw [← hdata]; rfl : octet data 13 = pduType.toUInt8)
    hmax hlen
  rwa [hsti, hid, hpayload, hdrop, hn, hcount, List.take_left] at h

theorem ueRlsDecode_pduAck_append (ids : List UInt32) (hmax : ids.length ≤ ueRlsMaxAckIds)
    (rest : Bytes) :
    ueRlsDecode (rlsWriteHeader .pduTransmissionAck sti ++ (putBe32 (UInt32.ofNat ids.length) ++
        (ids.flatMap putBe32 ++ rest))) = some (.pduAck sti ids) := by
  have hcount : (UInt32.ofNat ids.length).toNat = ids.length := by
    rw [ueRlsMaxAckIds] at hmax
    rw [UInt32.toNat_ofNat']
    omega
  refine ueRlsDecode_eq_some_iff.mpr ⟨compatible_header _ _ _, ?_⟩
  generalize UInt32.ofNat ids.length = n at hcount
  generalize hdata : rlsWriteHeader .pduTransmissionAck sti ++ (putBe32 n ++
    (ids.flatMap putBe32 ++ rest)) = data
  have hsti : getBe64 data 5 = sti := by
    rw [← hdata]
    exact getBe64_header _ _ _
  have hn : wordAt data 13 = n := by
    rw [← hdata]
    exact getBe32_putBe32 n
  have hids : ((List.range ids.length).map fun i => wordAt data (17 + i * 4)) = ids := by
    refine Eq.trans (List.map_congr_left fun i _ => ?_) (map_wordAt_flatMap ids rest)
    rw [← hdata, ← List.append_assoc]
    exact wordAt_append (rlsWriteHeader .pduTransmissionAck sti ++ putBe32 n) _ (i * 4)
  have hlen : 17 + ids.length * 4 ≤ data.length := by
    simp only [← hdata, List.length_append, rlsWriteHeader_length, putBe32_length,
      flatMap_putBe32_length]
    omega
  rw [← hcount, ← hn] at hmax hlen
  have h := Decoded.pduAck (by rw [← hdata]; rfl) hmax hlen
  rwa [hsti, hn, hcount, hids] at h

/-- A transmitted PDU is received as it was sent. -/
theorem ueRlsDecode_encodePduTransmission {bufLen : Nat} {sti : UInt64} {pduType : UeRlsPduType}
    {pduId payload : UInt32} {pdu dgram : Bytes}
    (h : ueRlsEncodePduTransmission bufLen sti pduType pduId payload pdu = some dgram) :
    ueRlsDecode dgram = some (.pduTx sti pduType pduId payload pdu) := by
  simp only [ueRlsEncodePduTransmission, Option.ite_none_left_eq_some, Nat.not_lt] at h
  obtain ⟨-, hmax, hdgram⟩ := h
  have hdecode := ueRlsDecode_pduTransmission_append sti pduType pduId payload hmax []
  rw [List.append_nil] at hdecode
  rw [← Option.some.inj hdgram]
  simpa only [List.append_assoc] using hdecode

/-- An acknowledgement of up to 64 PDUs is received as it was sent. -/
theorem ueRlsDecode_encodePduAck {bufLen : Nat} {sti : UInt64} {ids : List UInt32} {dgram : Bytes}
    (hlen : ids.length ≤ 64) (h : ueRlsEncodePduAck bufLen sti ids = some dgram) :
    ueRlsDecode dgram = some (.pduAck sti ids) := by
  simp only [ueRlsEncodePduAck, Option.ite_none_left_eq_some] at h
  have hdecode := ueRlsDecode_pduAck_append sti ids hlen []
  rw [List.append_nil] at hdecode
  rw [← Option.some.inj h.2]
  simpa only [List.append_assoc] using hdecode

/-- What the UE encodes is decoded to the same fields, whatever follows it. -/
theorem ueRls_roundTrip (bufLen : Nat) (rest : Bytes) :
    (∀ x y z, ∀ dgram ∈ ueRlsEncodeHeartbeat bufLen sti x y z, ueRlsDecode (dgram ++ rest) =
      some (.heartbeat sti (signedWord x) (signedWord y) (signedWord z))) ∧
    (∀ pduType pduId payload pdu,
      ∀ dgram ∈ ueRlsEncodePduTransmission bufLen sti pduType pduId payload pdu,
        ueRlsDecode (dgram ++ rest) = some (.pduTx sti pduType pduId payload pdu)) ∧
    ∀ ids, ids.length ≤ ueRlsMaxAckIds → ∀ dgram ∈ ueRlsEncodePduAck bufLen sti ids,
      ueRlsDecode (dgram ++ rest) = some (.pduAck sti ids) := by
  refine ⟨fun x y z dgram h => ?_, fun pduType pduId payload pdu dgram h => ?_,
    fun ids hmax dgram h => ?_⟩
  · obtain ⟨-, h⟩ := Option.ite_none_left_eq_some.mp h
    rw [← Option.some.inj h]
    simpa only [List.append_assoc] using ueRlsDecode_heartbeat_append sti x y z rest
  · obtain ⟨-, h⟩ := Option.ite_none_left_eq_some.mp h
    obtain ⟨hmax, h⟩ := Option.ite_none_left_eq_some.mp h
    rw [← Option.some.inj h]
    simpa only [List.append_assoc] using
      ueRlsDecode_pduTransmission_append sti pduType pduId payload (Nat.not_lt.mp hmax) rest
  · obtain ⟨-, h⟩ := Option.ite_none_left_eq_some.mp h
    rw [← Option.some.inj h]
    simpa only [List.append_assoc] using ueRlsDecode_pduAck_append sti ids hmax rest

end VirtualLte.Rls
