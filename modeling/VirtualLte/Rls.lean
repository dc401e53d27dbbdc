import VirtualLte.Bytes

/-!
# RLS wire protocol

`ue_rls.c`: the datagrams between the UE and a gNB.  A header of thirteen octets
carries the message type and the sender's temporary identifier (STI).
-/

namespace VirtualLte.Rls

/-- The longest PDU of a transmission. -/
def ueRlsMaxPduSize : Nat := 16384
/-- The most identifiers of an acknowledgement. -/
def ueRlsMaxAckIds : Nat := 64
/-- Octets in front of the message. -/
def ueRlsHeaderSize : Nat := 13

/-- The kinds of message. -/
inductive UeRlsMsgType where
  | heartbeat
  | heartbeatAck
  | pduTransmission
  | pduTransmissionAck
  deriving DecidableEq, Repr

/-- The type octet. -/
def UeRlsMsgType.toUInt8 : UeRlsMsgType → UInt8
  | .heartbeat => 4
  | .heartbeatAck => 5
  | .pduTransmission => 6
  | .pduTransmissionAck => 7

/-- What a transmission carries. -/
inductive UeRlsPduType where
  | rrc
  | data
  deriving DecidableEq, Repr

/-- The octet for what is carried. -/
def UeRlsPduType.toUInt8 : UeRlsPduType → UInt8
  | .rrc => 1
  | .data => 2

/-- A decoded message. -/
inductive UeRlsMessage where
  | heartbeat (sti : UInt64) (simPosX simPosY simPosZ : Int)
  | heartbeatAck (sti : UInt64) (dbm : Int)
  | pduTx (sti : UInt64) (pduType : UeRlsPduType) (pduId payload : UInt32) (pdu : Bytes)
  | pduAck (sti : UInt64) (pduIds : List UInt32)
  deriving DecidableEq, Repr

/-- The kind of a decoded message. -/
def UeRlsMessage.type : UeRlsMessage → UeRlsMsgType
  | .heartbeat _ _ _ _ => .heartbeat
  | .heartbeatAck _ _ => .heartbeatAck
  | .pduTx _ _ _ _ _ => .pduTransmission
  | .pduAck _ _ => .pduTransmissionAck

/-! ## Encoding -/

/-- Eight octets, most significant first. -/
def putBe64 (v : UInt64) : Bytes := putBe32 (v >>> 32).toUInt32 ++ putBe32 v.toUInt32

/-- Compatibility octet, version 3.2.8, message type and STI. -/
def rlsWriteHeader (type : UeRlsMsgType) (sti : UInt64) : Bytes :=
  [0x03, 3, 2, 8, type.toUInt8] ++ putBe64 sti

/-- A heartbeat with the simulated position. -/
def ueRlsEncodeHeartbeat (bufLen : Nat) (sti : UInt64) (x y z : UInt32) : Option Bytes :=
  if bufLen < ueRlsHeaderSize + 12 then none
  else some (rlsWriteHeader .heartbeat sti ++ putBe32 x ++ putBe32 y ++ putBe32 z)

/-- A transmission: what it carries, its identifier, a payload word and the PDU. -/
def ueRlsEncodePduTransmission (bufLen : Nat) (sti : UInt64) (pduType : UeRlsPduType)
    (pduId payload : UInt32) (pdu : Bytes) : Option Bytes :=
  if bufLen < ueRlsHeaderSize + 1 + 4 + 4 + 4 + pdu.length then none
  else if pdu.length > ueRlsMaxPduSize then none
  else
    some (rlsWriteHeader .pduTransmission sti ++ [pduType.toUInt8] ++ putBe32 pduId ++
      putBe32 payload ++ putBe32 (UInt32.ofNat pdu.length) ++ pdu)

/-- An acknowledgement: a count and the identifiers. -/
def ueRlsEncodePduAck (bufLen : Nat) (sti : UInt64) (pduIds : List UInt32) : Option Bytes :=
  if bufLen < ueRlsHeaderSize + 4 + pduIds.length * 4 then none
  else
    some (rlsWriteHeader .pduTransmissionAck sti ++ putBe32 (UInt32.ofNat pduIds.length) ++
      pduIds.flatMap putBe32)

/-! ## Decoding -/

/-- The word at offset `i`. -/
def wordAt (b : Bytes) (i : Nat) : UInt32 :=
  getBe32 (octet b i) (octet b (i + 1)) (octet b (i + 2)) (octet b (i + 3))

/-- Two's complement reading of a word. -/
def signedWord (v : UInt32) : Int :=
  if v.toNat < 2 ^ 31 then v.toNat else (v.toNat : Int) - 2 ^ 32

/-- The eight octets at offset `i`. -/
def getBe64 (b : Bytes) (i : Nat) : UInt64 :=
  ((wordAt b i).toUInt64 <<< 32) ||| (wordAt b (i + 4)).toUInt64

/-- The kind of PDU that an octet stands for. -/
def pduTypeOf (x : UInt8) : Option UeRlsPduType :=
  if x = 1 then some .rrc else if x = 2 then some .data else none

/-- A datagram with the expected header and a message that is all there. -/
def ueRlsDecode (data : Bytes) : Option UeRlsMessage :=
  let sti := getBe64 data 5
  let p := data.drop ueRlsHeaderSize
  if data.length < ueRlsHeaderSize then none
  else if octet data 0 ≠ 0x03 then none
  else if octet data 1 ≠ 3 ∨ octet data 2 ≠ 2 ∨ octet data 3 ≠ 8 then none
  else if octet data 4 = 4 then
    if p.length < 12 then none
    else
      some (.heartbeat sti (signedWord (wordAt p 0)) (signedWord (wordAt p 4))
        (signedWord (wordAt p 8)))
  else if octet data 4 = 5 then
    if p.length < 4 then none else some (.heartbeatAck sti (signedWord (wordAt p 0)))
  else if octet data 4 = 6 then
    if p.length < 13 then none
    else
      match pduTypeOf (octet p 0) with
      | none => none
      | some pduType =>
        let pduLen := (wordAt p 9).toNat
        if pduLen > ueRlsMaxPduSize then none
        else if p.length < 13 + pduLen then none
        else some (.pduTx sti pduType (wordAt p 1) (wordAt p 5) ((p.drop 13).take pduLen))
  else if octet data 4 = 7 then
    if p.length < 4 then none
    else
      let count := (wordAt p 0).toNat
      if count > ueRlsMaxAckIds then none
      else if p.length < 4 + count * 4 then none
      else some (.pduAck sti ((List.range count).map fun i => wordAt p (4 + i * 4)))
  else none

/-- The fifth octet of what decodes is the type of the message. -/
theorem ueRlsDecode_type {data : Bytes} {m : UeRlsMessage} (h : ueRlsDecode data = some m) :
    octet data 4 = m.type.toUInt8 := by
  simp only [ueRlsDecode, Option.ite_none_left_eq_some] at h
  obtain ⟨-, -, -, h⟩ := h
  split at h
  · rename_i htype
    obtain ⟨-, hm⟩ := Option.ite_none_left_eq_some.mp h
    cases hm
    exact htype
  split at h
  · rename_i htype
    obtain ⟨-, hm⟩ := Option.ite_none_left_eq_some.mp h
    cases hm
    exact htype
  split at h
  · rename_i htype
    obtain ⟨-, h⟩ := Option.ite_none_left_eq_some.mp h
    split at h
    · cases h
    · simp only [Option.ite_none_left_eq_some] at h
      obtain ⟨-, -, hm⟩ := h
      cases hm
      exact htype
  · rename_i htype
    simp only [Option.ite_none_right_eq_some, Option.ite_none_left_eq_some] at h
    obtain ⟨htype', -, -, -, hm⟩ := h
    cases hm
    exact htype'

/-! ## Round trip -/

private theorem bits_of_words (b : BitVec 64) :
    BitVec.setWidth 64 (BitVec.setWidth 32 (b >>> 32)) <<< 32 |||
      BitVec.setWidth 64 (BitVec.setWidth 32 b) = b := by
  ext i hi
  simp only [BitVec.getElem_or, BitVec.getElem_shiftLeft, BitVec.getElem_setWidth,
    BitVec.getLsbD_setWidth, BitVec.getLsbD_ushiftRight]
  by_cases h32 : i < 32
  · simp [h32, BitVec.getLsbD_eq_getElem hi]
  · simp [h32, show i - 32 < 32 by omega, show 32 + (i - 32) = i by omega,
      BitVec.getLsbD_eq_getElem hi]

theorem getBe64_putBe64_append (v : UInt64) (rest : Bytes) :
    getBe64 (putBe64 v ++ rest) 0 = v := by
  have hhi : wordAt (putBe64 v ++ rest) 0 = (v >>> 32).toUInt32 := getBe32_putBe32 _
  have hlo : wordAt (putBe64 v ++ rest) 4 = v.toUInt32 := getBe32_putBe32 _
  rw [getBe64, hhi, hlo]
  apply UInt64.eq_of_toBitVec_eq
  exact bits_of_words v.toBitVec

theorem pduTypeOf_toUInt8 (t : UeRlsPduType) : pduTypeOf t.toUInt8 = some t := by
  cases t with
  | rrc => rfl
  | data => rfl

theorem wordAt_putBe32_append (v : UInt32) (rest : Bytes) : wordAt (putBe32 v ++ rest) 0 = v :=
  getBe32_putBe32 v

theorem wordAt_append (pre b : Bytes) (i : Nat) : wordAt (pre ++ b) (pre.length + i) = wordAt b i := by
  have hoctet : ∀ j, octet (pre ++ b) (pre.length + j) = octet b j := by
    intro j
    rw [octet_append_right (Nat.le_add_right _ _), Nat.add_sub_cancel_left]
  simp only [wordAt, Nat.add_assoc, hoctet]

theorem flatMap_putBe32_length (ids : List UInt32) : (ids.flatMap putBe32).length = ids.length * 4 := by
  induction ids with
  | nil => rfl
  | cons id ids ih =>
    rw [List.flatMap_cons, List.length_append, ih, List.length_cons]
    simp only [putBe32, List.length_cons, List.length_nil]
    omega

/-- The words of a list of identifiers are read back one by one. -/
theorem map_wordAt_flatMap (ids : List UInt32) (rest : Bytes) :
    ((List.range ids.length).map fun i => wordAt (ids.flatMap putBe32 ++ rest) (i * 4)) = ids := by
  induction ids with
  | nil => rfl
  | cons id ids ih =>
    have hhead : wordAt ((id :: ids).flatMap putBe32 ++ rest) (0 * 4) = id :=
      wordAt_putBe32_append id (ids.flatMap putBe32 ++ rest)
    have htail : ∀ i, wordAt ((id :: ids).flatMap putBe32 ++ rest) ((i + 1) * 4) =
        wordAt (ids.flatMap putBe32 ++ rest) (i * 4) := by
      intro i
      rw [Nat.succ_mul, Nat.add_comm]
      exact wordAt_append (putBe32 id) _ _
    rw [List.length_cons, List.range_succ_eq_map, List.map_cons, List.map_map, hhead]
    refine congrArg (id :: ·) (Eq.trans (List.map_congr_left fun i _ => ?_) ih)
    exact htail i

end VirtualLte.Rls
