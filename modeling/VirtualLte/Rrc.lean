import VirtualLte.Bytes

/-!
# RRC transport of NAS messages

`ue_rrc.c`: the hand-written UPER codec for the five RRC messages the UE needs.
A bit writer is the list of bits written so far with the size of its buffer; a
bit reader is the list of bits left to read.
-/

namespace VirtualLte.Rrc

/-! ## Bits -/

/-- The low `n` bits of `v`, most significant first. -/
def bitsOfNat (v : Nat) : Nat → List Bool
  | 0 => []
  | n + 1 => v.testBit n :: bitsOfNat v n

/-- Read bits back, most significant first. -/
def natOfBits (bits : List Bool) : Nat := bits.foldl (fun acc b => acc * 2 + b.toNat) 0

/-- The bits of octets, most significant first. -/
def bitsOfBytes (b : Bytes) : List Bool := b.flatMap fun x => bitsOfNat x.toNat 8

/-- Pack bits into octets; the last one is filled with zeros. -/
def bytesOfBits : Nat → List Bool → Bytes
  | 0, _ => []
  | _ + 1, [] => []
  | fuel + 1, bits@(_ :: _) =>
    UInt8.ofNat (natOfBits ((bits ++ List.replicate 7 false).take 8)) ::
      bytesOfBits fuel (bits.drop 8)

/-- The bits so far, and the octets of the buffer. -/
structure UeRrcBitwriter where
  bufLen : Nat
  bits : List Bool
  deriving DecidableEq, Repr

/-- Nothing written yet. -/
def ueRrcBwInit (bufLen : Nat) : UeRrcBitwriter := ⟨bufLen, []⟩

/-- Writing fails when a bit falls outside the buffer. -/
def ueRrcBwPutBits (bw : UeRrcBitwriter) (val nbits : Nat) : Option UeRrcBitwriter :=
  if nbits = 0 ∨ nbits > 64 then none
  else if bw.bits.length + nbits > bw.bufLen * 8 then none
  else some { bw with bits := bw.bits ++ bitsOfNat val nbits }

/-- Octets one by one. -/
def ueRrcBwPutBytes : UeRrcBitwriter → Bytes → Option UeRrcBitwriter
  | bw, [] => some bw
  | bw, x :: rest => do
    let bw ← ueRrcBwPutBits bw x.toNat 8
    ueRrcBwPutBytes bw rest

/-- The whole octets the writer covers. -/
def UeRrcBitwriter.bytes (bw : UeRrcBitwriter) : Bytes := bytesOfBits bw.bits.length bw.bits

/-- The bits left to read. -/
abbrev UeRrcBitreader := List Bool

/-- All bits of the buffer. -/
def ueRrcBrInit (buf : Bytes) : UeRrcBitreader := bitsOfBytes buf

/-- Reading fails when too few bits are left. -/
def ueRrcBrGetBits (nbits : Nat) (br : UeRrcBitreader) : Option (Nat × UeRrcBitreader) :=
  if nbits = 0 ∨ nbits > 64 then none
  else if br.length < nbits then none
  else some (natOfBits (br.take nbits), br.drop nbits)

/-- Octets one by one. -/
def ueRrcBrGetBytes : Nat → UeRrcBitreader → Option (Bytes × UeRrcBitreader)
  | 0, br => some ([], br)
  | n + 1, br => do
    let (x, br) ← ueRrcBrGetBits 8 br
    let (rest, br) ← ueRrcBrGetBytes n br
    some (UInt8.ofNat x :: rest, br)

/-! ## Length determinant -/

/-- One octet below 128, two below 16384; there are no fragments. -/
def uperPutLength (bw : UeRrcBitwriter) (len : Nat) : Option UeRrcBitwriter :=
  if len < 128 then ueRrcBwPutBits bw len 8
  else if len < 16384 then ueRrcBwPutBits bw (0x8000 ||| len) 16
  else none

/-- The length that `uperPutLength` writes. -/
def uperGetLength (br : UeRrcBitreader) : Option (Nat × UeRrcBitreader) := do
  let (first, br) ← ueRrcBrGetBits 8 br
  if first &&& 0x80 = 0 then some (first, br)
  else if first &&& 0xC0 = 0x80 then
    let (second, br) ← ueRrcBrGetBits 8 br
    some (((first &&& 0x3F) <<< 8) ||| second, br)
  else none

/-! ## Messages -/

/-- The longest NAS message. -/
def ueRrcMaxNasSize : Nat := 8192

/-- The downlink messages that are told apart. -/
inductive UeRrcMsgType where
  | dlInfoTransfer
  | setup
  deriving DecidableEq, Repr

/-- A decoded downlink message; an absent NAS message is empty. -/
structure UeRrcMessage where
  type : UeRrcMsgType
  nasPdu : Bytes
  rrcTransactionId : UInt8
  deriving DecidableEq, Repr

/-- ULInformationTransfer with a NAS message. -/
def ueRrcEncodeUlInfoTransfer (bufLen : Nat) (nas : Bytes) : Option Bytes :=
  if nas.length = 0 ∨ nas.length > ueRrcMaxNasSize then none
  else do
    let bw ← ueRrcBwPutBits (ueRrcBwInit bufLen) 0 1
    let bw ← ueRrcBwPutBits bw 7 4
    let bw ← ueRrcBwPutBits bw 0 1
    let bw ← ueRrcBwPutBits bw 0b100 3
    let bw ← uperPutLength bw nas.length
    let bw ← ueRrcBwPutBytes bw nas
    some bw.bytes

/-- RRCSetupRequest with a random identity. -/
def ueRrcEncodeSetupRequest (bufLen : Nat) (ueIdentity : UInt64)
    (establishmentCause : UInt8) : Option Bytes := do
  let bw ← ueRrcBwPutBits (ueRrcBwInit bufLen) 0 1
  let bw ← ueRrcBwPutBits bw 0 2
  let bw ← ueRrcBwPutBits bw 1 1
  let bw ← ueRrcBwPutBits bw (ueIdentity &&& 0x7FFFFFFFFF).toNat 39
  let bw ← ueRrcBwPutBits bw (establishmentCause &&& 0x0F).toNat 4
  let bw ← ueRrcBwPutBits bw 0 1
  some bw.bytes

/-- RRCSetupComplete with the first NAS message. -/
def ueRrcEncodeSetupComplete (bufLen : Nat) (rrcTransactionId : UInt8) (selectedPlmnId : UInt32)
    (nas : Bytes) : Option Bytes :=
  if nas.length = 0 ∨ nas.length > ueRrcMaxNasSize then none
  else if selectedPlmnId < 1 ∨ selectedPlmnId > 12 then none
  else do
    let bw ← ueRrcBwPutBits (ueRrcBwInit bufLen) 0 1
    let bw ← ueRrcBwPutBits bw 2 4
    let bw ← ueRrcBwPutBits bw (rrcTransactionId &&& 0x03).toNat 2
    let bw ← ueRrcBwPutBits bw 0 1
    let bw ← ueRrcBwPutBits bw 0 6
    let bw ← ueRrcBwPutBits bw (selectedPlmnId - 1).toNat 4
    let bw ← uperPutLength bw nas.length
    let bw ← ueRrcBwPutBytes bw nas
    some bw.bytes

/-- The NAS message starts eleven bits and a whole-octet length into the buffer, so
the source's byte-aligned shortcut is never taken and the octets are always read
through the bit reader. -/
def decodeDlInfoTransfer (br : UeRrcBitreader) : Option UeRrcMessage := do
  let (txId, br) ← ueRrcBrGetBits 2 br
  let (critExt, br) ← ueRrcBrGetBits 1 br
  if critExt ≠ 0 then none
  else
    let (optBitmap, br) ← ueRrcBrGetBits 3 br
    if optBitmap &&& 0b100 = 0 then
      some { type := .dlInfoTransfer, nasPdu := [], rrcTransactionId := UInt8.ofNat txId }
    else
      let (nasLen, br) ← uperGetLength br
      if nasLen > ueRrcMaxNasSize then none
      else
        let (nas, _) ← ueRrcBrGetBytes nasLen br
        some { type := .dlInfoTransfer, nasPdu := nas, rrcTransactionId := UInt8.ofNat txId }

/-- Of the dedicated channel only DLInformationTransfer is read. -/
def ueRrcDecodeDlDcch (data : Bytes) : Option UeRrcMessage :=
  if data.length < 1 then none
  else do
    let (choice, br) ← ueRrcBrGetBits 1 (ueRrcBrInit data)
    if choice ≠ 0 then none
    else
      let (c1Index, br) ← ueRrcBrGetBits 4 br
      if c1Index = 5 then decodeDlInfoTransfer br else none

/-- Of the common channel only RRCSetup is read. -/
def ueRrcDecodeDlCcch (data : Bytes) : Option UeRrcMessage :=
  if data.length < 1 then none
  else do
    let (choice, br) ← ueRrcBrGetBits 1 (ueRrcBrInit data)
    if choice ≠ 0 then none
    else
      let (c1Index, br) ← ueRrcBrGetBits 2 br
      if c1Index = 1 then
        let (txId, _) ← ueRrcBrGetBits 2 br
        some { type := .setup, nasPdu := [], rrcTransactionId := UInt8.ofNat txId }
      else none

/-! ## Room -/

@[simp] theorem bitsOfNat_length (v n : Nat) : (bitsOfNat v n).length = n := by
  induction n with
  | zero => rfl
  | succ n ih => simp [bitsOfNat, ih]

/-- Packing takes one octet per eight bits begun. -/
theorem bytesOfBits_length_lt (fuel : Nat) (bits : List Bool) :
    (bytesOfBits fuel bits).length * 8 < bits.length + 8 := by
  induction fuel generalizing bits with
  | zero => simp [bytesOfBits]
  | succ fuel ih =>
    cases bits with
    | nil => simp [bytesOfBits]
    | cons b rest =>
      have hrest := ih ((b :: rest).drop 8)
      rw [bytesOfBits, List.length_cons]
      rw [List.length_drop] at hrest
      simp only [List.length_cons] at hrest ⊢
      by_cases h8 : rest.length + 1 < 8
      · have hdrop : (b :: rest).drop 8 = [] := List.drop_of_length_le (by simp; omega)
        have hnil : bytesOfBits fuel ((b :: rest).drop 8) = [] := by
          rw [hdrop]
          cases fuel with
          | zero => rfl
          | succ fuel => rfl
        rw [hnil]
        simp
      · omega

theorem bytes_pos {bw : UeRrcBitwriter} (h : 0 < bw.bits.length) : 0 < bw.bytes.length := by
  obtain ⟨bufLen, bits⟩ := bw
  cases bits with
  | nil => simp at h
  | cons b rest => simp [UeRrcBitwriter.bytes, bytesOfBits]

theorem ueRrcBwPutBits_of_room (bw : UeRrcBitwriter) (val : Nat) {nbits : Nat}
    (hpos : 0 < nbits) (hmax : nbits ≤ 64) (hroom : bw.bits.length + nbits ≤ bw.bufLen * 8) :
    ∃ bw', ueRrcBwPutBits bw val nbits = some bw' ∧ bw'.bufLen = bw.bufLen ∧
      bw'.bits.length = bw.bits.length + nbits := by
  refine ⟨{ bw with bits := bw.bits ++ bitsOfNat val nbits }, ?_, rfl, by simp⟩
  rw [ueRrcBwPutBits, if_neg (by omega), if_neg (by omega)]

theorem ueRrcBwPutBytes_of_room (bw : UeRrcBitwriter) (b : Bytes)
    (hroom : bw.bits.length + 8 * b.length ≤ bw.bufLen * 8) :
    ∃ bw', ueRrcBwPutBytes bw b = some bw' ∧ bw'.bits.length = bw.bits.length + 8 * b.length := by
  induction b generalizing bw with
  | nil => exact ⟨bw, rfl, rfl⟩
  | cons x rest ih =>
    rw [List.length_cons] at hroom
    obtain ⟨bw₁, hput, hbuf, hlen⟩ :=
      ueRrcBwPutBits_of_room bw x.toNat (by decide : 0 < 8) (by decide) (by omega)
    obtain ⟨bw₂, hrest, hlen₂⟩ := ih bw₁ (by rw [hbuf, hlen]; omega)
    refine ⟨bw₂, ?_, ?_⟩
    · simp only [ueRrcBwPutBytes, hput, hrest, Option.bind_eq_bind, Option.bind_some]
    · rw [hlen₂, hlen, List.length_cons]
      omega

theorem uperPutLength_of_room (bw : UeRrcBitwriter) {len : Nat} (hlen : len < 16384)
    (hroom : bw.bits.length + 16 ≤ bw.bufLen * 8) :
    ∃ bw', uperPutLength bw len = some bw' ∧ bw'.bufLen = bw.bufLen ∧
      bw'.bits.length ≤ bw.bits.length + 16 := by
  unfold uperPutLength
  split
  · obtain ⟨bw', hput, hbuf, hbits⟩ :=
      ueRrcBwPutBits_of_room bw len (by decide : 0 < 8) (by decide) (by omega)
    exact ⟨bw', hput, hbuf, by omega⟩
  · obtain ⟨bw', hput, hbuf, hbits⟩ :=
      ueRrcBwPutBits_of_room bw (0x8000 ||| len) (by decide : 0 < 16) (by decide) hroom
    exact ⟨bw', hput, hbuf, by omega⟩

/-- A length and the octets it counts, at the end of a message. -/
theorem putOctetString_of_room (bw : UeRrcBitwriter) {nas : Bytes} (hlen : nas.length ≤ 8192)
    (hroom : bw.bits.length + 16 + 8 * nas.length ≤ bw.bufLen * 8) :
    ∃ bw₁ bw₂, uperPutLength bw nas.length = some bw₁ ∧ ueRrcBwPutBytes bw₁ nas = some bw₂ ∧
      8 * nas.length ≤ bw₂.bits.length ∧
      bw₂.bits.length ≤ bw.bits.length + 16 + 8 * nas.length := by
  obtain ⟨bw₁, hput, hbuf, hbits⟩ :=
    uperPutLength_of_room bw (show nas.length < 16384 by omega) (by omega)
  obtain ⟨bw₂, hbytes, hbits₂⟩ := ueRrcBwPutBytes_of_room bw₁ nas (by rw [hbuf]; omega)
  exact ⟨bw₁, bw₂, hput, hbytes, by omega, by omega⟩

/-- An uplink transfer of a NAS message encodes whenever the buffer has four octets to
spare. -/
theorem ueRrcEncodeUlInfoTransfer_of_room {bufLen : Nat} {nas : Bytes} (hpos : 0 < nas.length)
    (hlen : nas.length ≤ 8192) (hroom : nas.length + 4 ≤ bufLen) :
    ∃ pdu, ueRrcEncodeUlInfoTransfer bufLen nas = some pdu ∧ 0 < pdu.length ∧
      pdu.length ≤ nas.length + 4 := by
  have hbuf₀ : (ueRrcBwInit bufLen).bufLen = bufLen := rfl
  have hlen₀ : (ueRrcBwInit bufLen).bits.length = 0 := rfl
  obtain ⟨bw₁, hput₁, hbuf₁, hlen₁⟩ :=
    ueRrcBwPutBits_of_room (ueRrcBwInit bufLen) 0 (by decide : 0 < 1) (by decide) (by omega)
  obtain ⟨bw₂, hput₂, hbuf₂, hlen₂⟩ :=
    ueRrcBwPutBits_of_room bw₁ 7 (by decide : 0 < 4) (by decide) (by omega)
  obtain ⟨bw₃, hput₃, hbuf₃, hlen₃⟩ :=
    ueRrcBwPutBits_of_room bw₂ 0 (by decide : 0 < 1) (by decide) (by omega)
  obtain ⟨bw₄, hput₄, hbuf₄, hlen₄⟩ :=
    ueRrcBwPutBits_of_room bw₃ 0b100 (by decide : 0 < 3) (by decide) (by omega)
  obtain ⟨bw₅, bw₆, hput₅, hput₆, hlow, hhigh⟩ :=
    putOctetString_of_room bw₄ hlen (by omega)
  have hpack : bw₆.bytes.length * 8 < bw₆.bits.length + 8 := bytesOfBits_length_lt _ _
  refine ⟨bw₆.bytes, ?_, bytes_pos (by omega), by omega⟩
  rw [ueRrcEncodeUlInfoTransfer, if_neg (by simp only [ueRrcMaxNasSize]; omega)]
  simp only [hput₁, hput₂, hput₃, hput₄, hput₅, hput₆, Option.bind_eq_bind, Option.bind_some]

/-- The setup complete message encodes whenever the buffer has five octets to spare. -/
theorem ueRrcEncodeSetupComplete_of_room {bufLen : Nat} (txId : UInt8) {plmnId : UInt32}
    (hplmn : 1 ≤ plmnId ∧ plmnId ≤ 12) {nas : Bytes} (hpos : 0 < nas.length)
    (hlen : nas.length ≤ 8192) (hroom : nas.length + 5 ≤ bufLen) :
    ∃ pdu, ueRrcEncodeSetupComplete bufLen txId plmnId nas = some pdu ∧ 0 < pdu.length ∧
      pdu.length ≤ nas.length + 5 := by
  have hbuf₀ : (ueRrcBwInit bufLen).bufLen = bufLen := rfl
  have hlen₀ : (ueRrcBwInit bufLen).bits.length = 0 := rfl
  obtain ⟨bw₁, hput₁, hbuf₁, hlen₁⟩ :=
    ueRrcBwPutBits_of_room (ueRrcBwInit bufLen) 0 (by decide : 0 < 1) (by decide) (by omega)
  obtain ⟨bw₂, hput₂, hbuf₂, hlen₂⟩ :=
    ueRrcBwPutBits_of_room bw₁ 2 (by decide : 0 < 4) (by decide) (by omega)
  obtain ⟨bw₃, hput₃, hbuf₃, hlen₃⟩ :=
    ueRrcBwPutBits_of_room bw₂ (txId &&& 0x03).toNat (by decide : 0 < 2) (by decide) (by omega)
  obtain ⟨bw₄, hput₄, hbuf₄, hlen₄⟩ :=
    ueRrcBwPutBits_of_room bw₃ 0 (by decide : 0 < 1) (by decide) (by omega)
  obtain ⟨bw₅, hput₅, hbuf₅, hlen₅⟩ :=
    ueRrcBwPutBits_of_room bw₄ 0 (by decide : 0 < 6) (by decide) (by omega)
  obtain ⟨bw₆, hput₆, hbuf₆, hlen₆⟩ :=
    ueRrcBwPutBits_of_room bw₅ (plmnId - 1).toNat (by decide : 0 < 4) (by decide) (by omega)
  obtain ⟨bw₇, bw₈, hput₇, hput₈, hlow, hhigh⟩ :=
    putOctetString_of_room bw₆ hlen (by omega)
  have hpack : bw₈.bytes.length * 8 < bw₈.bits.length + 8 := bytesOfBits_length_lt _ _
  refine ⟨bw₈.bytes, ?_, bytes_pos (by omega), by omega⟩
  rw [ueRrcEncodeSetupComplete, if_neg (by simp only [ueRrcMaxNasSize]; omega),
    if_neg (not_or.mpr ⟨UInt32.not_lt.mpr hplmn.1, UInt32.not_lt.mpr hplmn.2⟩)]
  simp only [hput₁, hput₂, hput₃, hput₄, hput₅, hput₆, hput₇, hput₈, Option.bind_eq_bind,
    Option.bind_some]

end VirtualLte.Rrc
