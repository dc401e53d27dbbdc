import VirtualLte.Bytes

/-!
# MBIM messages

The words, message types and services of `mbim_protocol.h`, and the builder of
`mbim_wire.c` for information buffers.

* Words are little endian here (`putLe32`, `getLe32`), unlike in the rest of the
  source.
* `MbimWireBuilder` lays out an information buffer.  Its memory is the list of the
  writes made to it, so that a write past the reserved part stays visible.
* `commandDone` is the frame of every answer to a command: the header that
  `init_command_done` starts and the information buffer behind it.
-/

namespace VirtualLte.Mbim

/-! ## Words -/

def putLe32 (v : UInt32) : Bytes :=
  [v.toUInt8, (v >>> 8).toUInt8, (v >>> 16).toUInt8, (v >>> 24).toUInt8]

/-- `get_le32(&b[i])`. -/
def getLe32 (b : Bytes) (i : Nat) : UInt32 :=
  (octet b i).toUInt32 ||| ((octet b (i + 1)).toUInt32 <<< 8) |||
    ((octet b (i + 2)).toUInt32 <<< 16) ||| ((octet b (i + 3)).toUInt32 <<< 24)

/-- Consecutive words. -/
def le32s (vs : List UInt32) : Bytes := vs.flatMap putLe32

/-- `memcpy` of `n` octets from offset `off`. -/
def slice (b : Bytes) (off n : Nat) : Bytes := (List.range n).map fun i => octet b (off + i)

@[simp] theorem putLe32_length (v : UInt32) : (putLe32 v).length = 4 := rfl

@[simp] theorem slice_length (b : Bytes) (off n : Nat) : (slice b off n).length = n := by
  simp [slice]

/-- What a buffer copies from behind its first part. -/
theorem slice_append_mid (a b rest : Bytes) : slice (a ++ (b ++ rest)) a.length b.length = b := by
  apply List.ext_getElem
  · rw [slice_length]
  · intro k hk hk'
    simp only [slice, List.getElem_map, List.getElem_range]
    rw [octet_append_right (Nat.le_add_right _ _), Nat.add_sub_cancel_left, octet_append_left hk',
      octet_eq_getElem hk']

/-- A word inside the first part of a buffer. -/
theorem getLe32_append_left {b : Bytes} {i : Nat} (h : i + 4 ≤ b.length) (rest : Bytes) :
    getLe32 (b ++ rest) i = getLe32 b i := by
  unfold getLe32
  rw [octet_append_left (by omega), octet_append_left (by omega), octet_append_left (by omega),
    octet_append_left (by omega)]

/-- A word behind the first part of a buffer. -/
theorem getLe32_append_right (b rest : Bytes) (i : Nat) :
    getLe32 (b ++ rest) (b.length + i) = getLe32 rest i := by
  unfold getLe32
  rw [octet_append_right (by omega), octet_append_right (by omega), octet_append_right (by omega),
    octet_append_right (by omega)]
  congr <;> omega

private theorem or_reverse (a b c d : UInt32) : a ||| b ||| c ||| d = d ||| c ||| b ||| a := by
  rw [UInt32.or_comm _ d, UInt32.or_comm _ c, UInt32.or_comm a b, UInt32.or_assoc d, UInt32.or_assoc d,
    UInt32.or_assoc c]

/-- A word survives being written and read back. -/
theorem getLe32_putLe32 (v : UInt32) (rest : Bytes) : getLe32 (putLe32 v ++ rest) 0 = v := by
  have hlen : 0 + 4 ≤ (putLe32 v).length := Nat.le_refl 4
  rw [getLe32_append_left hlen]
  -- the four octets of `getBe32`, in the other order
  exact (or_reverse _ _ _ _).trans (getBe32_putBe32 v)

/-! ## Messages -/

def mbimOpenMsg : UInt32 := 0x00000001
def mbimCloseMsg : UInt32 := 0x00000002
def mbimCommandMsg : UInt32 := 0x00000003
def mbimOpenDone : UInt32 := 0x80000001
def mbimCloseDone : UInt32 := 0x80000002
def mbimCommandDone : UInt32 := 0x80000003
def mbimIndicateStatusMsg : UInt32 := 0x80000007
def mbimStatusSuccess : UInt32 := 0x00000000
/-- The generic failure status, written as a literal in the source. -/
def mbimStatusFailure : UInt32 := 0x00000001

def uuidBasicConnect : Bytes :=
  [0xa2, 0x89, 0xcc, 0x33, 0xbc, 0xbb, 0x8b, 0x4f, 0xb6, 0xb0, 0x13, 0x3e, 0xc2, 0xaa, 0xe6, 0xdf]

def uuidExtQmux : Bytes :=
  [0xd1, 0xa3, 0x0b, 0xc2, 0xf9, 0x7a, 0x6e, 0x43, 0xbf, 0x65, 0xc7, 0xe2, 0x4f, 0xb0, 0xf0, 0xd3]

def uuidBasicConnectExtensions : Bytes :=
  [0x3d, 0x01, 0xdc, 0xc5, 0xfe, 0xf5, 0x4d, 0x05, 0x0d, 0x3a, 0xbe, 0xf7, 0x05, 0x8e, 0x9a, 0xaf]

def uuidSms : Bytes :=
  [0x53, 0x3f, 0xbe, 0xeb, 0x14, 0xfe, 0x44, 0x67, 0x9f, 0x90, 0x33, 0xa2, 0x23, 0xe5, 0x6c, 0x3f]

/-- The message type, as the channel reads it: zero when there is no word to read. -/
def msgType (b : Bytes) : UInt32 := if b.length ≥ 4 then getLe32 b 0 else 0

/-- The transaction id, if the message is long enough to have one. -/
def transactionId (b : Bytes) : Option UInt32 :=
  if b.length ≥ 12 then some (getLe32 b 8) else none

theorem msgType_putLe32 (v : UInt32) (rest : Bytes) : msgType (putLe32 v ++ rest) = v := by
  have hlen : (putLe32 v ++ rest).length ≥ 4 := by
    rw [List.length_append, putLe32_length]
    omega
  rw [msgType, if_pos hlen, getLe32_putLe32]

/-- The third word of a message is its transaction id. -/
theorem transactionId_words (a b tid : UInt32) (rest : Bytes) :
    transactionId (putLe32 a ++ putLe32 b ++ putLe32 tid ++ rest) = some tid := by
  have hlen : (putLe32 a ++ putLe32 b ++ putLe32 tid ++ rest).length ≥ 12 := by
    simp only [List.length_append, putLe32_length]
    omega
  rw [transactionId, if_pos hlen, List.append_assoc,
    show (8 : Nat) = (putLe32 a ++ putLe32 b).length + 0 from rfl, getLe32_append_right,
    getLe32_putLe32]

/-- A COMMAND_DONE: the header that `init_command_done` starts, with the lengths and the
status filled in, and the information buffer. -/
def commandDone (cmd : Bytes) (tid cid status : UInt32) (info : Bytes) : Bytes :=
  putLe32 mbimCommandDone ++ putLe32 (48 + UInt32.ofNat info.length) ++ putLe32 tid ++
    (le32s [1, 0] ++ slice cmd 20 16 ++ le32s [cid, status, UInt32.ofNat info.length] ++ info)

theorem commandDone_msgType (cmd : Bytes) (tid cid status : UInt32) (info : Bytes) :
    msgType (commandDone cmd tid cid status info) = mbimCommandDone := by
  unfold commandDone
  rw [List.append_assoc, List.append_assoc]
  exact msgType_putLe32 _ _

theorem commandDone_transactionId (cmd : Bytes) (tid cid status : UInt32) (info : Bytes) :
    transactionId (commandDone cmd tid cid status info) = some tid :=
  transactionId_words _ _ _ _

/-! ## The builder -/

structure MbimWireBuilder where
  cap : UInt32
  len : UInt32 := 0
  frameBase : UInt32 := 0
  overflow : Bool := false
  /-- The writes made so far, newest first; the memory is zero where there was none. -/
  buf : List (Nat × Bytes) := []
  deriving DecidableEq, Repr

structure MbimString where
  offset : UInt32 := 0
  length : UInt32 := 0
  deriving DecidableEq, Repr

def mbimWireInit (cap : UInt32) : MbimWireBuilder := { cap }

def MbimWireBuilder.put (b : MbimWireBuilder) (off : Nat) (data : Bytes) : MbimWireBuilder :=
  { b with buf := (off, data) :: b.buf }

/-- `put_le32` into the information buffer. -/
def MbimWireBuilder.putLe32 (b : MbimWireBuilder) (off : Nat) (v : UInt32) : MbimWireBuilder :=
  b.put off (Mbim.putLe32 v)

def MbimWireBuilder.putLe32s (b : MbimWireBuilder) (off : Nat) (vs : List UInt32) :
    MbimWireBuilder :=
  b.put off (le32s vs)

def mbimWirePutString (b : MbimWireBuilder) (off : Nat) (v : MbimString) : MbimWireBuilder :=
  b.putLe32s off [v.offset, v.length]

/-- The octet the newest write left at index `i`. -/
def byteAt : List (Nat × Bytes) → Nat → UInt8
  | [], _ => 0
  | (off, data) :: writes, i =>
    if off ≤ i ∧ i < off + data.length then octet data (i - off) else byteAt writes i

/-- The information buffer up to the high-water mark. -/
def MbimWireBuilder.info (b : MbimWireBuilder) : Bytes :=
  (List.range b.len.toNat).map (byteAt b.buf)

def mbimWireReserve (b : MbimWireBuilder) (n : UInt32) : UInt32 × MbimWireBuilder :=
  let off := b.len
  if n > b.cap || off > b.cap - n then (off, { b with overflow := true })
  else
    let cleared := if n ≠ 0 then b.put off.toNat (List.replicate n.toNat 0) else b
    (off, { cleared with len := off + n })

def mbimAlign4 (v : UInt32) : UInt32 := (v + 3) &&& ~~~(3 : UInt32)

def mbimWireWriteUtf16le (src : Bytes) : Bytes := src.flatMap fun c => [c, 0]

/-- No caller looks at the source's result, which says whether the string fitted. -/
def mbimWireAppendString (b : MbimWireBuilder) (ascii : Bytes) : MbimString × MbimWireBuilder :=
  let utf16Len := UInt32.ofNat ascii.length * 2
  let padded := mbimAlign4 utf16Len
  if utf16Len = 0 then ({}, b)
  else
    let (off, b) := mbimWireReserve b padded
    if b.overflow then ({}, b)
    else
      ({ offset := off - b.frameBase, length := utf16Len },
        b.put off.toNat (mbimWireWriteUtf16le ascii))

/-- `mbim_wire_finalize`. -/
def mbimWireFinalize (b : MbimWireBuilder) : Bool :=
  !(b.overflow || b.len > b.cap)

end VirtualLte.Mbim
