import VirtualLte.Mbim.Wire

/-!
# The SMS store

The incoming messages that `mbim_handlers.c` keeps for the host, and the information
buffer in which the host reads them.

* `mbimHandlersSmsStoreAppend` and `smsStoreDelete` change the eight slots.
* `smsBuildReadInfo` writes the messages one read mode selects, and marks them as it
  goes: a read makes a message old, the unsolicited push makes it notified.
-/

namespace VirtualLte.Mbim

def mbimSmsStoreMax : Nat := 8
def mbimSmsPduMax : Nat := 256

structure MbimSmsStoreEntry where
  used : Bool := false
  /-- New as opposed to old; cleared only when the host reads the message. -/
  unread : Bool := false
  /-- An SMS_READ indication was pushed for this message. -/
  notified : Bool := false
  index : UInt32 := 0
  /-- `pdu[0..pdu_len)`. -/
  pdu : Bytes := []
  deriving DecidableEq, Repr

structure SmsStore where
  slots : Vector MbimSmsStoreEntry mbimSmsStoreMax := Vector.replicate _ {}
  nextIndex : UInt32 := 1
  deriving DecidableEq, Repr

/-- The first free slot; a full store gives up slot zero. -/
def SmsStore.freeSlot (store : SmsStore) : Nat :=
  (store.slots.toList.findIdx? fun e => !e.used).getD 0

/-- Store a PDU under the next index, which the caller gets back. -/
def mbimHandlersSmsStoreAppend (store : SmsStore) (pdu : Bytes) : Option (UInt32 × SmsStore) :=
  if pdu.length = 0 ∨ pdu.length > mbimSmsPduMax then none
  else
    let entry : MbimSmsStoreEntry :=
      { used := true, unread := true, notified := false, index := store.nextIndex, pdu }
    some (store.nextIndex,
      { slots := store.slots.setIfInBounds store.freeSlot entry
        nextIndex := store.nextIndex + 1 })

/-- The index of the first unread message. -/
def mbimHandlersSmsStoreHasUnread (store : SmsStore) : Option UInt32 :=
  (store.slots.toList.find? fun e => e.used && e.unread).map (·.index)

/-- Index zero names every message. -/
def smsStoreDelete (store : SmsStore) (index : UInt32) : SmsStore :=
  { store with
    slots := store.slots.map fun e =>
      if e.used && (index = 0 || e.index = index) then {} else e }

/-! ## Reading the store -/

inductive SmsReadMode where
  /-- The host reads everything. -/
  | query
  /-- The host reads what it has not read. -/
  | queryNew
  /-- The unsolicited push of what was not pushed. -/
  | notify
  deriving DecidableEq, Repr

def smsEntryIncluded (e : MbimSmsStoreEntry) (mode : SmsReadMode) : Bool :=
  if !e.used then false
  else
    match mode with
    | .queryNew => e.unread
    | .notify => !e.notified
    | .query => true

/-- A pushed message stays new until the host reads it. -/
def MbimSmsStoreEntry.mark (e : MbimSmsStoreEntry) (mode : SmsReadMode) : MbimSmsStoreEntry :=
  match mode with
  | .notify => { e with notified := true }
  | _ => { e with unread := false }

/-- One record behind the others, and its pair in the reference list. -/
def smsWriteRecord (b : MbimWireBuilder) (reflistOff : UInt32) (written : Nat)
    (e : MbimSmsStoreEntry) : MbimWireBuilder :=
  let (recOff, b) := mbimWireReserve b 16
  let b := { b with frameBase := recOff }
  let pduLen := UInt32.ofNat e.pdu.length
  let (pduOff, b) := mbimWireReserve b (mbimAlign4 pduLen)
  let b := if b.overflow then b else b.put pduOff.toNat e.pdu
  let pduRef : MbimString := { offset := pduOff - recOff, length := pduLen }
  let b := { b with frameBase := 0 }
  let b := b.putLe32 recOff.toNat e.index
  let b := b.putLe32 (recOff.toNat + 4) (if e.unread then 0 else 1)
  let b := mbimWirePutString b (recOff.toNat + 8) pduRef
  let recSize := b.len - recOff
  mbimWirePutString b (reflistOff.toNat + written * 8) { offset := recOff, length := recSize }

/-- The loop of `sms_build_read_info` from slot `i` on. -/
def smsWriteRecords (mode : SmsReadMode) (reflistOff : UInt32) (count : Nat) :
    List MbimSmsStoreEntry → MbimWireBuilder → Nat → List MbimSmsStoreEntry × MbimWireBuilder × Nat
  | [], b, written => ([], b, written)
  | e :: rest, b, written =>
    if written < count && smsEntryIncluded e mode then
      let b := smsWriteRecord b reflistOff written e
      let (rest, b, written) := smsWriteRecords mode reflistOff count rest b (written + 1)
      (e.mark mode :: rest, b, written)
    else
      let (rest, b, written) := smsWriteRecords mode reflistOff count rest b written
      (e :: rest, b, written)

/-- The information buffer, empty when it did not fit, and the store with its marks.  The
marks are set even then. -/
def smsBuildReadInfo (store : SmsStore) (outCap : UInt32) (mode : SmsReadMode) :
    MbimWireBuilder × SmsStore :=
  let count := store.slots.toList.countP fun e => smsEntryIncluded e mode
  let b := mbimWireInit outCap
  let (_, b) := mbimWireReserve b 8
  let (reflistOff, b) := mbimWireReserve b (8 * UInt32.ofNat count)
  let (entries, b, written) :=
    smsWriteRecords mode reflistOff count store.slots.toList b 0
  let b := b.putLe32 0 0
  let b := b.putLe32 4 (UInt32.ofNat written)
  (b, { store with slots := Vector.ofFn fun i => entries.getD i.val {} })

/-- What the caller of `sms_build_read_info` has: zero octets on overflow. -/
def smsReadInfo (b : MbimWireBuilder) : Bytes := if mbimWireFinalize b then b.info else []

/-- The buffer of an unsolicited SMS_READ, if a message was not pushed yet. -/
def mbimHandlersBuildSmsReadIndication (store : SmsStore) (outCap : UInt32) :
    Option (Bytes × SmsStore) :=
  if store.slots.toList.any fun e => e.used && !e.notified then
    let (b, store) := smsBuildReadInfo store outCap .notify
    some (smsReadInfo b, store)
  else none

end VirtualLte.Mbim
