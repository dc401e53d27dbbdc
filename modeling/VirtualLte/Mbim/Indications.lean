import VirtualLte.Mbim.Handlers

/-!
# Spontaneous messages

The messages the device sends without being asked.

* `mbim_indications.c` frames a payload as INDICATE_STATUS; a message of more than
  512 octets is given up.
* `mbim_vendor_qmux.c` answers QMI_CTL_SYNC with a COMMAND_DONE of its own, and
  defers one indication behind the first answer.
-/

namespace VirtualLte.Mbim

/-! ## INDICATE_STATUS -/

def indicateStatus (serviceId : Bytes) (cid : UInt32) (payload : Bytes) : Bytes :=
  putLe32 mbimIndicateStatusMsg ++
    (le32s [UInt32.ofNat (44 + payload.length), 0, 1, 0] ++ serviceId ++
      le32s [cid, UInt32.ofNat payload.length] ++ payload)

/-- The message handed to the enqueue function, if it fits its buffer. -/
def queueIndicationUuidCid (serviceId : Bytes) (cid : UInt32) (payload : Bytes) : Option Bytes :=
  if 44 + payload.length > 512 then none else some (indicateStatus serviceId cid payload)

theorem queueIndicationUuidCid_msgType {serviceId payload msg : Bytes} {cid : UInt32}
    (h : queueIndicationUuidCid serviceId cid payload = some msg) :
    msgType msg = mbimIndicateStatusMsg := by
  unfold queueIndicationUuidCid at h
  split at h
  · cases h
  · cases h
    exact msgType_putLe32 _ _

def mbimCidRegisterState : UInt32 := 9
def mbimCidPacketService : UInt32 := 10
def mbimExtCidLteAttachStatus : UInt32 := 4
def mbimCidSmsRead : UInt32 := 2
def mbimCidSmsMessageStoreStatus : UInt32 := 5

def packetServiceAttaching : Option Bytes :=
  queueIndicationUuidCid uuidBasicConnect mbimCidPacketService (le32s [0, 1, 0, 0, 0, 0, 0])

def packetServiceAttached : Option Bytes :=
  queueIndicationUuidCid uuidBasicConnect mbimCidPacketService
    (le32s [0, 2, 0x20, 50000000, 0, 100000000, 0])

def packetServiceDetached : Option Bytes :=
  queueIndicationUuidCid uuidBasicConnect mbimCidPacketService (le32s [0, 0, 0, 0, 0, 0, 0])

/-- The register-state payload without a provider: 48 octets. -/
def registerStatePayload (state : UInt32) : Bytes :=
  le32s [0, state, 1, 0, 1, 0, 0, 0, 0, 0, 0, 2]

def registerStateSearching : Option Bytes :=
  queueIndicationUuidCid uuidBasicConnect mbimCidRegisterState (registerStatePayload 2)

def registerStateDeregistered : Option Bytes :=
  queueIndicationUuidCid uuidBasicConnect mbimCidRegisterState (registerStatePayload 1)

/-- At most `cap` octets of UTF-16. -/
def writeUtf16leAscii (src : Bytes) (cap : Nat) : Bytes := mbimWireWriteUtf16le (src.take (cap / 2))

/-- A field of `cap` octets, zero behind its content. -/
def padTo (cap : Nat) (b : Bytes) : Bytes := b ++ List.replicate (cap - b.length) 0

def registerStateHome (modem : ModemState) : Option Bytes :=
  let plmn := writeUtf16leAscii modem.oper.plmn 12
  let name := writeUtf16leAscii modem.oper.name 16
  queueIndicationUuidCid uuidBasicConnect mbimCidRegisterState
    (le32s [0, 3, 1, 0x20, 1, 48, UInt32.ofNat plmn.length, 60, UInt32.ofNat name.length, 0, 0, 2] ++
      padTo 12 plmn ++ padTo 16 name)

/-- The same layout as the answer to the query, in a payload of 256 octets. -/
def lteAttachStatusIndication (modem : ModemState) : Option Bytes :=
  let apn := if modem.apn ≠ [] then modem.apn else apnInternet
  queueIndicationUuidCid uuidBasicConnectExtensions mbimExtCidLteAttachStatus
    (lteAttachStatus 256 modem.packetAttached apn)

def smsMessageStoreStatus (messageIndex : UInt32) : Option Bytes :=
  queueIndicationUuidCid uuidSms mbimCidSmsMessageStoreStatus
    (le32s [mbimSmsStatusFlagNewMessage, messageIndex])

def smsReadIndication (info : Bytes) : Option Bytes :=
  if info.length = 0 then none else queueIndicationUuidCid uuidSms mbimCidSmsRead info

/-! ## QMUX -/

structure MbimVendorQmuxState where
  syncIndSent : Bool := false
  syncIndPending : Bool := false
  /-- `sync_ind_buf[0..sync_ind_len)`. -/
  syncInd : Bytes := []
  deriving DecidableEq, Repr

/-- The COMMAND_DONE of a QMI_CTL_SYNC: octets 7 to 9 of the request come back. -/
def ctlSyncDone (cmd : Bytes) (event : MbimVendorEvent) : Bytes :=
  let q := event.qmiPayload
  commandDone cmd event.tid event.cid mbimStatusSuccess
    [0x01, 0x11, 0x00, 0x80, 0x00, 0x00, 0x00, octet cmd (q + 7), octet cmd (q + 8),
      octet cmd (q + 9), 0x07, 0x00, 0x02, 0x04, 0x00, 0x00, 0x00, 0x00, 0x00]

/-- After the answer was queued: the first answer is followed by an indication. -/
def deferSyncInd (st : MbimVendorQmuxState) (cid : UInt32) : MbimVendorQmuxState :=
  if st.syncIndSent then st
  else
    { st with
      syncInd := indicateStatus uuidExtQmux cid
        [0x01, 0x0b, 0x00, 0x80, 0x00, 0x00, 0x02, 0x00, 0x27, 0x00, 0x00, 0x00]
      syncIndPending := true }

/-- The deferred indication, and the state once it is marked sent. -/
def takePendingIndication (st : MbimVendorQmuxState) : Bytes × MbimVendorQmuxState :=
  if !st.syncIndPending || st.syncInd.length = 0 || st.syncInd.length > 4096 then
    ([], { st with syncIndSent := true, syncInd := [] })
  else (st.syncInd, { syncIndSent := true, syncIndPending := false, syncInd := [] })

/-- What is deferred is an indication. -/
def MbimVendorQmuxState.Wf (st : MbimVendorQmuxState) : Prop :=
  st.syncInd = [] ∨ msgType st.syncInd = mbimIndicateStatusMsg

theorem deferSyncInd_wf {st : MbimVendorQmuxState} (h : st.Wf) (cid : UInt32) :
    (deferSyncInd st cid).Wf := by
  unfold deferSyncInd
  split
  · exact h
  · exact Or.inr (msgType_putLe32 _ _)

theorem takePendingIndication_wf (st : MbimVendorQmuxState) : (takePendingIndication st).2.Wf := by
  unfold takePendingIndication
  split <;> exact Or.inl rfl

theorem takePendingIndication_msgType {st : MbimVendorQmuxState} (h : st.Wf)
    (hne : (takePendingIndication st).1 ≠ []) :
    msgType (takePendingIndication st).1 = mbimIndicateStatusMsg := by
  unfold takePendingIndication at hne ⊢
  split at hne
  · exact absurd rfl hne
  · rename_i hcond
    rw [if_neg hcond]
    exact h.resolve_left hne

end VirtualLte.Mbim
