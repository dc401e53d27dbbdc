import VirtualLte.Mbim.Channel

/-!
# Control transfers

`ep0_dispatch.c` and `ep0_request.c`: one SETUP packet, the handler it goes to, and the
transfers on endpoint zero that follow, with the descriptors of `usb_transport.c`.

* A handler fills the data buffer and sets a length, or consumes the request, or stalls.
* The dispatcher cuts the length to `wLength`, asks for a zero-length packet behind a
  short reply, and issues the transfer in the direction of the request.
* `Ep0Transfer` records what is handed to the kernel: the length is what it will move, in
  a buffer of 4096 octets.
-/

namespace VirtualLte.Ep0

open Mbim

/-! ## Requests -/

structure UsbCtrlRequest where
  bRequestType : UInt8
  bRequest : UInt8
  wValue : UInt16
  wIndex : UInt16
  wLength : UInt16
  deriving DecidableEq, Repr

def usbDirIn : UInt8 := 0x80
def usbTypeMask : UInt8 := 0x60
def usbTypeStandard : UInt8 := 0x00
def usbTypeClass : UInt8 := 0x20

def UsbCtrlRequest.isIn (ctrl : UsbCtrlRequest) : Bool := ctrl.bRequestType &&& usbDirIn ≠ 0

def UsbCtrlRequest.isClass (ctrl : UsbCtrlRequest) : Bool :=
  ctrl.bRequestType &&& usbTypeMask = usbTypeClass

def usbCdcSendEncapsulatedCommand : UInt8 := 0x00
def usbCdcGetEncapsulatedResponse : UInt8 := 0x01
def usbCdcSetLineCoding : UInt8 := 0x20
def usbCdcGetLineCoding : UInt8 := 0x21
def usbCdcSetControlLineState : UInt8 := 0x22
def usbCdcGetNtbParameters : UInt8 := 0x80

/-! ## Descriptors -/

def usbDevice : Bytes :=
  [18, 1, 0x00, 0x02, 0xef, 0x02, 0x01, 64, 0x7c, 0x2c, 0x00, 0x08, 0x00, 0x01, 1, 2, 3, 1]

def usbQualifier : Bytes := [10, 6, 0x00, 0x02, 0xef, 0x02, 0x01, 64, 1, 0]

def ntbParams : Bytes :=
  [0x1c, 0x00, 0x01, 0x00, 0x00, 0x10, 0x00, 0x00, 0x04, 0x00, 0x00, 0x00, 0x04, 0x00, 0x00, 0x00,
    0x00, 0x10, 0x00, 0x00, 0x04, 0x00, 0x00, 0x00, 0x04, 0x00, 0x00, 0x00]

def lineCoding : Bytes := [0x00, 0xc2, 0x01, 0x00, 0x00, 0x00, 0x08]

/-- The configuration behind its total length: an MBIM function and a serial one. -/
def usbConfigBody : Bytes :=
  [0x04, 0x01, 0x00, 0xc0, 0x32,
    0x08, 0x0b, 0x00, 0x02, 0x02, 0x0e, 0x00, 0x00,
    0x09, 0x04, 0x00, 0x00, 0x01, 0x02, 0x0e, 0x00, 0x00,
    0x05, 0x24, 0x00, 0x10, 0x01,
    0x05, 0x24, 0x06, 0x00, 0x01,
    0x0c, 0x24, 0x1b, 0x00, 0x01, 0x00, 0x10, 0x08, 0x80, 0x05, 0x00, 0x06,
    0x08, 0x24, 0x1c, 0x00, 0x01, 0x20, 0x00, 0x00,
    0x07, 0x05, 0x81, 0x03, 0x10, 0x00, 0x09,
    0x09, 0x04, 0x01, 0x00, 0x00, 0x0a, 0x00, 0x02, 0x00,
    0x09, 0x04, 0x01, 0x01, 0x02, 0x0a, 0x00, 0x02, 0x00,
    0x07, 0x05, 0x02, 0x02, 0x00, 0x02, 0x00,
    0x07, 0x05, 0x83, 0x02, 0x00, 0x02, 0x00,
    0x08, 0x0b, 0x02, 0x02, 0x02, 0x02, 0x01, 0x00,
    0x09, 0x04, 0x02, 0x00, 0x01, 0x02, 0x02, 0x01, 0x00,
    0x05, 0x24, 0x00, 0x10, 0x01,
    0x04, 0x24, 0x02, 0x02,
    0x05, 0x24, 0x06, 0x02, 0x03,
    0x05, 0x24, 0x01, 0x00, 0x03,
    0x07, 0x05, 0x84, 0x03, 0x10, 0x00, 0x09,
    0x09, 0x04, 0x03, 0x00, 0x02, 0x0a, 0x00, 0x00, 0x00,
    0x07, 0x05, 0x05, 0x02, 0x00, 0x02, 0x00,
    0x07, 0x05, 0x86, 0x02, 0x00, 0x02, 0x00]

def usbTransportBuildConfig : Bytes :=
  let total := UInt16.ofNat (4 + usbConfigBody.length)
  [0x09, 0x02, total.toUInt8, (total >>> 8).toUInt8] ++ usbConfigBody

/-- The texts of the string descriptors. -/
def usbString : Nat → Bytes
  -- "Quectel"
  | 1 => [0x51, 0x75, 0x65, 0x63, 0x74, 0x65, 0x6c]
  -- "Virtual MBIM Modem"
  | 2 => [0x56, 0x69, 0x72, 0x74, 0x75, 0x61, 0x6c, 0x20, 0x4d, 0x42, 0x49, 0x4d, 0x20, 0x4d, 0x6f,
      0x64, 0x65, 0x6d]
  -- "deadbeef0001"
  | 3 => [0x64, 0x65, 0x61, 0x64, 0x62, 0x65, 0x65, 0x66, 0x30, 0x30, 0x30, 0x31]
  -- "x"
  | _ => [0x78]

/-- A string descriptor in a buffer of 4096 octets, which each of the texts fits. -/
def usbTransportMakeString (idx : Nat) : Bytes :=
  if idx = 0 then [4, 3, 0x09, 0x04]
  else
    let s := usbString idx
    [UInt8.ofNat (2 + s.length * 2), 3] ++ mbimWireWriteUtf16le s

/-! ## Handlers -/

/-- Octets of `usb_raw_control_io.data`. -/
def controlDataLen : Nat := 4096

inductive Ep0Direction where
  | read
  | write
  deriving DecidableEq, Repr

/-- One USB_RAW_IOCTL_EP0_READ or EP0_WRITE. -/
structure Ep0Transfer where
  dir : Ep0Direction
  length : Nat
  /-- USB_RAW_IO_FLAGS_ZERO. -/
  zero : Bool := false
  deriving DecidableEq, Repr

inductive Ep0Result where
  /-- The data buffer, zero behind `data`, and the length of the reply. -/
  | reply (data : Bytes) (length : Nat)
  | consumed
  | stall
  deriving DecidableEq, Repr

/-- A reply that fills the buffer as far as it goes. -/
def Ep0Result.bytes (data : Bytes) : Ep0Result := .reply data data.length

/-- What surrounds a request: the calls behind the handlers, the octets the host sends with
it, and what the kernel answers to the enabling of the interrupt endpoint. -/
structure Ep0Env where
  acts : HandlerActions
  hostData : Bytes
  epInt : Int

/-- What a handler leaves: its result, the channel, and the transfers it issued itself. -/
structure Ep0Handled where
  result : Ep0Result
  channel : Channel
  transfers : List Ep0Transfer := []

/-- The `n` octets a read leaves in the cleared buffer. -/
def ep0Read (hostData : Bytes) (n : Nat) : Bytes :=
  hostData.take n ++ List.replicate (n - hostData.length) 0

/-- `core_on_send_encapsulated_command` with its read. -/
def onSendEncapsulatedCommand (env : Ep0Env) (s : Channel) (wLength : UInt16) : Ep0Handled :=
  let copyLen := min wLength.toNat controlDataLen
  { result := .consumed
    channel := coreOnSendEncapsulatedCommand env.acts s (ep0Read env.hostData copyLen)
    transfers := [{ dir := .read, length := copyLen }] }

/-- `core_on_get_encapsulated_response`; the copy is bounded by its buffer. -/
def onGetEncapsulatedResponse (env : Ep0Env) (s : Channel) (wLength : UInt16) : Ep0Handled :=
  { result := .bytes ((mbimRespDequeue s).1.take 4096)
    channel := (coreOnGetEncapsulatedResponse env.acts s wLength).2 }

def getDescriptor (s : Channel) (ctrl : UsbCtrlRequest) : Ep0Handled :=
  match (ctrl.wValue >>> 8).toNat with
  | 1 => { result := .bytes usbDevice, channel := s }
  | 6 => { result := .bytes usbQualifier, channel := s }
  | 2 => { result := .bytes usbTransportBuildConfig, channel := s }
  | 3 => { result := .bytes (usbTransportMakeString (ctrl.wValue &&& 0xff).toNat), channel := s }
  | _ => { result := .stall, channel := s }

def standardRequest (env : Ep0Env) (s : Channel) (ctrl : UsbCtrlRequest) : Ep0Handled :=
  match ctrl.bRequest.toNat with
  -- GET_DESCRIPTOR
  | 6 => getDescriptor s ctrl
  -- SET_CONFIGURATION
  | 9 => { result := .bytes [], channel := setConfiguration s env.epInt }
  -- GET_CONFIGURATION
  | 8 => { result := .bytes [1], channel := s }
  -- SET_INTERFACE
  | 11 => { result := .bytes [], channel := s }
  -- GET_INTERFACE
  | 10 => { result := .bytes [0], channel := s }
  -- GET_STATUS
  | 0 => { result := .bytes [0, 0], channel := s }
  | _ => { result := .stall, channel := s }

def ep0HandleRequest (env : Ep0Env) (s : Channel) (ctrl : UsbCtrlRequest) : Ep0Handled :=
  if ctrl.bRequestType = 0x21 && ctrl.bRequest = usbCdcSendEncapsulatedCommand then
    onSendEncapsulatedCommand env s ctrl.wLength
  else if ctrl.bRequestType = 0xa1 && ctrl.bRequest = usbCdcGetEncapsulatedResponse then
    onGetEncapsulatedResponse env s ctrl.wLength
  else if ctrl.isClass && ctrl.bRequest = usbCdcGetNtbParameters then
    { result := .bytes ntbParams, channel := s }
  else if ctrl.isClass && ctrl.bRequest = usbCdcSetLineCoding then
    -- the length of the host, whatever the size of the buffer
    { result := .reply [] ctrl.wLength.toNat, channel := s }
  else if ctrl.isClass && ctrl.bRequest = usbCdcGetLineCoding then
    { result := .bytes lineCoding, channel := s }
  else if ctrl.isClass && ctrl.bRequest = usbCdcSetControlLineState then
    { result := .bytes [], channel := s }
  else if ctrl.bRequestType &&& usbTypeMask = usbTypeStandard then standardRequest env s ctrl
  else { result := .stall, channel := s }

/-! ## Dispatch -/

/-- The transfer of a reply.  A short reply to the host ends with a zero-length packet. -/
def replyTransfer (ctrl : UsbCtrlRequest) (length : Nat) : Ep0Transfer :=
  let length := if ctrl.wLength.toNat < length then ctrl.wLength.toNat else length
  { dir := if ctrl.isIn then .write else .read
    length
    zero := ctrl.isIn && 0 < length && length < ctrl.wLength.toNat }

/-- A control event of `ep0_dispatch_loop`: the channel behind it, and every transfer. -/
def ep0Dispatch (env : Ep0Env) (s : Channel) (ctrl : UsbCtrlRequest) : Channel × List Ep0Transfer :=
  let handled := ep0HandleRequest env s ctrl
  match handled.result with
  | .reply _ length => (handled.channel, handled.transfers ++ [replyTransfer ctrl length])
  | .consumed | .stall => (handled.channel, handled.transfers)

/-! ## Bounds -/

variable (env : Ep0Env) (s : Channel) (ctrl : UsbCtrlRequest)

/-- A transfer inside the control buffer and inside what the host asked for; a short reply
to the host is terminated. -/
structure Ep0Transfer.Bounded (ctrl : UsbCtrlRequest) (t : Ep0Transfer) : Prop where
  buffer : t.length ≤ controlDataLen
  asked : t.length ≤ ctrl.wLength.toNat
  terminated : ctrl.isIn = true → 0 < t.length → t.length < ctrl.wLength.toNat → t.zero = true

theorem usbTransportMakeString_length (idx : Nat) :
    (usbTransportMakeString idx).length ≤ controlDataLen := by
  unfold usbTransportMakeString
  split
  · decide
  · unfold usbString
    split <;> decide

/-- No transfer by the handler itself, and a reply that fits the buffer. -/
def Ep0Handled.Fits (r : Ep0Handled) : Prop :=
  r.transfers = [] ∧ ∀ data length, r.result = .reply data length → length ≤ controlDataLen

theorem Ep0Handled.Fits.bytes {data : Bytes} (h : data.length ≤ controlDataLen) :
    Ep0Handled.Fits { result := .bytes data, channel := s } := by
  refine ⟨rfl, fun _ _ hreply => ?_⟩
  cases hreply
  exact h

theorem Ep0Handled.Fits.stall : Ep0Handled.Fits { result := .stall, channel := s } :=
  ⟨rfl, nofun⟩

theorem getDescriptor_fits : (getDescriptor s ctrl).Fits := by
  unfold getDescriptor
  split
  · exact .bytes s (by decide)
  · exact .bytes s (by decide)
  · exact .bytes s (by decide +kernel)
  · exact .bytes s (usbTransportMakeString_length _)
  · exact .stall s

theorem standardRequest_fits : (standardRequest env s ctrl).Fits := by
  unfold standardRequest
  split
  · exact getDescriptor_fits s ctrl
  · exact .bytes _ (by decide)
  · exact .bytes s (by decide)
  · exact .bytes s (by decide)
  · exact .bytes s (by decide)
  · exact .bytes s (by decide)
  · exact .stall s

/-- The request whose reply is as long as the host says. -/
def UsbCtrlRequest.setsLineCoding (ctrl : UsbCtrlRequest) : Bool :=
  ctrl.isClass && ctrl.bRequest = usbCdcSetLineCoding

theorem ep0HandleRequest_setLineCoding {ctrl : UsbCtrlRequest} (h : ctrl.setsLineCoding = true) :
    ep0HandleRequest env s ctrl = { result := .reply [] ctrl.wLength.toNat, channel := s } := by
  obtain ⟨hclass, hreq⟩ := Bool.and_eq_true_iff.mp h
  replace hreq := of_decide_eq_true hreq
  have hother : ∀ (b : Bool) (req : UInt8), usbCdcSetLineCoding ≠ req →
      ¬ (b && decide (usbCdcSetLineCoding = req)) = true := fun b req hne hyes =>
    hne (of_decide_eq_true (Bool.and_eq_true_iff.mp hyes).2)
  unfold ep0HandleRequest
  rw [hreq, hclass, if_neg (hother _ _ (by decide)), if_neg (hother _ _ (by decide)),
    if_neg (hother _ _ (by decide)), if_pos (by decide)]

/-- Any other request is a command that the handler reads itself, or has a reply that fits
the buffer. -/
theorem ep0HandleRequest_cases {ctrl : UsbCtrlRequest} (hline : ctrl.setsLineCoding = false) :
    (ctrl.isIn = false ∧
        ep0HandleRequest env s ctrl = onSendEncapsulatedCommand env s ctrl.wLength) ∨
      (ep0HandleRequest env s ctrl).Fits := by
  unfold ep0HandleRequest
  split
  · rename_i hsend
    have htype : ctrl.bRequestType = 0x21 := of_decide_eq_true (Bool.and_eq_true_iff.mp hsend).1
    refine .inl ⟨?_, rfl⟩
    rw [UsbCtrlRequest.isIn, htype]
    rfl
  refine .inr ?_
  split
  · refine ⟨rfl, fun _ _ hreply => ?_⟩
    cases hreply
    exact List.length_take_le _ _
  split
  · exact .bytes s (by decide)
  split
  · rename_i hyes
    exact absurd (hline.symm.trans hyes) (by decide)
  split
  · exact .bytes s (by decide)
  split
  · exact .bytes s (by decide)
  split
  · exact standardRequest_fits env s ctrl
  · exact .stall s

theorem replyTransfer_length (length : Nat) :
    (replyTransfer ctrl length).length = min length ctrl.wLength.toNat := by
  unfold replyTransfer
  dsimp only
  split <;> omega

/-- The dispatcher keeps to what the host asked for; the buffer is the handler's concern. -/
theorem replyTransfer_bounded {ctrl : UsbCtrlRequest} {length : Nat} :
    (replyTransfer ctrl length).Bounded ctrl ↔
      min length ctrl.wLength.toNat ≤ controlDataLen := by
  refine ⟨fun h => replyTransfer_length ctrl length ▸ h.buffer, fun h => ⟨?_, ?_, ?_⟩⟩
  · rw [replyTransfer_length]
    exact h
  · rw [replyTransfer_length]
    exact Nat.min_le_right _ _
  · intro hin hpos hshort
    exact Bool.and_eq_true_iff.mpr ⟨Bool.and_eq_true_iff.mpr ⟨hin, decide_eq_true hpos⟩,
      decide_eq_true hshort⟩

/-- The transfers of a request stay inside the buffer exactly when it does not set the line
coding with more than the buffer holds. -/
theorem ep0Dispatch_bounded_iff (env : Ep0Env) (s : Channel) (ctrl : UsbCtrlRequest) :
    (∀ t ∈ (ep0Dispatch env s ctrl).2, t.Bounded ctrl) ↔
      ¬ (ctrl.setsLineCoding = true ∧ controlDataLen < ctrl.wLength.toNat) := by
  unfold ep0Dispatch
  cases hline : ctrl.setsLineCoding with
  | true =>
    rw [ep0HandleRequest_setLineCoding env s hline]
    simp only [List.nil_append, List.mem_singleton, forall_eq, replyTransfer_bounded, true_and]
    omega
  | false =>
    refine iff_of_true ?_ fun h => nomatch h.1
    dsimp only
    rcases ep0HandleRequest_cases env s hline with ⟨hout, heq⟩ | ⟨htransfers, hreply⟩
    · -- the read of a command is cut to the buffer
      rw [heq]
      refine List.forall_mem_singleton.mpr ⟨Nat.min_le_right _ _, Nat.min_le_left _ _, fun hin => ?_⟩
      rw [hout] at hin
      cases hin
    · rw [htransfers]
      split
      · rename_i data length hresult
        refine List.forall_mem_singleton.mpr (replyTransfer_bounded.mpr ?_)
        exact Nat.le_trans (Nat.min_le_left _ _) (hreply data length hresult)
      · exact nofun
      · exact nofun

/-- The host sets the line coding with 8192 octets: the kernel is to read them into a buffer
of 4096. -/
theorem setLineCoding_overruns :
    ¬ ∀ (env : Ep0Env) (s : Channel) (ctrl : UsbCtrlRequest),
      ∀ t ∈ (ep0Dispatch env s ctrl).2, t.Bounded ctrl := by
  intro hall
  have hbounded := hall ⟨noSms, [], 1⟩ openGadget ⟨0x21, usbCdcSetLineCoding, 0, 2, 8192⟩
    { dir := .read, length := 8192 } (by decide)
  exact absurd hbounded.buffer (by decide)

end VirtualLte.Ep0
