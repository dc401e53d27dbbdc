import VirtualLte.Mbim.Handlers

/-!
# Commands are read from received octets

The command buffer keeps what earlier commands left behind the octets of the last one.

* `Agree n` relates two buffers with the same first `n` octets.
* Each handler has a lemma that its outcome depends on the received octets only, such as
  `smsCommand_agree`: its reads are guarded by the number of octets received.
* The QMUX length check is a 32-bit sum.  `QmuxOverread` is the case in which it wraps.
* `mbimHandlersHandleCommand_received_iff`: all other commands are read as received.
-/

namespace VirtualLte.Mbim

/-- The two buffers have the same first `n` octets. -/
def Agree (n : Nat) (cmd cmd' : Bytes) : Prop := ∀ i, i < n → octet cmd i = octet cmd' i

section Reads

variable {n : Nat} {cmd cmd' : Bytes} (h : Agree n cmd cmd')
include h

theorem getLe32_agree {i : Nat} (hi : i + 4 ≤ n) : getLe32 cmd i = getLe32 cmd' i := by
  unfold getLe32
  rw [h i (by omega), h (i + 1) (by omega), h (i + 2) (by omega), h (i + 3) (by omega)]

theorem slice_agree {off len : Nat} (hoff : off + len ≤ n) : slice cmd off len = slice cmd' off len := by
  refine List.map_congr_left fun i hi => h _ ?_
  have := List.mem_range.mp hi
  omega

end Reads

/-! ## Basic connect -/

section Handlers

variable {cmd cmd' : Bytes} {cmdLen : UInt32} (h : Agree cmdLen.toNat cmd cmd')
include h

theorem connect_agree (st : HandlerState) (cmdType ibLen : UInt32) :
    connect st cmd cmdLen cmdType ibLen = connect st cmd' cmdLen cmdType ibLen := by
  have hcommand : (if ibLen ≥ 8 && cmdLen ≥ 56 then getLe32 cmd 52 else 1) =
      (if ibLen ≥ 8 && cmdLen ≥ 56 then getLe32 cmd' 52 else 1) := by
    split
    · rename_i hguard
      rw [Bool.and_eq_true, decide_eq_true_eq, decide_eq_true_eq] at hguard
      exact getLe32_agree h (UInt32.le_iff_toNat_le.mp hguard.2)
    · rfl
  unfold connect
  rw [hcommand]

theorem radioState_agree (st : HandlerState) (cmdType ibLen : UInt32) :
    radioState st cmd cmdLen cmdType ibLen = radioState st cmd' cmdLen cmdType ibLen := by
  unfold radioState
  split
  · rename_i hguard
    simp only [Bool.and_eq_true, decide_eq_true_eq] at hguard
    rw [getLe32_agree h (i := 48) (UInt32.le_iff_toNat_le.mp hguard.2)]
  · rfl

theorem basicConnect_agree (acts : HandlerActions) (st : HandlerState) (cid cmdType ibLen : UInt32) :
    basicConnect acts st cmd cmdLen cid cmdType ibLen =
      basicConnect acts st cmd' cmdLen cid cmdType ibLen := by
  unfold basicConnect
  rw [connect_agree h, radioState_agree h]

end Handlers

/-! ## Vendor services -/

/-- The payload length of a vendor command. -/
theorem vendorPayloadLen_le {cmdLen : UInt32} (hmin : 48 ≤ cmdLen.toNat) :
    48 + (if cmdLen > 48 then cmdLen - 48 else 0).toNat ≤ cmdLen.toNat := by
  split
  · rename_i hlong
    have hle := UInt32.le_of_lt hlong
    have hnat : 48 ≤ cmdLen.toNat := UInt32.le_iff_toNat_le.mp hle
    rw [UInt32.toNat_sub_of_le _ _ hle]
    change 48 + (cmdLen.toNat - 48) ≤ _
    omega
  · exact hmin

section Vendor

variable {n : Nat} {cmd cmd' : Bytes} {v : UInt32} (h : Agree n cmd cmd') (hv : 48 + v.toNat ≤ n)
include h hv

theorem lteAttachConfigSet_agree (bce : MbimBceState) :
    lteAttachConfigSet bce cmd v = lteAttachConfigSet bce cmd' v := by
  have htail : (if v > 64 then 64 else v) ≤ v := by
    split
    · exact UInt32.le_of_lt ‹_›
    · exact UInt32.le_refl v
  unfold lteAttachConfigSet
  dsimp only
  generalize (if v > 64 then 64 else v) = tail at htail
  have hsub := UInt32.toNat_sub_of_le _ _ htail
  have hle := UInt32.le_iff_toNat_le.mp htail
  rw [slice_agree h (show 48 + (v - tail).toNat + tail.toNat ≤ n by omega)]

theorem basicConnectExtensions_agree (st : HandlerState) (cid cmdType : UInt32) :
    basicConnectExtensions st cmd cid cmdType v = basicConnectExtensions st cmd' cid cmdType v := by
  unfold basicConnectExtensions
  rw [lteAttachConfigSet_agree h hv]

theorem smsExtractSendPdu_agree : smsExtractSendPdu cmd v = smsExtractSendPdu cmd' v := by
  unfold smsExtractSendPdu
  by_cases hshort : v < 12
  · rw [if_pos hshort, if_pos hshort]
  have hlong : 12 ≤ v.toNat := UInt32.le_iff_toNat_le.mp (UInt32.not_lt.mp hshort)
  rw [if_neg hshort, if_neg hshort, getLe32_agree h (i := 48) (by omega),
    getLe32_agree h (i := 52) (by omega), getLe32_agree h (i := 56) (by omega)]
  dsimp only
  split
  · rfl
  · split
    · rfl
    · rename_i hfits
      rw [slice_agree h (by omega)]

theorem smsCommand_agree (acts : HandlerActions) (st : HandlerState) {cmdLen : UInt32}
    (hlen : cmdLen.toNat ≤ n) (cid : UInt32) :
    smsCommand acts st cmd cmdLen cid v = smsCommand acts st cmd' cmdLen cid v := by
  have hflag : (if cmdLen ≥ 56 then getLe32 cmd 52 else 0) =
      (if cmdLen ≥ 56 then getLe32 cmd' 52 else 0) := by
    split
    · rename_i hguard
      have := UInt32.le_iff_toNat_le.mp hguard
      exact getLe32_agree h (Nat.le_trans this hlen)
    · rfl
  have hindex : (if v ≥ 12 then getLe32 cmd (48 + 8) else 0) =
      (if v ≥ 12 then getLe32 cmd' (48 + 8) else 0) := by
    split
    · rename_i hguard
      have hlong : 12 ≤ v.toNat := UInt32.le_iff_toNat_le.mp hguard
      exact getLe32_agree h (by omega)
    · rfl
  unfold smsCommand
  rw [hflag, hindex, smsExtractSendPdu_agree h hv]

end Vendor

/-! ## QMUX -/

/-- The head of a QMI_CTL_SYNC request; the octet at 7 is free. -/
def qmiCtlSyncHead : Bytes := [0x01, 0x0b, 0x00, 0x00, 0x00, 0x00, 0x00, 0x00, 0x27, 0x00, 0x00, 0x00]

theorem isQmiCtlSync_iff (cmd : Bytes) :
    isQmiCtlSync cmd = true ↔ ∀ i, i < 12 → i ≠ 7 → octet cmd (48 + i) = octet qmiCtlSyncHead i := by
  unfold isQmiCtlSync
  simp only [Bool.and_eq_true, decide_eq_true_eq, slice, List.range, List.range.loop, List.map_cons,
    List.map_nil, List.cons.injEq, and_true]
  constructor
  · rintro ⟨⟨h0, h1, h2, h3, h4, h5, h6⟩, h8, h9, h10, h11⟩ i hi hne
    have hcases : i = 0 ∨ i = 1 ∨ i = 2 ∨ i = 3 ∨ i = 4 ∨ i = 5 ∨ i = 6 ∨ i = 8 ∨ i = 9 ∨ i = 10 ∨
      i = 11 := by omega
    rcases hcases with rfl | rfl | rfl | rfl | rfl | rfl | rfl | rfl | rfl | rfl | rfl
    all_goals assumption
  · intro h
    exact ⟨⟨h 0 (by decide) (by decide), h 1 (by decide) (by decide), h 2 (by decide) (by decide),
      h 3 (by decide) (by decide), h 4 (by decide) (by decide), h 5 (by decide) (by decide),
      h 6 (by decide) (by decide)⟩, h 8 (by decide) (by decide), h 9 (by decide) (by decide),
      h 10 (by decide) (by decide), h 11 (by decide) (by decide)⟩

section Length

variable {cmdLen ibLen m : UInt32}

/-- A sum that does not wrap keeps the payload inside the command. -/
theorem qmuxPayloadLen_inside (hfits : 48 + ibLen.toNat < 2 ^ 32)
    (h : qmuxPayloadLen cmdLen ibLen = some m) : 48 + m.toNat ≤ cmdLen.toNat := by
  unfold qmuxPayloadLen at h
  split at h
  · rename_i hguard
    rw [Bool.and_eq_true, decide_eq_true_eq, decide_eq_true_eq, UInt32.le_iff_toNat_le,
      UInt32.toNat_add] at hguard
    obtain rfl := Option.some.inj h
    have hle := hguard.2
    change (48 + ibLen.toNat) % 2 ^ 32 ≤ _ at hle
    omega
  · split at h
    · rename_i hlong
      obtain rfl := Option.some.inj h
      have := @vendorPayloadLen_le cmdLen (Nat.le_of_lt (UInt32.lt_iff_toNat_lt.mp hlong))
      rwa [if_pos hlong] at this
    · cases h

/-- A sum that wraps is small, so the declared length is taken. -/
theorem qmuxPayloadLen_wraps (hmin : 48 ≤ cmdLen.toNat) (hwrap : 2 ^ 32 ≤ 48 + ibLen.toNat) :
    qmuxPayloadLen cmdLen ibLen = some ibLen := by
  have hlt := ibLen.toNat_lt
  have hguard : (ibLen > 0 && 48 + ibLen ≤ cmdLen) = true := by
    rw [Bool.and_eq_true, decide_eq_true_eq, decide_eq_true_eq, UInt32.le_iff_toNat_le,
      UInt32.toNat_add, gt_iff_lt, UInt32.lt_iff_toNat_lt]
    change 0 < ibLen.toNat ∧ (48 + ibLen.toNat) % 2 ^ 32 ≤ _
    omega
  rw [qmuxPayloadLen, if_pos hguard]

end Length

/-- The declared length wraps in the QMUX length check, and what was received from 48 on
could be the start of a QMI_CTL_SYNC. -/
def QmuxOverread (cmd : Bytes) (cmdLen : UInt32) : Prop :=
  slice cmd 20 16 = uuidExtQmux ∧ 2 ^ 32 ≤ 48 + (getLe32 cmd 44).toNat ∧
    ∀ i, i < 12 → i ≠ 7 → 48 + i < cmdLen.toNat → octet cmd (48 + i) = octet qmiCtlSyncHead i

/-- The command is read from the octets received, and so is the vendor event. -/
structure ReadsReceived (acts : HandlerActions) (st : HandlerState) (cmd : Bytes) (cmdLen : UInt32) :
    Prop where
  same : ∀ cmd', Agree cmdLen.toNat cmd cmd' →
    mbimHandlersHandleCommand acts st cmd' cmdLen = mbimHandlersHandleCommand acts st cmd cmdLen
  payload : ∀ r event, mbimHandlersHandleCommand acts st cmd cmdLen = some r →
    r.vendorEvent = some event → event.qmiPayload + event.qmiPayloadLen.toNat ≤ cmdLen.toNat

/-! ## The whole command -/

section Command

variable {cmd cmd' : Bytes} {cmdLen : UInt32}

/-- Without an overread, the sync request is recognised in received octets. -/
theorem isQmiCtlSync_agree (h : Agree cmdLen.toNat cmd cmd') (hqmux : slice cmd 20 16 = uuidExtQmux)
    (hno : ¬ QmuxOverread cmd cmdLen) {m : UInt32}
    (hlen : qmuxPayloadLen cmdLen (getLe32 cmd 44) = some m) (hm : 12 ≤ m.toNat) :
    isQmiCtlSync cmd = isQmiCtlSync cmd' := by
  by_cases hfits : 48 + (getLe32 cmd 44).toNat < 2 ^ 32
  · have hin := qmuxPayloadLen_inside hfits hlen
    unfold isQmiCtlSync
    rw [slice_agree h (show 48 + 7 ≤ _ by omega), slice_agree h (show 56 + 4 ≤ _ by omega)]
  · -- an octet that was received is none of a sync request
    have hother : ∃ i, i < 12 ∧ i ≠ 7 ∧ 48 + i < cmdLen.toNat ∧
        octet cmd (48 + i) ≠ octet qmiCtlSyncHead i := by
      by_contra hall
      refine hno ⟨hqmux, Nat.not_lt.mp hfits, fun i hi hne hin => ?_⟩
      by_contra hdiff
      exact hall ⟨i, hi, hne, hin, hdiff⟩
    obtain ⟨i, hi, hne, hin, hdiff⟩ := hother
    have hcmd : isQmiCtlSync cmd ≠ true := fun hsync =>
      hdiff ((isQmiCtlSync_iff cmd).mp hsync i hi hne)
    have hcmd' : isQmiCtlSync cmd' ≠ true := fun hsync =>
      hdiff ((h _ hin).trans ((isQmiCtlSync_iff cmd').mp hsync i hi hne))
    rw [eq_false_of_ne_true hcmd, eq_false_of_ne_true hcmd']

theorem handleVendorCommand_agree (acts : HandlerActions) (st : HandlerState)
    (h : Agree cmdLen.toNat cmd cmd') (hmin : 48 ≤ cmdLen.toNat) (hno : ¬ QmuxOverread cmd cmdLen)
    (tid cid cmdType : UInt32) :
    handleVendorCommand acts st cmd' cmdLen tid cid (getLe32 cmd 44) cmdType =
      handleVendorCommand acts st cmd cmdLen tid cid (getLe32 cmd 44) cmdType := by
  have hpayload := vendorPayloadLen_le hmin
  unfold handleVendorCommand
  dsimp only
  rw [← slice_agree h (show 20 + 16 ≤ _ by omega), ← basicConnectExtensions_agree h hpayload,
    ← smsCommand_agree h hpayload acts st (Nat.le_refl _), ← slice_agree h hpayload]
  by_cases hqmux : slice cmd 20 16 = uuidExtQmux
  · rw [if_pos hqmux, if_pos hqmux]
    cases hlen : qmuxPayloadLen cmdLen (getLe32 cmd 44) with
    | none => rfl
    | some m =>
      by_cases hm : m ≥ 12
      · have hm' : 12 ≤ m.toNat := UInt32.le_iff_toNat_le.mp hm
        dsimp only
        rw [isQmiCtlSync_agree h hqmux hno hlen hm']
      · dsimp only
        rw [decide_eq_false hm, Bool.false_and, Bool.false_and]
  · rw [if_neg hqmux, if_neg hqmux]

theorem commandDone_agree (h : Agree cmdLen.toNat cmd cmd') (hmin : 48 ≤ cmdLen.toNat)
    (tid cid status : UInt32) (info : Bytes) :
    commandDone cmd tid cid status info = commandDone cmd' tid cid status info := by
  unfold commandDone
  rw [slice_agree h (show 20 + 16 ≤ _ by omega)]

/-- A sync request whose length check wraps makes an event of the declared length. -/
theorem mbimHandlersHandleCommand_wraps (acts : HandlerActions) (st : HandlerState)
    (hmin : 48 ≤ cmdLen.toNat) (hqmux : slice cmd 20 16 = uuidExtQmux)
    (hwrap : 2 ^ 32 ≤ 48 + (getLe32 cmd 44).toNat) (hsync : isQmiCtlSync cmd = true) :
    ∃ r event, mbimHandlersHandleCommand acts st cmd cmdLen = some r ∧ r.vendorEvent = some event ∧
      event.qmiPayload = 48 ∧ event.qmiPayloadLen = getLe32 cmd 44 := by
  have hlong : ¬ cmdLen < 48 := fun hshort =>
    absurd hmin (Nat.not_le.mpr (UInt32.lt_iff_toNat_lt.mp hshort))
  have hlt := (getLe32 cmd 44).toNat_lt
  have hge : (getLe32 cmd 44 ≥ 12) := UInt32.le_iff_toNat_le.mpr (by change 12 ≤ _; omega)
  have hother : slice cmd 20 16 ≠ uuidBasicConnect := by
    rw [hqmux]
    decide
  unfold mbimHandlersHandleCommand handleVendorCommand
  dsimp only
  rw [if_neg hlong, if_neg hother, if_pos hqmux, qmuxPayloadLen_wraps hmin hwrap]
  dsimp only
  rw [hsync, decide_eq_true hge, Bool.and_true, if_pos rfl]
  exact ⟨_, _, rfl, rfl, rfl, rfl⟩

end Command

/-- The command as received, followed by the rest of a QMI_CTL_SYNC. -/
def completeSync (cmd : Bytes) (cmdLen : UInt32) : Bytes :=
  (List.range (max 60 cmdLen.toNat)).map fun i =>
    if i < cmdLen.toNat then octet cmd i else octet qmiCtlSyncHead (i - 48)

theorem octet_completeSync {cmd : Bytes} {cmdLen : UInt32} {i : Nat} (hi : i < max 60 cmdLen.toNat) :
    octet (completeSync cmd cmdLen) i =
      if i < cmdLen.toNat then octet cmd i else octet qmiCtlSyncHead (i - 48) := by
  rw [octet, List.getD_eq_getElem?_getD]
  simp [completeSync, List.getElem?_map, List.getElem?_range hi]

theorem completeSync_agree (cmd : Bytes) (cmdLen : UInt32) :
    Agree cmdLen.toNat cmd (completeSync cmd cmdLen) := by
  intro i hi
  rw [octet_completeSync (Nat.lt_of_lt_of_le hi (Nat.le_max_right _ _)), if_pos hi]

/-- What is left in the buffer decides about an overread. -/
theorem completeSync_isQmiCtlSync {cmd : Bytes} {cmdLen : UInt32} (h : QmuxOverread cmd cmdLen) :
    isQmiCtlSync (completeSync cmd cmdLen) = true := by
  rw [isQmiCtlSync_iff]
  intro i hi hne
  rw [octet_completeSync (Nat.lt_of_lt_of_le (by omega) (Nat.le_max_left _ _))]
  split
  · exact h.2.2 i hi hne ‹_›
  · rw [Nat.add_sub_cancel_left]

/-- A command is read from received octets exactly if the QMUX length check does not wrap
in front of something like a QMI_CTL_SYNC. -/
theorem mbimHandlersHandleCommand_received_iff (acts : HandlerActions) (st : HandlerState)
    (cmd : Bytes) {cmdLen : UInt32} (hmin : 48 ≤ cmdLen.toNat) (hmax : cmdLen.toNat ≤ 4096) :
    ReadsReceived acts st cmd cmdLen ↔ ¬ QmuxOverread cmd cmdLen := by
  have hlong : ¬ cmdLen < 48 := fun hshort =>
    absurd hmin (Nat.not_le.mpr (UInt32.lt_iff_toNat_lt.mp hshort))
  constructor
  · intro hreads hover
    -- with the right rest in the buffer the event is longer than the command
    have hagree := completeSync_agree cmd cmdLen
    have hdeclared := getLe32_agree hagree (show 44 + 4 ≤ _ by omega)
    have hservice := slice_agree hagree (show 20 + 16 ≤ _ by omega)
    obtain ⟨r, event, hr, hevent, hpos, hlen⟩ := mbimHandlersHandleCommand_wraps acts st hmin
      (hservice.symm.trans hover.1) (hdeclared ▸ hover.2.1) (completeSync_isQmiCtlSync hover)
    rw [hreads.same _ hagree] at hr
    have hpayload := hreads.payload r event hr hevent
    rw [hpos, hlen, ← hdeclared] at hpayload
    exact absurd hover.2.1 (by omega)
  · intro hno
    constructor
    · intro cmd' h
      unfold mbimHandlersHandleCommand
      rw [if_neg hlong, if_neg hlong]
      dsimp only
      rw [← getLe32_agree h (show 8 + 4 ≤ _ by omega), ← getLe32_agree h (show 36 + 4 ≤ _ by omega),
        ← getLe32_agree h (show 40 + 4 ≤ _ by omega), ← getLe32_agree h (show 44 + 4 ≤ _ by omega),
        ← slice_agree h (show 20 + 16 ≤ _ by omega), ← basicConnect_agree h,
        handleVendorCommand_agree acts st h hmin hno]
      split
      · rw [commandDone_agree h hmin]
      · rfl
    · intro r event hr hevent
      obtain ⟨-, -, -, hnone⟩ | ⟨event', -, hevent', hsync⟩ :=
        (mbimHandlersHandleCommand_outcome hr).2
      · cases hnone.symm.trans hevent
      · obtain rfl : event' = event := Option.some.inj (hevent'.symm.trans hevent)
        rw [hsync.payload]
        refine qmuxPayloadLen_inside (Nat.not_le.mp fun hwrap => hno ⟨hsync.service, hwrap, ?_⟩)
          hsync.payloadLen
        exact fun i hi hne _ => (isQmiCtlSync_iff cmd).mp hsync.request i hi hne

/-- A command of 48 octets to the QMUX service that declares `ibLen` octets more. -/
def qmuxCommand (ibLen : UInt32) : Bytes :=
  le32s [mbimCommandMsg, 48, 1, 1, 0] ++ uuidExtQmux ++ le32s [1, 1, ibLen]

/-- An honest length. -/
theorem mbimHandlersHandleCommand_received_empty :
    ReadsReceived ⟨true, true, fun _ => none⟩ {} (qmuxCommand 0) 48 :=
  (mbimHandlersHandleCommand_received_iff ⟨true, true, fun _ => none⟩ {} (qmuxCommand 0) (by decide)
    (by decide)).mpr fun hover => absurd hover.2.1 (by decide)

/-- Forty-eight octets that declare `2 ^ 32 - 48` more, in front of an old QMI_CTL_SYNC. -/
theorem qmuxCommand_overreads :
    ¬ ∀ (acts : HandlerActions) (st : HandlerState) (cmd : Bytes) (cmdLen : UInt32),
      48 ≤ cmdLen.toNat → cmdLen.toNat ≤ 4096 → ReadsReceived acts st cmd cmdLen := by
  intro h
  have hreads := h ⟨true, true, fun _ => none⟩ {} (qmuxCommand 0xffffffd0 ++ qmiCtlSyncHead) 48
    (by decide) (by decide)
  obtain ⟨r, event, hr, hevent, hpos, hlen⟩ := @mbimHandlersHandleCommand_wraps
    (qmuxCommand 0xffffffd0 ++ qmiCtlSyncHead) 48 ⟨true, true, fun _ => none⟩ {} (by decide)
    (by decide +kernel) (by decide +kernel) (by decide +kernel)
  have hpayload := hreads.payload r event hr hevent
  rw [hpos, hlen] at hpayload
  exact absurd hpayload (by decide +kernel)

end VirtualLte.Mbim
