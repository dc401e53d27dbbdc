import VirtualLte.Mbim.Buffers

/-!
# The answers to commands

Every COMMAND_DONE of `mbim_handlers_handle_command` is well formed.

* `Outcome.Fits`: the information of an outcome has room in a response and its pairs are
  in order.  Each handler has one lemma for it.
* `commandDone_framed` reads the header of a COMMAND_DONE.
* `mbimHandlersHandleCommand_wellFormed` is the result for every command, modem state and
  reachable store.
-/

namespace VirtualLte.Mbim

open Transition

variable {st : HandlerState}

/-! ## Outcomes -/

/-- The information fits a response, and an answer that has any advertises ranges inside it. -/
def Outcome.Fits (layout : InfoLayout) : Outcome → Prop
  | .done _ _ _ info => info.length ≤ 4048 ∧ (info ≠ [] → layout.WellFormed info)
  | .qmiCtlSync _ => True

theorem Outcome.fits_nil (layout : InfoLayout) (st : HandlerState) (calls : List HandlerCall)
    (status : UInt32) : (Outcome.done st calls status []).Fits layout :=
  ⟨Nat.zero_le _, fun h => absurd rfl h⟩

/-- An answer of a CID that advertises nothing. -/
theorem Outcome.fits_plain {calls : List HandlerCall} {status : UInt32} {info : Bytes}
    (h : info.length ≤ 4048) : (Outcome.done st calls status info).Fits {} :=
  ⟨h, fun _ => ⟨Nat.zero_le _, nofun, nofun, nofun⟩⟩

theorem Outcome.fits_words {calls : List HandlerCall} {status : UInt32} {vs : List UInt32}
    (h : vs.length ≤ 1012) : (Outcome.done st calls status (le32s vs)).Fits {} :=
  fits_plain (by rw [le32s_length]; omega)

theorem Outcome.fits_reply {layout : InfoLayout} {info : Bytes}
    (h : layout.WellFormed info ∧ info.length ≤ 4048) : (Outcome.reply st info).Fits layout :=
  ⟨h.2, fun _ => h.1⟩

theorem Outcome.fits_list {l : ListLayout} {info : Bytes}
    (h : l.WellFormed info ∧ info.length ≤ 4048) :
    (Outcome.reply st info).Fits { list := some l } :=
  ⟨h.2, fun _ => InfoLayout.wellFormed_of_list h.1⟩

theorem registerState_fits (st : HandlerState) (cmdType : UInt32) :
    (registerState st cmdType).Fits registerStateLayout := by
  unfold registerState
  split
  · exact ⟨by decide, fun _ => InfoLayout.wellFormed_fixed rfl rfl (by decide) (by decide)⟩
  · cases st.modem.registeredHome <;> cases st.modem.packetAttached <;>
      exact ⟨by decide, fun _ => InfoLayout.wellFormed_fixed rfl rfl (by decide) (by decide)⟩

theorem connectInfo_length (sessionId activationState : UInt32) :
    (connectInfo sessionId activationState).length = 36 := by
  simp [connectInfo, uuidContextTypeInternet]

theorem connect_fits (st : HandlerState) (cmd : Bytes) (cmdLen cmdType ibLen : UInt32) :
    (connect st cmd cmdLen cmdType ibLen).Fits {} := by
  have hlen : ∀ sessionId state, (connectInfo sessionId state).length ≤ 4048 := fun sessionId state => by
    rw [connectInfo_length]
    decide
  unfold connect
  split
  · dsimp only
    generalize (if ibLen ≥ 8 && cmdLen ≥ 56 then getLe32 cmd 52 else 1) = activationCommand
    split <;> exact Outcome.fits_plain (hlen _ _)
  · exact Outcome.fits_plain (hlen _ _)

theorem radioState_fits (st : HandlerState) (cmd : Bytes) (cmdLen cmdType ibLen : UInt32) :
    (radioState st cmd cmdLen cmdType ibLen).Fits {} := by
  unfold radioState
  split <;> exact Outcome.fits_words (by simp)

theorem packetServiceInfo_length (st : HandlerState) : (packetServiceInfo st).length = 28 := by
  unfold packetServiceInfo
  split <;> rfl

theorem basicConnect_fits (acts : HandlerActions) (h : st.modem.Terminated) (cmd : Bytes)
    (cmdLen cid cmdType ibLen : UInt32) :
    (basicConnect acts st cmd cmdLen cid cmdType ibLen).Fits (basicConnectLayout cid.toNat) := by
  unfold basicConnect
  generalize cid.toNat = n
  split
  · split
    · exact Outcome.fits_nil _ _ _ _
    · exact Outcome.fits_reply (deviceCapsInfo_wellFormed acts h)
  · exact Outcome.fits_reply (subscriberReadyStatusInfo_wellFormed h)
  · exact Outcome.fits_list (provisionedContextsInfo_wellFormed h)
  · exact registerState_fits st cmdType
  · exact Outcome.fits_plain (by rw [packetServiceInfo_length]; decide)
  · exact connect_fits st cmd cmdLen cmdType ibLen
  · exact Outcome.fits_reply ⟨ipConfigurationInfo_wellFormed st, by simp [ipConfigurationInfo]⟩
  · exact radioState_fits st cmd cmdLen cmdType ibLen
  · exact Outcome.fits_list ⟨deviceServicesInfo_wellFormed, by decide +kernel⟩
  · exact Outcome.fits_nil _ _ _ _

/-! ## Vendor services -/

/-- The strings of the modem and of the attach configuration end inside their fields. -/
structure HandlerState.Terminated (st : HandlerState) : Prop where
  modem : st.modem.Terminated
  attachApn : st.bce.attachApn.length < 64

theorem HandlerState.Terminated.apn (h : st.Terminated) : (Mbim.attachApn st).length < 64 := by
  unfold Mbim.attachApn
  split
  · exact h.attachApn
  · exact h.modem.apn

theorem utf16leAsciiToCstr_length_le (room : Nat) (src : Bytes) :
    (utf16leAsciiToCstr room src).length ≤ room := by
  fun_induction utf16leAsciiToCstr room src with
  | case1 => exact Nat.zero_le _
  | case2 => rw [List.length_cons]; omega
  | case3 => exact Nat.zero_le _

theorem lteAttachConfigSet_length {bce : MbimBceState} (h : bce.attachApn.length < 64) (cmd : Bytes)
    (vendorPayloadLen : UInt32) : (lteAttachConfigSet bce cmd vendorPayloadLen).attachApn.length < 64 := by
  unfold lteAttachConfigSet
  dsimp only
  generalize (if vendorPayloadLen > 64 then 64 else vendorPayloadLen) = tail
  split
  · exact Nat.lt_succ_of_le (utf16leAsciiToCstr_length_le _ _)
  · exact h

theorem basicConnectExtensions_fits (h : st.Terminated) (cmd : Bytes)
    (cid cmdType vendorPayloadLen : UInt32) :
    (basicConnectExtensions st cmd cid cmdType vendorPayloadLen).Fits
      (basicConnectExtensionsLayout cid.toNat) := by
  unfold basicConnectExtensions
  generalize cid.toNat = n
  split
  · exact Outcome.fits_list (provisionedContextV2Info_wellFormed h.modem)
  · have hset : (if cmdType = 1 && vendorPayloadLen ≥ 8 then
        { st with bce := lteAttachConfigSet st.bce cmd vendorPayloadLen } else st).Terminated := by
      split
      · exact ⟨h.modem, lteAttachConfigSet_length h.attachApn _ _⟩
      · exact h
    exact Outcome.fits_list (lteAttachConfigInfo_wellFormed hset.apn)
  · exact Outcome.fits_reply (lteAttachStatus_wellFormed _ h.apn)
  · exact Outcome.fits_nil _ _ _ _

theorem smsCommand_fits (acts : HandlerActions) (h : st.sms.Wf) (cmd : Bytes)
    (cmdLen cid vendorPayloadLen : UInt32) :
    (smsCommand acts st cmd cmdLen cid vendorPayloadLen).Fits (smsLayout cid.toNat) := by
  unfold smsCommand
  generalize cid.toNat = n
  split
  · exact Outcome.fits_reply ⟨smsConfigurationInfo_wellFormed, by decide +kernel⟩
  · exact Outcome.fits_list (smsReadInfo_wellFormed h _)
  · split <;> exact Outcome.fits_words (by simp)
  · split
    · exact Outcome.fits_nil _ _ _ _
    · split
      · exact Outcome.fits_nil _ _ _ _
      · exact Outcome.fits_words (by simp)
  · exact Outcome.fits_nil _ _ _ _
  · exact Outcome.fits_nil _ _ _ _

/-- The layout of a service that is not implemented is empty: its payload comes back. -/
theorem handleVendorCommand_fits (acts : HandlerActions) (h : st.Terminated) (hsms : st.sms.Wf)
    {cmd : Bytes} (hservice : slice cmd 20 16 ≠ uuidBasicConnect) {cmdLen : UInt32}
    (hmax : cmdLen.toNat ≤ 4096) (tid cid ibLen cmdType : UInt32) :
    (handleVendorCommand acts st cmd cmdLen tid cid ibLen cmdType).Fits
      (infoLayout (slice cmd 20 16) cid) := by
  unfold handleVendorCommand
  dsimp only
  by_cases hqmux : slice cmd 20 16 = uuidExtQmux
  · rw [if_pos hqmux]
    split
    · split
      · trivial
      · exact Outcome.fits_nil _ _ _ _
    · exact Outcome.fits_nil _ _ _ _
  rw [if_neg hqmux, infoLayout, if_neg hservice]
  by_cases hext : slice cmd 20 16 = uuidBasicConnectExtensions
  · rw [if_pos hext, if_pos hext]
    exact basicConnectExtensions_fits h _ _ _ _
  rw [if_neg hext, if_neg hext]
  by_cases hstore : slice cmd 20 16 = uuidSms
  · rw [if_pos hstore, if_pos hstore]
    exact smsCommand_fits acts hsms _ _ _ _
  rw [if_neg hstore, if_neg hstore]
  refine Outcome.fits_plain ?_
  rw [slice_length]
  split
  · rename_i hlong
    rw [UInt32.toNat_sub_of_le _ _ (UInt32.le_of_lt hlong)]
    change cmdLen.toNat - 48 ≤ 4048
    omega
  · exact Nat.zero_le _

/-! ## Frames -/

/-- The header of a COMMAND_DONE that answers `cmd`, and its information. -/
structure AnswersCommand (cmd resp : Bytes) : Prop where
  done : getLe32 resp 0 = mbimCommandDone
  header : 48 ≤ resp.length
  length : resp.length ≤ 4096
  messageLength : (getLe32 resp 4).toNat = resp.length
  infoLength : (getLe32 resp 44).toNat = resp.length - 48
  transactionId : getLe32 resp 8 = getLe32 cmd 8
  cid : getLe32 resp 36 = getLe32 cmd 36
  service : slice resp 20 16 = slice cmd 20 16
  info : resp.drop 48 ≠ [] →
    (infoLayout (slice cmd 20 16) (getLe32 cmd 36)).WellFormed (resp.drop 48)

theorem commandDone_split (cmd : Bytes) (tid cid status : UInt32) (info : Bytes) :
    commandDone cmd tid cid status info =
      le32s [mbimCommandDone, 48 + UInt32.ofNat info.length, tid, 1, 0] ++ (slice cmd 20 16 ++
        (le32s [cid, status, UInt32.ofNat info.length] ++ info)) := by
  simp only [commandDone, le32s, List.flatMap_cons, List.flatMap_nil, List.append_nil,
    List.append_assoc]

theorem commandDone_length (cmd : Bytes) (tid cid status : UInt32) (info : Bytes) :
    (commandDone cmd tid cid status info).length = 48 + info.length := by
  rw [commandDone_split]
  simp only [List.length_append, le32s_length, slice_length, List.length_cons, List.length_nil]
  omega

/-- An answer whose information fits is framed as it should be. -/
theorem commandDone_framed {cmd : Bytes} {status : UInt32} {info : Bytes}
    (hlen : info.length ≤ 4048)
    (hinfo : info ≠ [] → (infoLayout (slice cmd 20 16) (getLe32 cmd 36)).WellFormed info) :
    AnswersCommand cmd (commandDone cmd (getLe32 cmd 8) (getLe32 cmd 36) status info) := by
  have hlength := commandDone_length cmd (getLe32 cmd 8) (getLe32 cmd 36) status info
  have hnat : (UInt32.ofNat info.length).toNat = info.length := by
    rw [UInt32.toNat_ofNat']
    exact Nat.mod_eq_of_lt (by omega)
  have hdrop : (commandDone cmd (getLe32 cmd 8) (getLe32 cmd 36) status info).drop 48 = info := by
    rw [commandDone_split, ← List.append_assoc, ← List.append_assoc]
    refine List.drop_left' ?_
    simp
  -- the words in front of the service and those behind it
  have hfront : ∀ {k v}, [mbimCommandDone, 48 + UInt32.ofNat info.length, getLe32 cmd 8, 1, 0][k]? =
      some v → getLe32 (commandDone cmd (getLe32 cmd 8) (getLe32 cmd 36) status info) (4 * k) = v :=
    fun {k v} hk => by
      rw [commandDone_split]
      exact UInt32.toNat_inj.mp (wordAt_le32s hk _)
  have hback : ∀ {k v}, [getLe32 cmd 36, status, UInt32.ofNat info.length][k]? = some v →
      getLe32 (commandDone cmd (getLe32 cmd 8) (getLe32 cmd 36) status info) (36 + 4 * k) = v :=
    fun {k v} hk => by
      rw [commandDone_split, ← List.append_assoc,
        show 36 + 4 * k = (le32s [mbimCommandDone, 48 + UInt32.ofNat info.length, getLe32 cmd 8, 1, 0] ++
          slice cmd 20 16).length + 4 * k by simp, getLe32_append_right]
      exact UInt32.toNat_inj.mp (wordAt_le32s hk _)
  constructor
  · exact hfront (k := 0) rfl
  · omega
  · omega
  · rw [hfront (k := 1) rfl, hlength, UInt32.toNat_add, hnat]
    change (48 + info.length) % 2 ^ 32 = _
    omega
  · rw [hback (k := 2) rfl, hnat]
    omega
  · exact hfront (k := 2) rfl
  · exact hback (k := 0) rfl
  · rw [commandDone_split]
    have hmid := slice_append_mid
      (le32s [mbimCommandDone, 48 + UInt32.ofNat info.length, getLe32 cmd 8, 1, 0]) (slice cmd 20 16)
      (le32s [getLe32 cmd 36, status, UInt32.ofNat info.length] ++ info)
    rw [slice_length] at hmid
    exact hmid
  · rw [hdrop]
    exact hinfo

/-- Every COMMAND_DONE is well formed, whatever the command, the modem state and the
stored messages are. -/
theorem mbimHandlersHandleCommand_wellFormed (acts : HandlerActions) {st : HandlerState}
    (cmd : Bytes) {cmdLen : UInt32} (hmin : 48 ≤ cmdLen.toNat) (hmax : cmdLen.toNat ≤ 4096)
    (hterm : st.Terminated) (ops : List SmsStoreOp) (hsms : st.sms = run smsStoreStep {} ops) :
    ∃ r, mbimHandlersHandleCommand acts st cmd cmdLen = some r ∧
      (r.vendorEvent = none → AnswersCommand cmd r.resp) := by
  have hwf : st.sms.Wf := hsms ▸ SmsStore.wf_run ops
  have hlong : ¬ cmdLen < 48 := fun hshort => by
    rw [UInt32.lt_iff_toNat_lt] at hshort
    exact absurd hmin (Nat.not_le.mpr hshort)
  unfold mbimHandlersHandleCommand
  rw [if_neg hlong]
  dsimp only
  generalize hout : (if slice cmd 20 16 = uuidBasicConnect then
    basicConnect acts st cmd cmdLen (getLe32 cmd 36) (getLe32 cmd 40) (getLe32 cmd 44)
    else handleVendorCommand acts st cmd cmdLen (getLe32 cmd 8) (getLe32 cmd 36) (getLe32 cmd 44)
      (getLe32 cmd 40)) = outcome
  have hfits : outcome.Fits (infoLayout (slice cmd 20 16) (getLe32 cmd 36)) := by
    rw [← hout]
    split
    · rename_i hservice
      rw [infoLayout, if_pos hservice]
      exact basicConnect_fits acts hterm.modem _ _ _ _ _
    · exact handleVendorCommand_fits acts hterm hwf ‹_› hmax _ _ _ _
  cases outcome with
  | done st' calls status info =>
    exact ⟨_, rfl, fun _ => commandDone_framed hfits.1 hfits.2⟩
  | qmiCtlSync event => exact ⟨_, rfl, nofun⟩

/-- A modem with an IMEI, a model and a firmware, and one stored message. -/
def oneMessageState : HandlerState where
  modem := { identity := { imei := [0x31, 0x32, 0x33], model := [0x41], firmware := [0x42, 0x43] } }
  sms := run smsStoreStep {} [.append [0, 1, 2, 3]]

/-- A query without information. -/
def plainQuery (service : Bytes) (cid : UInt32) : Bytes :=
  le32s [mbimCommandMsg, 48, 7, 1, 0] ++ service ++ le32s [cid, 0, 0]

/-- Its answer to `cmd` has `len` octets and is well formed. -/
def AnswersWell (cmd : Bytes) (len : Nat) : Prop :=
  ∃ r, mbimHandlersHandleCommand ⟨true, true, fun _ => none⟩ oneMessageState cmd 48 = some r ∧
    r.resp.length = len ∧ AnswersCommand cmd r.resp

/-- DEVICE_CAPS is answered with the strings, SMS_READ with the message. -/
theorem mbimHandlersHandleCommand_wellFormed_message :
    AnswersWell (plainQuery uuidBasicConnect 1) 128 ∧ AnswersWell (plainQuery uuidSms 2) 84 := by
  have hanswers {cmd : Bytes} {len : Nat}
      (hplain : (mbimHandlersHandleCommand ⟨true, true, fun _ => none⟩ oneMessageState cmd 48).map
        (fun r => (r.resp.length, r.vendorEvent)) = some (len, none)) : AnswersWell cmd len := by
    obtain ⟨r, hr, hwell⟩ := mbimHandlersHandleCommand_wellFormed ⟨true, true, fun _ => none⟩ cmd
      (by decide : 48 ≤ (48 : UInt32).toNat) (by decide)
      (⟨by constructor <;> decide, by decide⟩ : oneMessageState.Terminated) [.append [0, 1, 2, 3]] rfl
    rw [hr, Option.map_some, Option.some.injEq, Prod.mk.injEq] at hplain
    exact ⟨r, hr, hplain.1, hwell hplain.2⟩
  exact ⟨hanswers (by decide +kernel), hanswers (by decide +kernel)⟩

end VirtualLte.Mbim
