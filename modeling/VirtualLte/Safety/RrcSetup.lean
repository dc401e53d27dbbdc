import VirtualLte.Engine.Network
import VirtualLte.Rrc.RoundTrip

/-!
# RRCSetup and the request it answers

`engineHandleRrcSetup` is documented as the transition from SETUP_REQUESTED to CONNECTED.
It does not look at the RRC state, and the receive loop reaches it from every channel.

* The bits.  Three bits decide that an octet string is an RRCSetup of the common channel
  (`ueRrcDecodeDlCcch_cons`), and the same three bits begin the alternatives 4 to 7 of the
  dedicated channel, DLInformationTransfer among them.
* The dispatch.  `isSetup_dlDispatch` says on which channels, and after which failure,
  a PDU is taken for an RRCSetup.
* `SetupAnswersRequest`: nothing is set up unasked.  `setupGuarded` names the PDUs and states
  for which that holds.
-/

namespace VirtualLte.Rrc

/-- The leading bits `001` of an RRCSetup on the common channel. -/
def beginsAsSetup : Bytes → Bool
  | [] => false
  | b :: _ => 0x20 ≤ b && b < 0x40

/-- A field that lies within a known beginning of the bits. -/
theorem ueRrcBrGetBits_within {n : Nat} {bits : List Bool} (hpos : 0 < n) (hmax : n ≤ 64)
    (hlen : n ≤ bits.length) (rest : List Bool) :
    ueRrcBrGetBits n (bits ++ rest) = some (natOfBits (bits.take n), bits.drop n ++ rest) := by
  have hroom : ¬ (bits ++ rest).length < n := by
    rw [List.length_append]
    omega
  rw [ueRrcBrGetBits, if_neg (by omega), if_neg hroom, List.take_append_of_le_length hlen,
    List.drop_append_of_le_length hlen]

/-- What the decoder of the common channel makes of the eight bits of its first octet. -/
def setupOfBits (bits : List Bool) : Option UeRrcMessage :=
  if natOfBits (bits.take 1) = 0 ∧ natOfBits ((bits.drop 1).take 2) = 1 then
    some {
      type := .setup
      nasPdu := []
      rrcTransactionId := UInt8.ofNat (natOfBits ((bits.drop 3).take 2)) }
  else none

theorem setupOfBits_octet (b : UInt8) (rest : Bytes) :
    setupOfBits (bitsOfNat b.toNat 8) =
      if beginsAsSetup (b :: rest) then
        some { type := .setup, nasPdu := [], rrcTransactionId := b >>> 3 &&& 3 }
      else none := by
  refine forall_octet (p := fun b => setupOfBits (bitsOfNat b.toNat 8) =
    if 0x20 ≤ b && b < 0x40 then
      some { type := .setup, nasPdu := [], rrcTransactionId := b >>> 3 &&& 3 }
    else none) ?_ b
  decide +kernel

/-- The first octet alone decides, and it holds the transaction identifier too. -/
theorem ueRrcDecodeDlCcch_cons (b : UInt8) (rest : Bytes) :
    ueRrcDecodeDlCcch (b :: rest) =
      if beginsAsSetup (b :: rest) then
        some { type := .setup, nasPdu := [], rrcTransactionId := b >>> 3 &&& 3 }
      else none := by
  have hlen : (bitsOfNat b.toNat 8).length = 8 := bitsOfNat_length _ _
  have hbits : ueRrcBrInit (b :: rest) = bitsOfNat b.toNat 8 ++ bitsOfBytes rest :=
    bitsOfBytes_cons b rest
  rw [← setupOfBits_octet b rest, setupOfBits, ueRrcDecodeDlCcch, if_neg (by simp), hbits]
  generalize bitsOfNat b.toNat 8 = bits at hlen
  have hchoice := ueRrcBrGetBits_within (n := 1) (by decide) (by decide)
    (by omega : 1 ≤ bits.length) (bitsOfBytes rest)
  have halt := ueRrcBrGetBits_within (n := 2) (by decide) (by decide)
    (by rw [List.length_drop]; omega : 2 ≤ (bits.drop 1).length) (bitsOfBytes rest)
  have htx := ueRrcBrGetBits_within (n := 2) (by decide) (by decide)
    (by rw [List.length_drop]; omega : 2 ≤ (bits.drop 3).length) (bitsOfBytes rest)
  rw [List.drop_drop] at halt
  simp only [hchoice, halt, htx, Option.bind_eq_bind, Option.bind_some, ite_not]
  split
  · rename_i hzero
    simp only [hzero, true_and]
  · rename_i hzero
    simp only [hzero, false_and, if_false]

/-- The common channel has one message here, and its leading bits are all it takes. -/
theorem ueRrcDecodeDlCcch_cases (pdu : Bytes) :
    (∃ msg, beginsAsSetup pdu = true ∧ msg.type = .setup ∧ ueRrcDecodeDlCcch pdu = some msg) ∨
      beginsAsSetup pdu = false ∧ ueRrcDecodeDlCcch pdu = none := by
  cases pdu with
  | nil => exact .inr ⟨rfl, rfl⟩
  | cons b rest =>
    rw [ueRrcDecodeDlCcch_cons]
    cases hbegin : beginsAsSetup (b :: rest) with
    | true => exact .inl ⟨_, rfl, rfl, rfl⟩
    | false => exact .inr ⟨rfl, rfl⟩

theorem decodeDlInfoTransfer_type {br : UeRrcBitreader} {msg : UeRrcMessage}
    (h : decodeDlInfoTransfer br = some msg) : msg.type = .dlInfoTransfer := by
  simp only [decodeDlInfoTransfer, Option.bind_eq_bind, Option.bind_eq_some_iff] at h
  obtain ⟨_, -, _, -, h⟩ := h
  split at h
  · cases h
  rw [Option.bind_eq_some_iff] at h
  obtain ⟨_, -, h⟩ := h
  split at h
  · cases h
    rfl
  rw [Option.bind_eq_some_iff] at h
  obtain ⟨_, -, h⟩ := h
  split at h
  · cases h
  rw [Option.bind_eq_some_iff] at h
  obtain ⟨_, -, h⟩ := h
  cases h
  rfl

/-- The dedicated channel has no RRCSetup. -/
theorem ueRrcDecodeDlDcch_type {pdu : Bytes} {msg : UeRrcMessage}
    (h : ueRrcDecodeDlDcch pdu = some msg) : msg.type = .dlInfoTransfer := by
  unfold ueRrcDecodeDlDcch at h
  split at h
  · cases h
  simp only [Option.bind_eq_bind, Option.bind_eq_some_iff] at h
  obtain ⟨_, -, h⟩ := h
  split at h
  · cases h
  rw [Option.bind_eq_some_iff] at h
  obtain ⟨_, -, h⟩ := h
  split at h
  · exact decodeDlInfoTransfer_type h
  · cases h

end VirtualLte.Rrc

namespace VirtualLte.Engine

open Ran Rrc

/-! ## What becomes of a PDU -/

def DlAction.isSetup : DlAction → Bool
  | .rrcSetup _ => true
  | .nas _ => false
  | .ignore => false

/-- The engine goes through the RRCSetup actions for this PDU. -/
def performsSetup (ctx : UeContext) (channel : UInt32) (pdu : Bytes) : Bool :=
  (dlDispatch ctx.waitingCoreResponse channel pdu).isSetup

/-- No other PDU moves the RRC state or opens the window. -/
theorem handleDlPdu_not_performed {ctx : UeContext} {channel : UInt32} {pdu : Bytes}
    (nowMs : UInt64) (h : performsSetup ctx channel pdu = false) :
    (handleDlPdu ctx nowMs channel pdu).rrcState = ctx.rrcState ∧
      ((handleDlPdu ctx nowMs channel pdu).waitingCoreResponse = true →
        ctx.waitingCoreResponse = true) := by
  unfold performsSetup at h
  unfold handleDlPdu
  dsimp only
  cases haction : dlDispatch ctx.waitingCoreResponse channel pdu with
  | rrcSetup txId =>
    rw [haction] at h
    cases h
  | nas nas =>
    obtain ⟨hreg, hrrc, -⟩ := decodeAndProcessNas_reg { ctx with
      postSetupPduCount := ctx.postSetupPduCount + if ctx.waitingCoreResponse then 1 else 0 } nas
    refine ⟨hrrc, fun hwait => ?_⟩
    rw [performDl] at hwait
    cases hreg with
    | same hmm hsame => exact hsame ▸ hwait
    | accept assigned hmm hclosed =>
      rw [hclosed] at hwait
      cases hwait
    | reject cause hmm hclosed =>
      rw [hclosed] at hwait
      cases hwait
  | ignore => exact ⟨rfl, id⟩

/-! ## The decoders in turn -/

theorem isSetup_dlCcch {pdu : Bytes} {msg : UeRrcMessage} (h : ueRrcDecodeDlCcch pdu = some msg) :
    (rrcAction msg).isSetup = true := by
  obtain ⟨_, -, htype, heq⟩ | ⟨-, heq⟩ := ueRrcDecodeDlCcch_cases pdu
  · cases heq.symm.trans h
    rw [rrcAction, htype]
    rfl
  · cases heq.symm.trans h

theorem isSetup_dlDcch {pdu : Bytes} {msg : UeRrcMessage} (h : ueRrcDecodeDlDcch pdu = some msg) :
    (rrcAction msg).isSetup = false := by
  rw [rrcAction, ueRrcDecodeDlDcch_type h]
  dsimp only
  split
  · rfl
  · rfl

/-- The fallback takes a PDU for an RRCSetup when the dedicated decoder gives up on it, except
on the dedicated channel while a core response is awaited. -/
theorem isSetup_dlFallback (waiting : Bool) (channel : UInt32) (pdu : Bytes) :
    (dlFallback waiting channel pdu).isSetup = true ↔
      ueRrcDecodeDlDcch pdu = none ∧ ¬ (waiting = true ∧ channel = ueRrcChannelDlDcch) ∧
        beginsAsSetup pdu = true := by
  unfold dlFallback
  cases hdcch : ueRrcDecodeDlDcch pdu with
  | some msg => simp only [isSetup_dlDcch hdcch, Bool.false_eq_true, reduceCtorEq, false_and]
  | none =>
    dsimp only
    split
    · rename_i hguard
      simp only [DlAction.isSetup, Bool.false_eq_true, hguard, and_self, not_true_eq_false,
        false_and, and_false]
    · rename_i hguard
      obtain ⟨msg, hbegin, -, heq⟩ | ⟨hbegin, heq⟩ := ueRrcDecodeDlCcch_cases pdu
      · simp only [heq, isSetup_dlCcch heq, hbegin, hguard, not_false_eq_true, and_self]
      · simp only [heq, DlAction.isSetup, hbegin, Bool.false_eq_true, and_false]

theorem isSetup_dlDispatch (waiting : Bool) (channel : UInt32) (pdu : Bytes) :
    (dlDispatch waiting channel pdu).isSetup = true ↔
      beginsAsSetup pdu = true ∧
        (channel ≠ ueRrcChannelDlCcch →
          ueRrcDecodeDlDcch pdu = none ∧ ¬ (waiting = true ∧ channel = ueRrcChannelDlDcch)) := by
  unfold dlDispatch
  dsimp only
  by_cases hccch : channel = ueRrcChannelDlCcch
  · rw [if_pos hccch]
    obtain ⟨msg, hbegin, -, heq⟩ | ⟨hbegin, heq⟩ := ueRrcDecodeDlCcch_cases pdu
    · simp only [heq, isSetup_dlCcch heq, hbegin, hccch, ne_eq, not_true_eq_false, false_implies,
        and_self]
    · simp only [heq, isSetup_dlFallback, hbegin, Bool.false_eq_true, and_false, false_and]
  rw [if_neg hccch]
  have hfallback : (dlFallback waiting channel pdu).isSetup = true ↔
      beginsAsSetup pdu = true ∧ (channel ≠ ueRrcChannelDlCcch →
        ueRrcDecodeDlDcch pdu = none ∧ ¬ (waiting = true ∧ channel = ueRrcChannelDlDcch)) := by
    rw [isSetup_dlFallback, and_comm (a := beginsAsSetup pdu = true), ← and_assoc,
      forall_prop_of_true hccch]
  by_cases hdcch : channel = ueRrcChannelDlDcch
  · rw [if_pos hdcch]
    cases hdec : ueRrcDecodeDlDcch pdu with
    | some msg =>
      simp only [isSetup_dlDcch hdec, Bool.false_eq_true, reduceCtorEq, false_and, false_iff,
        not_and]
      exact fun _ h => h hccch
    | none =>
      rw [hdec] at hfallback
      exact hfallback
  · rw [if_neg hdcch]
    exact hfallback

/-! ## Set up only when asked -/

/-- A request is out and the PDU came on the common channel. -/
def Solicited (ctx : UeContext) (channel : UInt32) : Prop :=
  ctx.rrcState = .setupRequested ∧ channel = ueRrcChannelDlCcch

/-- The RRCSetup actions are for a solicited PDU; any other leaves the RRC state as it is and
does not open the core-response window. -/
structure SetupAnswersRequest (ctx : UeContext) (nowMs : UInt64) (channel : UInt32)
    (pdu : Bytes) : Prop where
  solicited : performsSetup ctx channel pdu = true → Solicited ctx channel
  rrcState : ¬ Solicited ctx channel → (handleDlPdu ctx nowMs channel pdu).rrcState = ctx.rrcState
  window : ¬ Solicited ctx channel →
    (handleDlPdu ctx nowMs channel pdu).waitingCoreResponse = true → ctx.waitingCoreResponse = true

/-- Leading bits of an RRCSetup come on the common channel while a request is out; on any other
channel they come in a PDU the dedicated decoder accepts, or on the dedicated channel in the
core-response window. -/
def setupGuarded (ctx : UeContext) (channel : UInt32) (pdu : Bytes) : Prop :=
  beginsAsSetup pdu = true →
    if channel = ueRrcChannelDlCcch then ctx.rrcState = .setupRequested
    else ueRrcDecodeDlDcch pdu ≠ none ∨
      channel = ueRrcChannelDlDcch ∧ ctx.waitingCoreResponse = true

theorem performsSetup_solicited_iff (ctx : UeContext) (channel : UInt32) (pdu : Bytes) :
    (performsSetup ctx channel pdu = true → Solicited ctx channel) ↔
      setupGuarded ctx channel pdu := by
  rw [performsSetup, isSetup_dlDispatch, setupGuarded, Solicited]
  by_cases hccch : channel = ueRrcChannelDlCcch
  · simp only [hccch, ne_eq, not_true_eq_false, false_implies, and_true, if_true]
  · rw [if_neg hccch]
    constructor
    · intro h hbegin
      by_contra hcontra
      rw [not_or, not_not] at hcontra
      exact hccch (h ⟨hbegin, fun _ => ⟨hcontra.1, fun hwin => hcontra.2 hwin.symm⟩⟩).2
    · rintro h ⟨hbegin, htried⟩
      obtain ⟨hnone, hopen⟩ := htried hccch
      rcases h hbegin with hsome | hwin
      · exact absurd hnone hsome
      · exact absurd hwin.symm hopen

/-- An RRCSetup is acted on only in answer to a request exactly under `setupGuarded`. -/
theorem setupAnswersRequest_iff (ctx : UeContext) (nowMs : UInt64) (channel : UInt32)
    (pdu : Bytes) :
    SetupAnswersRequest ctx nowMs channel pdu ↔ setupGuarded ctx channel pdu := by
  rw [← performsSetup_solicited_iff]
  refine ⟨fun h => h.solicited, fun h => ?_⟩
  have hother : ¬ Solicited ctx channel → performsSetup ctx channel pdu = false := by
    intro hnot
    cases hperf : performsSetup ctx channel pdu with
    | true => exact absurd (h hperf) hnot
    | false => rfl
  exact ⟨h, fun hnot => (handleDlPdu_not_performed nowMs (hother hnot)).1,
    fun hnot => (handleDlPdu_not_performed nowMs (hother hnot)).2⟩

/-- A DLInformationTransfer of which one octet arrived. -/
def truncatedTransfer : Bytes := [0x28]

/-- On the dedicated channel it is taken for an RRCSetup, with no request out. -/
theorem truncatedTransfer_sets_up :
    ¬ ∀ ctx, Reachable ctx → ∀ nowMs channel pdu, SetupAnswersRequest ctx nowMs channel pdu := by
  intro h
  have hsetup := h _ (exampleUe_reachable [.setRadio true]) 1 ueRrcChannelDlDcch truncatedTransfer
  have hidle := hsetup.solicited (by decide +kernel)
  exact absurd hidle.1 (by decide +kernel)

end VirtualLte.Engine
