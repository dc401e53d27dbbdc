import VirtualLte.Bytes
import VirtualLte.Lib.Access

/-!
# RP-DATA

`ims_rpdata.c`: the relay layer between SIP and the SMS PDUs of the host.

* `imsBuildRpData` wraps a PDU of the host: its service centre address becomes the
  destination, the rest the user data.
* `imsRpDataToMbimPdu` unwraps an RPDU of the network: the originator address becomes the
  service centre address again.
* `imsBuildRpData_eq`: a PDU gets an RP-DATA exactly if it has a service centre address and
  between 1 and 255 octets behind it (`Encodable`).
* `imsRpData_roundTrip_iff`: what was built and relayed is unwrapped to the same PDU, unless the
  length of the user data looks like the optional IEI in front of it.
-/

namespace VirtualLte.Ims

/-- An RPDU for a PDU `[SCA-len][SCA][TPDU]`, in `outCap` octets. -/
def imsBuildRpData (mbimPdu : Bytes) (rpMr : UInt8) (outCap : Nat) : Option Bytes :=
  if mbimPdu.length < 1 then none
  else
    let scaLen := (octet mbimPdu 0).toNat
    let scaTotal := 1 + scaLen
    if scaTotal ≥ mbimPdu.length then none
    else
      let tpduLen := mbimPdu.length - scaTotal
      if tpduLen = 0 ∨ tpduLen > 255 then none
      else if 3 + (if scaLen ≠ 0 then scaTotal else 1) + 1 + tpduLen > outCap then none
      else
        some ([0x00, rpMr, 0x00] ++ (if scaLen ≠ 0 then mbimPdu.take scaTotal else [0x00]) ++
          [UInt8.ofNat tpduLen] ++ mbimPdu.drop scaTotal)

/-- The PDU of an RPDU, and its message reference. -/
def imsRpDataToMbimPdu (rp : Bytes) (outCap : Nat) : Option (Bytes × UInt8) :=
  if rp.length < 3 then none
  else if octet rp 0 &&& 0x07 ≠ 0x01 then none
  else
    let rpMr := octet rp 1
    let oaLv := 1 + (octet rp 2).toNat
    let da := 2 + oaLv
    if da ≥ rp.length then none
    else
      let ud := da + 1 + (octet rp da).toNat
      if ud ≥ rp.length then none
      else
        -- the IEI of the user data is optional
        let ud := if octet rp ud = 0x41 ∧ ud + 1 < rp.length then ud + 1 else ud
        let udLen := (octet rp ud).toNat
        if udLen = 0 ∨ ud + 1 + udLen > rp.length then none
        else if oaLv + udLen > outCap then none
        else some ((rp.drop 2).take oaLv ++ (rp.drop (ud + 1)).take udLen, rpMr)

/-! ## In fields -/

/-- Octets behind their number. -/
def lengthValue (b : Bytes) : Bytes := UInt8.ofNat b.length :: b

/-- RP-DATA of a mobile: type, message reference, no originator, the service centre as the
destination, and the user data. -/
def rpData (rpMr : UInt8) (sca tpdu : Bytes) : Bytes :=
  [0x00, rpMr, 0x00] ++ lengthValue sca ++ lengthValue tpdu

/-- The service centre address of a PDU, and what is behind it. -/
def pduSca (pdu : Bytes) : Bytes := (pdu.drop 1).take (octet pdu 0).toNat
def pduTpdu (pdu : Bytes) : Bytes := pdu.drop (1 + (octet pdu 0).toNat)

/-- There is user data behind the address, and its number of octets is one octet. -/
def Encodable (pdu : Bytes) : Prop :=
  1 + (octet pdu 0).toNat < pdu.length ∧ pdu.length ≤ 1 + (octet pdu 0).toNat + 255

instance (pdu : Bytes) : Decidable (Encodable pdu) := inferInstanceAs (Decidable (_ ∧ _))

theorem Encodable.length_le {pdu : Bytes} (h : Encodable pdu) : pdu.length ≤ 511 := by
  have hsca := (octet pdu 0).toNat_lt
  have := h.2
  omega

/-- The address with its length octet is the start of the PDU. -/
theorem lengthValue_pduSca {pdu : Bytes} (h : 1 + (octet pdu 0).toNat ≤ pdu.length) :
    lengthValue (pduSca pdu) = pdu.take (1 + (octet pdu 0).toNat) := by
  cases pdu with
  | nil => exact absurd h (by rw [List.length_nil]; omega)
  | cons x rest =>
    rw [octet_cons_zero, List.length_cons] at h
    have hlen : (rest.take x.toNat).length = x.toNat := by
      rw [List.length_take]
      omega
    rw [pduSca, octet_cons_zero, List.drop_one, List.tail_cons, lengthValue, hlen, UInt8.ofNat_toNat,
      Nat.add_comm, List.take_succ_cons]

/-- A PDU becomes an RP-DATA exactly if it has user data that can be counted, and room. -/
theorem imsBuildRpData_eq (pdu : Bytes) (rpMr : UInt8) (outCap : Nat) :
    imsBuildRpData pdu rpMr outCap =
      if Encodable pdu ∧ pdu.length + 4 ≤ outCap then some (rpData rpMr (pduSca pdu) (pduTpdu pdu))
      else none := by
  unfold imsBuildRpData
  dsimp only
  by_cases hroom : 1 + (octet pdu 0).toNat < pdu.length
  · have hsize : 3 + (if (octet pdu 0).toNat ≠ 0 then 1 + (octet pdu 0).toNat else 1) + 1 +
        (pdu.length - (1 + (octet pdu 0).toNat)) = pdu.length + 4 := by
      split <;> omega
    have hdestination : (if (octet pdu 0).toNat ≠ 0 then pdu.take (1 + (octet pdu 0).toNat)
        else [0x00]) = lengthValue (pduSca pdu) := by
      split
      · rw [lengthValue_pduSca (Nat.le_of_lt hroom)]
      · rename_i hzero
        rw [pduSca, Decidable.not_not.mp hzero]
        rfl
    have hdata : UInt8.ofNat (pdu.length - (1 + (octet pdu 0).toNat)) :: pduTpdu pdu =
        lengthValue (pduTpdu pdu) := by
      rw [lengthValue, pduTpdu, List.length_drop]
    rw [if_neg (by omega), if_neg (by omega), hsize, hdestination, List.append_assoc _ _ (pdu.drop _)]
    change (if _ then _ else if _ then _ else some ([0x00, rpMr, 0x00] ++ lengthValue (pduSca pdu) ++
      UInt8.ofNat (pdu.length - (1 + (octet pdu 0).toNat)) :: pduTpdu pdu)) = _
    rw [hdata]
    by_cases hlong : pdu.length ≤ 1 + (octet pdu 0).toNat + 255
    · rw [if_neg (by omega)]
      by_cases hcap : pdu.length + 4 ≤ outCap
      · exact (if_neg (by omega)).trans (if_pos ⟨⟨hroom, hlong⟩, hcap⟩).symm
      · exact (if_pos (by omega)).trans (if_neg fun h => hcap h.2).symm
    · exact (if_pos (by omega)).trans (if_neg fun h => hlong h.1.2).symm
  · rw [if_neg fun h : Encodable pdu ∧ _ => hroom h.1.1]
    split
    · rfl
    · rw [if_pos (by omega)]

theorem rpData_length {pdu : Bytes} (h : Encodable pdu) (rpMr : UInt8) :
    (rpData rpMr (pduSca pdu) (pduTpdu pdu)).length = pdu.length + 4 := by
  have hroom := h.1
  rw [rpData, lengthValue_pduSca (Nat.le_of_lt hroom)]
  simp only [List.length_append, List.length_take, lengthValue, pduTpdu, List.length_cons,
    List.length_nil, List.length_drop]
  omega

/-! ## Relayed -/

/-- RP-DATA of the network: type, message reference, the service centre as the originator, no
destination, and the user data. -/
def relayedRpData (rpMr : UInt8) (sca tpdu : Bytes) : Bytes :=
  [0x01, rpMr] ++ lengthValue sca ++ [0x00] ++ lengthValue tpdu

/-- The octets behind the number at `p`. -/
def valueAt (b : Bytes) (p : Nat) : Bytes := (b.drop (p + 1)).take (octet b p).toNat

/-- What the network relays of a mobile's RPDU, if that is an RP-DATA: its destination becomes
the originator. -/
def relayRpData (rpdu : Bytes) : Option Bytes :=
  let da := 3 + (octet rpdu 2).toNat
  let ud := da + 1 + (octet rpdu da).toNat
  if octet rpdu 0 = 0x00 ∧ rpdu.length = ud + 1 + (octet rpdu ud).toNat then
    some (relayedRpData (octet rpdu 1) (valueAt rpdu da) (valueAt rpdu ud))
  else none

/-- A field is read where it stands. -/
theorem valueAt_append (a c : Bytes) {b : Bytes} (h : b.length ≤ 255) :
    (octet (a ++ lengthValue b ++ c) a.length).toNat = b.length ∧
      valueAt (a ++ lengthValue b ++ c) a.length = b := by
  have hdrop : (a ++ lengthValue b ++ c).drop a.length = UInt8.ofNat b.length :: (b ++ c) := by
    rw [List.append_assoc, List.drop_left]
    rfl
  have hcount : (octet (a ++ lengthValue b ++ c) a.length).toNat = b.length := by
    rw [← Nat.add_zero a.length, ← octet_drop, hdrop, octet_cons_zero, UInt8.toNat_ofNat']
    omega
  refine ⟨hcount, ?_⟩
  rw [valueAt, hcount, ← List.drop_drop, hdrop, List.drop_one, List.tail_cons, List.take_left]

theorem relayRpData_rpData (rpMr : UInt8) {sca tpdu : Bytes} (hsca : sca.length ≤ 255)
    (htpdu : tpdu.length ≤ 255) :
    relayRpData (rpData rpMr sca tpdu) = some (relayedRpData rpMr sca tpdu) := by
  obtain ⟨hdaLen, hda⟩ := valueAt_append [0x00, rpMr, 0x00] (lengthValue tpdu) hsca
  obtain ⟨hudLen, hud⟩ := valueAt_append ([0x00, rpMr, 0x00] ++ lengthValue sca) [] htpdu
  have hplace : ([0x00, rpMr, 0x00] ++ lengthValue sca).length = 3 + 1 + sca.length := by
    simp only [lengthValue, List.length_append, List.length_cons, List.length_nil]
    omega
  rw [List.append_nil, hplace] at hudLen hud
  have hoa : 3 + (octet (rpData rpMr sca tpdu) 2).toNat = 3 := rfl
  unfold relayRpData
  simp only [hoa]
  have hda' : (octet (rpData rpMr sca tpdu) 3).toNat = sca.length := hdaLen
  have hlen : (rpData rpMr sca tpdu).length = 3 + 1 + sca.length + 1 + tpdu.length := by
    rw [rpData, List.length_append, hplace, lengthValue, List.length_cons]
    omega
  rw [hda', if_pos ⟨rfl, hlen.trans (congrArg _ hudLen.symm)⟩]
  exact congrArg some (congrArg₂ (relayedRpData rpMr) hda hud)

theorem pduSca_length {pdu : Bytes} (h : Encodable pdu) :
    (pduSca pdu).length = (octet pdu 0).toNat := by
  have hroom := h.1
  rw [pduSca, List.length_take, List.length_drop]
  omega

theorem pduTpdu_length (pdu : Bytes) :
    (pduTpdu pdu).length = pdu.length - (1 + (octet pdu 0).toNat) := by
  rw [pduTpdu, List.length_drop]

theorem lengthValue_append_pduTpdu {pdu : Bytes} (h : Encodable pdu) :
    lengthValue (pduSca pdu) ++ pduTpdu pdu = pdu := by
  rw [lengthValue_pduSca (Nat.le_of_lt h.1), pduTpdu, List.take_append_drop]

/-- The fields of a relayed RP-DATA, by where they stand. -/
theorem relayed_fields {rpMr : UInt8} {sca tpdu rp : Bytes} (hsca : sca.length ≤ 255)
    (hrp : relayedRpData rpMr sca tpdu = rp) :
    rp.length = 5 + sca.length + tpdu.length ∧ octet rp 0 = 0x01 ∧ octet rp 1 = rpMr ∧
      (octet rp 2).toNat = sca.length ∧ octet rp (3 + sca.length) = 0 ∧
      octet rp (4 + sca.length) = UInt8.ofNat tpdu.length ∧ rp.drop (5 + sca.length) = tpdu ∧
      (rp.drop 2).take (1 + sca.length) = lengthValue sca := by
  have hfront : ([0x01, rpMr] ++ lengthValue sca).length = 3 + sca.length := by
    simp only [lengthValue, List.length_append, List.length_cons, List.length_nil]
    omega
  have hdrop : rp.drop (3 + sca.length) = [0x00] ++ lengthValue tpdu := by
    rw [← hrp, relayedRpData, List.append_assoc]
    exact List.drop_left' hfront
  have hoctet : ∀ k, octet rp (3 + sca.length + k) = octet ([0x00] ++ lengthValue tpdu) k := by
    intro k
    rw [← octet_drop, hdrop]
  refine ⟨?_, ?_, ?_, ?_, hoctet 0, ?_, ?_, ?_⟩
  · simp only [← hrp, relayedRpData, lengthValue, List.length_append, List.length_cons,
      List.length_nil]
    omega
  · rw [← hrp]
    rfl
  · rw [← hrp]
    rfl
  · rw [← hrp]
    change (UInt8.ofNat sca.length).toNat = _
    rw [UInt8.toNat_ofNat']
    omega
  · rw [show 4 + sca.length = 3 + sca.length + 1 by omega, hoctet 1]
    rfl
  · rw [show 5 + sca.length = 3 + sca.length + 2 by omega, ← List.drop_drop, hdrop]
    rfl
  · rw [← hrp, relayedRpData, List.append_assoc, List.append_assoc]
    change (lengthValue sca ++ _).take _ = _
    exact List.take_left' (by rw [lengthValue, List.length_cons, Nat.add_comm])

theorem imsRpDataToMbimPdu_relayed (rpMr : UInt8) (sca tpdu : Bytes) (hsca : sca.length ≤ 255)
    (hpos : 1 ≤ tpdu.length) (hmax : tpdu.length ≤ 255) (hiei : tpdu.length ≠ 65) {outCap : Nat}
    (hcap : 1 + sca.length + tpdu.length ≤ outCap) :
    imsRpDataToMbimPdu (relayedRpData rpMr sca tpdu) outCap = some (lengthValue sca ++ tpdu, rpMr) := by
  generalize hrp : relayedRpData rpMr sca tpdu = rp
  obtain ⟨hlen, htype, hmr, hoa, hda, hud, htpdu, hlv⟩ := relayed_fields hsca hrp
  have hcount : (UInt8.ofNat tpdu.length).toNat = tpdu.length := by
    rw [UInt8.toNat_ofNat']
    omega
  have hplain : ¬(UInt8.ofNat tpdu.length = 0x41 ∧ 5 + sca.length < rp.length) := by
    rintro ⟨h41, -⟩
    rw [h41] at hcount
    exact hiei hcount.symm
  have hda' : 2 + (1 + sca.length) = 3 + sca.length := by omega
  have hud' : 3 + sca.length + 1 + (0 : UInt8).toNat = 4 + sca.length := by
    change 3 + sca.length + 1 + 0 = _
    omega
  have hval : 4 + sca.length + 1 = 5 + sca.length := by omega
  simp only [imsRpDataToMbimPdu, htype, hmr, hoa, hda', hda, hud', hud, if_neg hplain, hcount, hval,
    htpdu, hlv, List.take_length]
  rw [if_neg (by omega), if_neg (by decide), if_neg (by omega), if_neg (by omega), if_neg (by omega),
    if_neg (by omega)]

/-- User data of 65 octets is shortened: its length is taken for the IEI and its first octet for
the length. -/
theorem imsRpDataToMbimPdu_relayed_iei {rpMr : UInt8} {sca tpdu : Bytes} (hsca : sca.length ≤ 255)
    (hiei : tpdu.length = 65) {outCap : Nat} {r : Bytes × UInt8}
    (h : imsRpDataToMbimPdu (relayedRpData rpMr sca tpdu) outCap = some r) :
    r.1.length < 1 + sca.length + tpdu.length := by
  generalize hrp : relayedRpData rpMr sca tpdu = rp at h
  obtain ⟨hlen, htype, hmr, hoa, hda, hud, htpdu, hlv⟩ := relayed_fields hsca hrp
  have hda' : 2 + (1 + sca.length) = 3 + sca.length := by omega
  have hud' : 3 + sca.length + 1 + (0 : UInt8).toNat = 4 + sca.length := by
    change 3 + sca.length + 1 + 0 = _
    omega
  have hiei' : UInt8.ofNat tpdu.length = 0x41 ∧ 4 + sca.length + 1 < rp.length := by
    rw [hiei]
    exact ⟨rfl, by omega⟩
  simp only [imsRpDataToMbimPdu, htype, hmr, hoa, hda', hda, hud', hud, if_pos hiei',
    Option.ite_none_left_eq_some] at h
  obtain ⟨-, -, -, -, hfits, -, hr⟩ := h
  rw [← Option.some.inj hr]
  simp only [List.length_append, List.length_take, List.length_drop]
  omega

/-! ## What is read and written -/

section Accesses

open Access

/-- The user data whose length is at `ud`, and the PDU written to the buffer. -/
def tracedPdu (rp : Bytes) (outCap : Nat) (rpMr : UInt8) (oaLv ud : Nat) :
    Access (Option (Bytes × UInt8)) := do
  let udLen ← read (octet rp) ud
  if udLen.toNat = 0 ∨ ud + 1 + udLen.toNat > rp.length then pure none
  else if oaLv + udLen.toNat > outCap then pure none
  else
    copy 2 0 oaLv
    copy (ud + 1) oaLv udLen.toNat
    pure (some ((rp.drop 2).take oaLv ++ (rp.drop (ud + 1)).take udLen.toNat, rpMr))

/-- `ims_rp_data_to_mbim_pdu` with the octets of the RPDU it reads and those of the buffer it
writes. -/
def tracedRpData (rp : Bytes) (outCap : Nat) : Access (Option (Bytes × UInt8)) :=
  if rp.length < 3 then pure none
  else do
    let mti ← read (octet rp) 0
    if mti &&& 0x07 ≠ 0x01 then pure none
    else
      let rpMr ← read (octet rp) 1
      let oaLen ← read (octet rp) 2
      let oaLv := 1 + oaLen.toNat
      let da := 2 + oaLv
      if da ≥ rp.length then pure none
      else
        let daLen ← read (octet rp) da
        let ud := da + 1 + daLen.toNat
        if ud ≥ rp.length then pure none
        else
          let iei ← read (octet rp) ud
          tracedPdu rp outCap rpMr oaLv (if iei = 0x41 ∧ ud + 1 < rp.length then ud + 1 else ud)

theorem result_tracedRpData (rp : Bytes) (outCap : Nat) :
    (tracedRpData rp outCap).result = imsRpDataToMbimPdu rp outCap := by
  simp only [tracedRpData, tracedPdu, imsRpDataToMbimPdu, result_ite, result_bind, result_pure]
  rfl

theorem within_tracedPdu {rp : Bytes} {oaLv ud : Nat} (hoa : 2 + oaLv ≤ rp.length)
    (hud : ud < rp.length) (outCap : Nat) (rpMr : UInt8) :
    Within rp.length outCap (tracedPdu rp outCap rpMr oaLv ud) := by
  unfold tracedPdu
  rw [within_bind, within_read]
  refine ⟨hud, ?_⟩
  split
  · exact within_pure _
  split
  · exact within_pure _
  simp only [within_bind, within_pure, and_true]
  exact ⟨within_copy hoa (by omega), within_copy (by omega) (by omega)⟩

theorem within_tracedRpData (rp : Bytes) (outCap : Nat) :
    Within rp.length outCap (tracedRpData rp outCap) := by
  unfold tracedRpData
  split
  · exact within_pure _
  rw [within_bind, within_read]
  refine ⟨by omega, ?_⟩
  split
  · exact within_pure _
  rw [within_bind, within_read, within_bind, within_read]
  refine ⟨by omega, by omega, ?_⟩
  dsimp only
  split
  · exact within_pure _
  rw [within_bind, within_read]
  refine ⟨by omega, ?_⟩
  split
  · exact within_pure _
  rw [within_bind, within_read]
  refine ⟨by omega, within_tracedPdu (by omega) ?_ outCap _⟩
  split
  · exact And.right (by assumption)
  · omega

end Accesses

/-- A PDU comes back when the network relays the RPDU built for it, into any buffer that holds
it, exactly if its user data is not of 65 octets.  No RPDU makes the parser leave its input or
its buffer. -/
theorem imsRpData_roundTrip_iff (pdu : Bytes) (rpMr : UInt8) (outCap : Nat) (rpdu : Bytes)
    (hbuilt : imsBuildRpData pdu rpMr outCap = some rpdu) :
    ((∃ relayed, relayRpData rpdu = some relayed ∧
        ∀ cap, pdu.length ≤ cap → imsRpDataToMbimPdu relayed cap = some (pdu, rpMr)) ∧
      ∀ rp cap, (tracedRpData rp cap).result = imsRpDataToMbimPdu rp cap ∧
        Access.Within rp.length cap (tracedRpData rp cap)) ↔
      pdu.length - (1 + (octet pdu 0).toNat) ≠ 65 := by
  rw [imsBuildRpData_eq, Option.ite_none_right_eq_some, Option.some.injEq] at hbuilt
  obtain ⟨⟨h, -⟩, rfl⟩ := hbuilt
  obtain ⟨hroom, hlong⟩ := id h
  have hsca := pduSca_length h
  have hscaMax := (octet pdu 0).toNat_lt
  have htpdu := pduTpdu_length pdu
  have hpdu := lengthValue_append_pduTpdu h
  have hrelay := relayRpData_rpData rpMr (by omega : (pduSca pdu).length ≤ 255)
    (by omega : (pduTpdu pdu).length ≤ 255)
  constructor
  · rintro ⟨⟨relayed, hrelayed, hall⟩, -⟩ h65
    obtain rfl := Option.some.inj (hrelay.symm.trans hrelayed)
    have hshort := imsRpDataToMbimPdu_relayed_iei (by omega) (by omega)
      (hall pdu.length (Nat.le_refl _))
    dsimp only at hshort
    omega
  · intro hne
    refine ⟨⟨_, hrelay, fun cap hcap => ?_⟩,
      fun rp cap => ⟨result_tracedRpData rp cap, within_tracedRpData rp cap⟩⟩
    have hparsed := imsRpDataToMbimPdu_relayed rpMr (pduSca pdu) (pduTpdu pdu) (by omega) (by omega)
      (by omega) (by omega) (Nat.le_trans (by omega : _ ≤ pdu.length) hcap)
    rwa [hpdu] at hparsed

/-- A PDU with an address of two octets and one octet behind it. -/
theorem imsRpData_roundTrip_iff_short :
    (∃ relayed, relayRpData [0, 7, 0, 2, 0x91, 0x33, 1, 0x01] = some relayed ∧
        ∀ cap, 4 ≤ cap → imsRpDataToMbimPdu relayed cap = some ([2, 0x91, 0x33, 0x01], 7)) ∧
      ∀ rp cap, (tracedRpData rp cap).result = imsRpDataToMbimPdu rp cap ∧
        Access.Within rp.length cap (tracedRpData rp cap) :=
  (imsRpData_roundTrip_iff [2, 0x91, 0x33, 0x01] 7 528 [0, 7, 0, 2, 0x91, 0x33, 1, 0x01]
    (by decide)).mpr (by decide)

/-- A PDU without an address and with 65 octets of user data, all zero.  Relayed as TS 24.011
prescribes, it is rejected: the first octet of the user data is taken for its length. -/
theorem imsRpData_userData65_lost :
    ¬ ∀ (pdu : Bytes) (rpMr : UInt8) (outCap : Nat) (rpdu relayed : Bytes),
      imsBuildRpData pdu rpMr outCap = some rpdu → relayRpData rpdu = some relayed →
      ∀ cap, pdu.length ≤ cap → imsRpDataToMbimPdu relayed cap = some (pdu, rpMr) := by
  intro h
  have hback := h (0 :: List.replicate 65 0) 7 528
    ([0, 7, 0, 0, 65] ++ List.replicate 65 0) ([1, 7, 0, 0, 65] ++ List.replicate 65 0)
    (by decide +kernel) (by decide +kernel) 528 (by decide)
  have hlost : imsRpDataToMbimPdu ([1, 7, 0, 0, 65] ++ List.replicate 65 0) 528 = none := by
    decide +kernel
  rw [hlost] at hback
  cases hback

end VirtualLte.Ims
