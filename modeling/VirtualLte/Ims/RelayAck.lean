import VirtualLte.Ims.Outgoing

/-!
# The RP-ACK of an SMS

`ims_send_rp_ack` formats the header of a MESSAGE into 768 octets and copies as many as
`snprintf` reports, which it compares with the 1024 octets of the message only.  Nothing is
read from behind the buffer all the same: the URI of the sender has at most 199 octets, and
an identity that is built from a configuration at most 77 (`identity_lengths_le`), so the
header is shorter than the buffer (`rpAckHeader_length_lt`).
-/

namespace VirtualLte.Ims

open Engine

/-! ## Identities of configurations -/

/-- The strings of a configuration fit `char imsi[32]`, `char mcc[8]` and `char mnc[8]`. -/
structure FitsFields (cfg : UeInstanceConfig) : Prop where
  imsi : cfg.sim.imsi.length ≤ 31
  mcc : cfg.network.mcc.length ≤ 7
  mnc : cfg.network.mnc.length ≤ 7

/-- `n` digits write a number below `10 ^ n`. -/
theorem foldl_digits_lt {digits : Bytes} (h : ∀ c ∈ digits, (0x30 ≤ c && c ≤ 0x39) = true) (acc : Nat) :
    digits.foldl (fun acc c => acc * 10 + (c - 0x30).toNat) acc < (acc + 1) * 10 ^ digits.length := by
  induction digits generalizing acc with
  | nil =>
    rw [List.foldl_nil, List.length_nil]
    omega
  | cons c rest ih =>
    have hdigit : (c - 0x30).toNat ≤ 9 := by
      have hc := h c List.mem_cons_self
      simp only [Bool.and_eq_true, decide_eq_true_eq] at hc
      have hlow : 0x30 ≤ c.toNat := hc.1
      have hhigh : c.toNat ≤ 0x39 := hc.2
      rw [UInt8.toNat_sub_of_le _ _ hc.1]
      change c.toNat - 0x30 ≤ 9
      omega
    have hrest := ih (fun d hd => h d (List.mem_cons_of_mem _ hd)) (acc * 10 + (c - 0x30).toNat)
    rw [List.foldl_cons, List.length_cons, Nat.pow_succ]
    refine Nat.lt_of_lt_of_le hrest ?_
    calc (acc * 10 + (c - 0x30).toNat + 1) * 10 ^ rest.length
        ≤ ((acc + 1) * 10) * 10 ^ rest.length := Nat.mul_le_mul_right _ (by omega)
      _ = (acc + 1) * (10 ^ rest.length * 10) := by rw [Nat.mul_assoc, Nat.mul_comm 10]

theorem decimalText_digits_le {digits : Bytes}
    (h : ∀ c ∈ digits, (0x30 ≤ c && c ≤ 0x39) = true) :
    (decimalText (digits.foldl (fun acc c => acc * 10 + (c - 0x30).toNat) 0)).length ≤
      max 1 digits.length := by
  have hlt := foldl_digits_lt h 0
  rw [Nat.zero_add, Nat.one_mul] at hlt
  refine decimalText_length_le (by omega) (Nat.lt_of_lt_of_le hlt ?_)
  exact Nat.pow_le_pow_right (by decide) (Nat.le_max_right 1 _)

/-- `%03d` of a text is no longer than the text, and at least three octets. -/
theorem threeDigits_length_le (s : Bytes) : (threeDigits s).length ≤ max 3 s.length := by
  have htrim : (s.dropWhile fun c => c = 0x20 || (0x09 ≤ c && c ≤ 0x0D)).length ≤ s.length :=
    (List.dropWhile_sublist _).length_le
  unfold threeDigits
  dsimp only
  generalize s.dropWhile _ = t at htrim
  have hdigits : ∀ u : Bytes, (decimalText ((u.takeWhile fun c => 0x30 ≤ c && c ≤ 0x39).foldl
      (fun acc c => acc * 10 + (c - 0x30).toNat) 0)).length ≤ max 1 u.length := by
    intro u
    have htake : (u.takeWhile fun c => 0x30 ≤ c && c ≤ 0x39).length ≤ u.length :=
      (List.takeWhile_sublist _).length_le
    have hmem : ∀ c ∈ u.takeWhile fun c => 0x30 ≤ c && c ≤ 0x39, (0x30 ≤ c && c ≤ 0x39) = true :=
      fun c hc => List.mem_takeWhile_imp (p := fun d : UInt8 => 0x30 ≤ d && d ≤ 0x39) hc
    have hle := decimalText_digits_le hmem
    omega
  have hunsigned := hdigits (if octet t 0 = 0x2D ∨ octet t 0 = 0x2B then t.drop 1 else t)
  have hle : (if octet t 0 = 0x2D ∨ octet t 0 = 0x2B then t.drop 1 else t).length ≤ t.length ∧
      (octet t 0 = 0x2D → (if octet t 0 = 0x2D ∨ octet t 0 = 0x2B then t.drop 1 else t).length + 1 ≤
        t.length) := by
    cases t with
    | nil => exact ⟨by decide, fun h => absurd h (by decide)⟩
    | cons x rest =>
      refine ⟨?_, fun hneg => ?_⟩
      · split
        · exact Nat.le_succ _
        · exact Nat.le_refl _
      · rw [if_pos (Or.inl hneg)]
        exact Nat.le_refl _
  generalize (if octet t 0 = 0x2D ∨ octet t 0 = 0x2B then t.drop 1 else t) = u at hunsigned hle
  split
  · rename_i hneg
    have hneg' := hle.2 hneg.1
    simp only [List.length_cons, List.length_append, List.length_replicate]
    omega
  · simp only [List.length_append, List.length_replicate]
    omega

/-- The names of a subscriber whose configuration fits its fields. -/
theorem identity_lengths_le {cfg : UeInstanceConfig} (h : FitsFields cfg) :
    (imsBuildIdentity cfg).realm.length ≤ 41 ∧ (imsBuildIdentity cfg).impi.length ≤ 73 ∧
      (imsBuildIdentity cfg).impuUser.length ≤ 31 ∧ (imsBuildIdentity cfg).preferredImpu.length ≤ 77 := by
  have himsi := h.imsi
  have hmcc := threeDigits_length_le cfg.network.mcc
  have hmnc := threeDigits_length_le cfg.network.mnc
  have hmccField := h.mcc
  have hmncField := h.mnc
  have hims : (asciiText "ims.mnc").length = 7 := by decide
  have hdotMcc : (asciiText ".mcc").length = 4 := by decide
  have horg : (asciiText ".3gppnetwork.org").length = 16 := by decide
  have hsip : (asciiText "sip:").length = 4 := by decide
  have hat : (asciiText "@").length = 1 := by decide
  simp only [imsBuildIdentity, snprintf, List.length_take, List.length_append, hims, hdotMcc, horg,
    hsip, hat]
  omega

/-! ## The header and what is sent -/

theorem imsExtractAngleUri_length_le (line : Bytes) (cap : Nat) :
    (imsExtractAngleUri line cap).length ≤ cap - 1 := by
  unfold imsExtractAngleUri
  split
  · exact Nat.zero_le _
  split
  · exact Nat.zero_le _
  split
  · rw [List.length_take]
    exact Nat.min_le_left _ _
  · exact Nat.zero_le _

/-- The header of the MESSAGE that acknowledges to `uri`. -/
def rpAckHeader (svc : ImsService) (uri : Bytes) : Bytes :=
  messageText svc.identity svc.ipv4 uri (asciiText "rpack") svc.nextSipCseq svc.nextSipCseq 6

theorem rpAckHeader_length_lt {cfg : UeInstanceConfig} (hcfg : FitsFields cfg) {svc : ImsService}
    (hidentity : svc.identity = imsBuildIdentity cfg) (line : Bytes) :
    (rpAckHeader svc (imsExtractAngleUri line 200)).length < 768 := by
  obtain ⟨-, -, -, himpu⟩ := identity_lengths_le hcfg
  have huri := imsExtractAngleUri_length_le line 200
  have hle := messageText_length_le svc.identity svc.ipv4 (imsExtractAngleUri line 200)
    (asciiText "rpack") svc.nextSipCseq svc.nextSipCseq (by decide : 6 < 1000)
  have hkind : (asciiText "rpack").length = 5 := by decide
  rw [hidentity] at hle
  rw [rpAckHeader, hidentity]
  omega

/-- A header that fits its buffer is read back as it is. -/
theorem imsSendRpAck_of_lt (env : ImsEnv) (svc : ImsService) (hdr rpdu : Bytes) (rpMr : UInt8)
    (hfits : ∀ line, (rpAckHeader svc (imsExtractAngleUri line 200)).length < 768) :
    let uri := imsExtractAngleUri ((headerCopyLine hdr (asciiText "From:") 256).getD []) 200
    imsSendRpAck env svc hdr rpdu rpMr =
      if uri.length = 0 ∨ txReadyLocked svc = false then (svc, [])
      else ({ svc with nextSipCseq := svc.nextSipCseq + 1 },
        (imsTransmit env (.rpAck rpdu) (sipPacket 1280 svc.ipv4 svc.pcscfIpv4
          (rpAckHeader svc uri ++ rpAckBody rpMr))).2) := by
  unfold imsSendRpAck
  cases headerCopyLine hdr (asciiText "From:") 256 with
  | none => rfl
  | some line =>
    have hlt := hfits line
    rw [rpAckHeader] at hlt
    dsimp only [Option.getD_some, rpAckHeader]
    rw [if_neg (show ¬ _ > 1024 by omega), readBack, if_pos hlt]

/-- To a MESSAGE that names its sender, a service that can send answers with one packet: the whole
header and the six octets of the RP-ACK, whatever the configuration, the address and the memory
behind the buffer.  To any other it sends nothing. -/
theorem imsSendRpAck_exact (cfg : UeInstanceConfig) (hcfg : FitsFields cfg) (env : ImsEnv)
    (svc : ImsService) (hidentity : svc.identity = imsBuildIdentity cfg) (hdr rpdu : Bytes)
    (rpMr : UInt8) :
    let uri := imsExtractAngleUri ((headerCopyLine hdr (asciiText "From:") 256).getD []) 200
    let text := messageText svc.identity svc.ipv4 uri (asciiText "rpack") svc.nextSipCseq
      svc.nextSipCseq 6
    (if uri.length = 0 ∨ txReadyLocked svc = false then (imsSendRpAck env svc hdr rpdu rpMr).2 = []
      else ∃ packet, sipPacket 1280 svc.ipv4 svc.pcscfIpv4
          (text ++ [0x02, rpMr, 0x41, 0x02, 0x00, 0x00]) = some packet ∧
        (imsSendRpAck env svc hdr rpdu rpMr).2 =
          [.tx (.rpAck rpdu) packet (env.txAnswer (.rpAck rpdu))]) ∧
    text.length < 768 ∧
    ∀ outside, imsSendRpAck { env with outside } svc hdr rpdu rpMr =
      imsSendRpAck env svc hdr rpdu rpMr := by
  have hfits := rpAckHeader_length_lt hcfg hidentity
  have heq := fun env => imsSendRpAck_of_lt env svc hdr rpdu rpMr hfits
  dsimp only at heq ⊢
  refine ⟨?_, hfits _, fun outside => ?_⟩
  · rw [heq env]
    split
    · rfl
    · have hlt := hfits ((headerCopyLine hdr (asciiText "From:") 256).getD [])
      obtain ⟨packet, hpacket⟩ : ∃ packet, sipPacket 1280 svc.ipv4 svc.pcscfIpv4
          (rpAckHeader svc (imsExtractAngleUri
            ((headerCopyLine hdr (asciiText "From:") 256).getD []) 200) ++ rpAckBody rpMr) =
          some packet := by
        unfold sipPacket imsIpBuildUdpIpv4
        dsimp only
        rw [if_neg (by rw [List.length_append]; change ¬ (_ + 6 > _ ∨ 1280 < 20 + (8 + (_ + 6))); omega)]
        exact ⟨_, rfl⟩
      refine ⟨packet, hpacket, ?_⟩
      rw [hpacket]
      rfl
  · rw [heq, heq]
    rfl

/-- A service that can send. -/
def readyService : ImsService :=
  { imsServiceInit sampleConfig true true with pduActive := true, hasPcscf := true, txCb := true }

/-- The sample subscriber acknowledges message 7 to an SMS centre that gave its URI. -/
theorem imsSendRpAck_exact_sample :
    FitsFields sampleConfig ∧
      ∃ packet, sipPacket 1280 readyService.ipv4 readyService.pcscfIpv4
          (messageText readyService.identity readyService.ipv4 (asciiText "sip:smsc")
            (asciiText "rpack") 2 2 6 ++ [0x02, 7, 0x41, 0x02, 0x00, 0x00]) = some packet ∧
        (imsSendRpAck {} readyService (asciiText "From: <sip:smsc>") [] 7).2 =
          [.tx (.rpAck []) packet 0] := by
  have hfits : FitsFields sampleConfig := ⟨by decide, by decide, by decide⟩
  have huri : imsExtractAngleUri ((headerCopyLine (asciiText "From: <sip:smsc>") (asciiText "From:")
      256).getD []) 200 = asciiText "sip:smsc" := by decide +kernel
  have hexact := (imsSendRpAck_exact sampleConfig hfits {} readyService rfl
    (asciiText "From: <sip:smsc>") [] 7).1
  dsimp only at hexact
  rw [huri, if_neg (by decide)] at hexact
  exact ⟨hfits, hexact⟩

end VirtualLte.Ims
