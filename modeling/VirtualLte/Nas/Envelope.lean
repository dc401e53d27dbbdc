import VirtualLte.Nas.AnnexD

/-!
# The security envelope

What both ends of a protected NAS message agree on, stated apart from the source with the
algorithms of Annex D: types 1 to 4 carry a MAC over sequence number and payload, and the
payload is ciphered for types 2 and 4 only.

* `peerEnvelope` builds an envelope and `peerOpen` opens one, under a COUNT both ends
  know.  SNOW 3G, which the source leaves out, is a parameter of both.
* `peerOpen_peerEnvelope`: a peer opens what a peer builds, and so what the UE protects.
* `unprotect_envelope_iff`: the UE opens what a peer builds exactly when the message is
  `Readable`.  `ue_nas_security_unprotect` deciphers whatever the header type, so that a
  clear payload is read only if deciphering does not change it.
-/

namespace VirtualLte.Nas

open Crypto

/-! ## The octets -/

/-- A message with a security header. -/
def protectedPdu (sht : UInt8) (mac : UInt32) (sqn : UInt8) (payload : Bytes) : Bytes :=
  nasEpd5gmm :: sht :: (putBe32 mac ++ sqn :: payload)

section Fields

variable (sht : UInt8) (mac : UInt32) (sqn : UInt8) (payload : Bytes)

theorem secHeaderOf_protectedPdu :
    secHeaderOf (protectedPdu sht mac sqn payload) = ⟨nasEpd5gmm, sht, mac, sqn⟩ :=
  congrArg (fun m => (⟨nasEpd5gmm, sht, m, sqn⟩ : UeNasSecHeaderInfo)) (getBe32_putBe32 mac)

theorem octet_zero_protectedPdu : octet (protectedPdu sht mac sqn payload) 0 = nasEpd5gmm := rfl

theorem octet_one_protectedPdu : octet (protectedPdu sht mac sqn payload) 1 = sht := rfl

theorem octet_six_protectedPdu : octet (protectedPdu sht mac sqn payload) 6 = sqn := rfl

theorem protectedPdu_drop_six : (protectedPdu sht mac sqn payload).drop 6 = sqn :: payload := rfl

theorem protectedPdu_drop_seven : (protectedPdu sht mac sqn payload).drop 7 = payload := rfl

theorem protectedPdu_length : (protectedPdu sht mac sqn payload).length = 7 + payload.length := by
  simp only [protectedPdu, putBe32, List.length_cons, List.length_append, List.length_nil]
  omega

end Fields

/-! ## The peer -/

/-- 128-NIA1 and 128-NEA1, as functions of COUNT, bearer, direction, key and data. -/
structure Snow3g where
  nia1 : UInt32 → UInt8 → UInt8 → Block → Bytes → UInt32
  nea1 : UInt32 → UInt8 → UInt8 → Block → Bytes → Bytes

/-- The MAC that the standard prescribes. -/
def peerMac (snow : Snow3g) (alg : UeNasIntegrityAlg) (count : UInt32) (bearer direction : UInt8)
    (key : Block) (msg : Bytes) : UInt32 :=
  match alg with
  | .nia0 => 0
  | .nia1 => snow.nia1 count bearer direction key msg
  | .nia2 => AnnexD.nia2 key count bearer direction msg

/-- The ciphering that the standard prescribes. -/
def peerCipher (snow : Snow3g) (alg : UeNasCipheringAlg) (count : UInt32)
    (bearer direction : UInt8) (key : Block) (data : Bytes) : Bytes :=
  match alg with
  | .nea0 => data
  | .nea1 => snow.nea1 count bearer direction key data
  | .nea2 => AnnexD.nea2 key count bearer direction data

/-- The header types whose payload is ciphered. -/
def isCipheredSht (sht : UInt8) : Bool :=
  sht = nasShtIntegrityProtectedCiphered || sht = nasShtIntegrityProtectedCipheredNewCtx

/-- The payload, ciphered or in the clear. -/
def peerPayload (snow : Snow3g) (ctx : UeNasSecurityCtx) (direction : UInt8) (c : UeNasCount)
    (sht : UInt8) (plain : Bytes) : Bytes :=
  if isCipheredSht sht then
    peerCipher snow ctx.encAlg (ueNasCountValue c) ctx.bearer direction ctx.keys.knasEnc plain
  else plain

/-- The envelope of `plain` under COUNT `c`. -/
def peerEnvelope (snow : Snow3g) (ctx : UeNasSecurityCtx) (direction : UInt8) (c : UeNasCount)
    (sht : UInt8) (plain : Bytes) : Bytes :=
  let payload := peerPayload snow ctx direction c sht plain
  let mac := peerMac snow ctx.intAlg (ueNasCountValue c) ctx.bearer direction ctx.keys.knasInt
    (c.sqn :: payload)
  protectedPdu sht mac c.sqn payload

/-- Open an envelope under COUNT `c`: the header, the MAC, and then the payload. -/
def peerOpen (snow : Snow3g) (ctx : UeNasSecurityCtx) (direction : UInt8) (c : UeNasCount)
    (data : Bytes) : Option Bytes :=
  if data.length < 7 ∨ octet data 0 ≠ nasEpd5gmm ∨ isProtectedSht (octet data 1) = false ∨
      octet data 6 ≠ c.sqn then none
  else if (secHeaderOf data).mac ≠ peerMac snow ctx.intAlg (ueNasCountValue c) ctx.bearer direction
      ctx.keys.knasInt (data.drop 6) then none
  else some (peerPayload snow ctx direction c (octet data 1) (data.drop 7))

/-! ## The two algorithms compared -/

/-- The UE's MAC is the peer's under NIA0, and under NIA2 up to the size it covers. -/
theorem ueNasComputeMac_eq_peerMac (snow : Snow3g) {alg : UeNasIntegrityAlg} (halg : alg ≠ .nia1)
    (count : UInt32) (bearer direction : UInt8) (key : Block) {msg : Bytes}
    (hlen : msg.length ≤ 8192) :
    ueNasComputeMac alg count bearer direction key msg =
      peerMac snow alg count bearer direction key msg := by
  cases alg with
  | nia0 => rfl
  | nia1 => exact absurd rfl halg
  | nia2 => exact (if_neg (Nat.not_lt.mpr hlen)).trans (macWord_ueAesCmac _ _ _ _ _)

/-- And its ciphering, up to the 2³² blocks that its counter tells apart. -/
theorem ueNasCipher_eq_peerCipher (snow : Snow3g) {alg : UeNasCipheringAlg} (halg : alg ≠ .nea1)
    (count : UInt32) (bearer direction : UInt8) (key : Block) {data : Bytes}
    (hlen : data.length ≤ 2 ^ 36) :
    ueNasCipher alg count bearer direction key data =
      peerCipher snow alg count bearer direction key data := by
  cases alg with
  | nea0 => rfl
  | nea1 => exact absurd rfl halg
  | nea2 => exact aes128Ctr_eq_nea2 _ _ _ _ hlen

/-! ## Uplink -/

/-- The UE protects as the peer would. -/
theorem ueNasSecurityProtectWithSht_eq_peerEnvelope (snow : Snow3g) {bufLen : Nat}
    {ctx ctx' : UeNasSecurityCtx} {plain pdu : Bytes} {sht : UInt8}
    (hint : ctx.intAlg ≠ .nia1) (henc : ctx.encAlg ≠ .nea1) (hlen : plain.length < 8192)
    (h : ueNasSecurityProtectWithSht bufLen ctx plain sht = some (pdu, ctx')) :
    pdu = peerEnvelope snow ctx dirUplink ctx.ulCount sht plain := by
  have hpayload : (if sht = nasShtIntegrityProtectedCiphered ∨
      sht = nasShtIntegrityProtectedCipheredNewCtx then
        ueNasCipher ctx.encAlg (ueNasCountValue ctx.ulCount) ctx.bearer dirUplink ctx.keys.knasEnc
          plain
      else plain) = peerPayload snow ctx dirUplink ctx.ulCount sht plain := by
    have hcount : plain.length ≤ 2 ^ 36 := Nat.le_trans (Nat.le_of_lt hlen) (by decide)
    simp only [peerPayload, isCipheredSht, Bool.or_eq_true, decide_eq_true_eq,
      ueNasCipher_eq_peerCipher snow henc _ _ _ _ hcount]
  have hsize : (peerPayload snow ctx dirUplink ctx.ulCount sht plain).length = plain.length := by
    rw [← hpayload]
    split
    · exact ueNasCipher_length _ _ _ _ _ _
    · rfl
  unfold ueNasSecurityProtectWithSht at h
  split at h
  · cases h
  split at h
  · cases h
  split at h
  · cases h
  dsimp only at h
  rw [hpayload, ueNasComputeMac_eq_peerMac snow hint] at h
  · cases h
    rfl
  · rw [List.length_cons, hsize]
    omega

theorem peerCipher_peerCipher (snow : Snow3g) {alg : UeNasCipheringAlg} (halg : alg ≠ .nea1)
    (count : UInt32) (bearer direction : UInt8) (key : Block) (data : Bytes) :
    peerCipher snow alg count bearer direction key
      (peerCipher snow alg count bearer direction key data) = data := by
  cases alg with
  | nea0 => rfl
  | nea1 => exact absurd rfl halg
  | nea2 => exact nea2_nea2 key count bearer direction data

/-- Opening undoes building, where deciphering undoes ciphering. -/
theorem peerOpen_peerEnvelope (snow : Snow3g) {ctx : UeNasSecurityCtx} (henc : ctx.encAlg ≠ .nea1)
    (direction : UInt8) (c : UeNasCount) {sht : UInt8} (hsht : isProtectedSht sht = true)
    (plain : Bytes) :
    peerOpen snow ctx direction c (peerEnvelope snow ctx direction c sht plain) = some plain := by
  have hopen : peerPayload snow ctx direction c sht (peerPayload snow ctx direction c sht plain) =
      plain := by
    unfold peerPayload
    split
    · exact peerCipher_peerCipher snow henc _ _ _ _ _
    · rfl
  simp only [peerOpen, peerEnvelope, protectedPdu_length, octet_zero_protectedPdu, octet_one_protectedPdu,
    secHeaderOf_protectedPdu, octet_six_protectedPdu, protectedPdu_drop_six, protectedPdu_drop_seven, hsht, hopen]
  simp

/-! ## Downlink -/

/-- The estimate finds every COUNT from the stored one up to 255 above it, past the wrap
of the sequence number and of the overflow. -/
theorem dlCountEstimate_eq {dl c : UeNasCount} {k : Nat} (hk : k ≤ 255)
    (hc : c.toNat = (dl.toNat + k) % 2 ^ 24) : dlCountEstimate dl c.sqn = c := by
  obtain ⟨o, s⟩ := dl
  obtain ⟨co, cs⟩ := c
  have ho := o.toNat_lt
  have hs := s.toNat_lt
  have hco := co.toNat_lt
  have hcs := cs.toNat_lt
  simp only [UeNasCount.toNat] at hc
  have ho1 : (o + 1).toNat = (o.toNat + 1) % 65536 := by simp [UInt16.toNat_add]
  have hover : (if cs < s then o + 1 else o) = co := by
    apply UInt16.toNat_inj.mp
    split
    · rename_i hlt
      have hlt' := UInt8.lt_iff_toNat_lt.mp hlt
      omega
    · rename_i hge
      have hge' : ¬ cs.toNat < s.toNat := fun h => hge (UInt8.lt_iff_toNat_lt.mpr h)
      omega
  simp only [dlCountEstimate, hover]

/-- What `ue_nas_security_unprotect` leaves behind: its answer, the message buffer, which it
deciphers in place, and the context. -/
structure Unprotected where
  plain : Option Bytes
  data : Bytes
  ctx : UeNasSecurityCtx

def ueNasSecurityUnprotectInPlace (ctx : UeNasSecurityCtx) (data : Bytes) : Unprotected :=
  if ctx.active = false then ⟨none, data, ctx⟩
  else if data.length < 7 then ⟨none, data, ctx⟩
  else if octet data 0 ≠ nasEpd5gmm then ⟨none, data, ctx⟩
  else if octet data 1 = nasShtNotProtected then ⟨some data, data, ctx⟩
  else
    let est := unprotectCount ctx data
    if macAccepted ctx est data = false then ⟨none, data, ctx⟩
    else
      let plain := ueNasCipher ctx.encAlg (ueNasCountValue est) ctx.bearer dirDownlink
        ctx.keys.knasEnc (data.drop 7)
      ⟨some plain, data.take 7 ++ plain, { ctx with dlCount := est }⟩

/-- The function the engine's model uses forgets the buffer, and the context of a failure. -/
theorem ueNasSecurityUnprotect_eq_inPlace (ctx : UeNasSecurityCtx) (data : Bytes) :
    ueNasSecurityUnprotect ctx data =
      (ueNasSecurityUnprotectInPlace ctx data).plain.map fun plain =>
        (plain, (ueNasSecurityUnprotectInPlace ctx data).ctx) := by
  unfold ueNasSecurityUnprotect ueNasSecurityUnprotectInPlace
  split
  · rfl
  split
  · rfl
  split
  · rfl
  split
  · rfl
  dsimp only
  split
  · rfl
  · rfl

/-- A failure leaves buffer and context alone. -/
theorem ueNasSecurityUnprotectInPlace_none {ctx : UeNasSecurityCtx} {data : Bytes}
    (h : (ueNasSecurityUnprotectInPlace ctx data).plain = none) :
    (ueNasSecurityUnprotectInPlace ctx data).data = data ∧
      (ueNasSecurityUnprotectInPlace ctx data).ctx = ctx := by
  unfold ueNasSecurityUnprotectInPlace at h ⊢
  split
  · exact ⟨rfl, rfl⟩
  split
  · exact ⟨rfl, rfl⟩
  split
  · exact ⟨rfl, rfl⟩
  split
  · exact ⟨rfl, rfl⟩
  rename_i hact hlen hepd hsht
  rw [if_neg hact, if_neg hlen, if_neg hepd, if_neg hsht] at h
  dsimp only at h ⊢
  split
  · exact ⟨rfl, rfl⟩
  · rename_i hmac
    rw [if_neg hmac] at h
    cases h

/-- The message is taken for `plain`, and `c` is stored. -/
def OpensAs (ctx : UeNasSecurityCtx) (data plain : Bytes) (c : UeNasCount) : Prop :=
  (ueNasSecurityUnprotectInPlace ctx data).plain = some plain ∧
    (ueNasSecurityUnprotectInPlace ctx data).ctx = { ctx with dlCount := c }

/-- The UE computes the peer's MAC, or zero and the peer's happens to be zero. -/
def MacReadable (snow : Snow3g) (ctx : UeNasSecurityCtx) (c : UeNasCount) (msg : Bytes) : Prop :=
  ctx.intAlg = .nia0 ∨ ctx.intAlg = .nia2 ∧ msg.length ≤ 8192 ∨
    peerMac snow ctx.intAlg (ueNasCountValue c) ctx.bearer dirDownlink ctx.keys.knasInt msg = 0

/-- A ciphered payload: the UE has the algorithm and counts as far, or ciphers to the same octets.
A clear one: deciphering it changes nothing. -/
def PayloadReadable (snow : Snow3g) (ctx : UeNasSecurityCtx) (c : UeNasCount) (sht : UInt8)
    (plain : Bytes) : Prop :=
  if isCipheredSht sht then
    ctx.encAlg ≠ .nea1 ∧ plain.length ≤ 2 ^ 36 ∨
      peerCipher snow ctx.encAlg (ueNasCountValue c) ctx.bearer dirDownlink ctx.keys.knasEnc plain =
        ueNasCipher ctx.encAlg (ueNasCountValue c) ctx.bearer dirDownlink ctx.keys.knasEnc plain
  else
    ctx.encAlg ≠ .nea2 ∨
      aes128Ctr ctx.keys.knasEnc
        (vecOf 16 (nasCountInput (ueNasCountValue c) ctx.bearer dirDownlink)) plain = plain

def Readable (snow : Snow3g) (ctx : UeNasSecurityCtx) (c : UeNasCount) (sht : UInt8)
    (plain : Bytes) : Prop :=
  MacReadable snow ctx c (c.sqn :: peerPayload snow ctx dirDownlink c sht plain) ∧
    PayloadReadable snow ctx c sht plain

theorem macReadable_iff (snow : Snow3g) (ctx : UeNasSecurityCtx) (c : UeNasCount) (msg : Bytes) :
    MacReadable snow ctx c msg ↔ ctx.intAlg = .nia0 ∨
      peerMac snow ctx.intAlg (ueNasCountValue c) ctx.bearer dirDownlink ctx.keys.knasInt msg =
        ueNasComputeMac ctx.intAlg (ueNasCountValue c) ctx.bearer dirDownlink ctx.keys.knasInt
          msg := by
  unfold MacReadable
  cases ctx.intAlg with
  | nia0 => simp
  | nia1 => simp [ueNasComputeMac]
  | nia2 =>
    by_cases hlen : msg.length ≤ 8192
    · have halg : UeNasIntegrityAlg.nia2 ≠ .nia1 := nofun
      have hsame := ueNasComputeMac_eq_peerMac snow halg (ueNasCountValue c) ctx.bearer dirDownlink
        ctx.keys.knasInt hlen
      simp [hlen, hsame]
    · have hzero : ueNasComputeMac .nia2 (ueNasCountValue c) ctx.bearer dirDownlink
          ctx.keys.knasInt msg = 0 := if_pos (Nat.not_le.mp hlen)
      simp [hlen, hzero]

/-- What the UE makes of a payload: it deciphers it, ciphered or not. -/
theorem payloadReadable_iff (snow : Snow3g) (ctx : UeNasSecurityCtx) (c : UeNasCount) (sht : UInt8)
    (plain : Bytes) :
    PayloadReadable snow ctx c sht plain ↔
      ueNasCipher ctx.encAlg (ueNasCountValue c) ctx.bearer dirDownlink ctx.keys.knasEnc
        (peerPayload snow ctx dirDownlink c sht plain) = plain := by
  unfold PayloadReadable peerPayload
  cases isCipheredSht sht with
  | true =>
    simp only [if_true]
    refine ⟨fun h => ?_, fun h => .inr ?_⟩
    · have hsame : peerCipher snow ctx.encAlg (ueNasCountValue c) ctx.bearer dirDownlink
          ctx.keys.knasEnc plain = ueNasCipher ctx.encAlg (ueNasCountValue c) ctx.bearer
          dirDownlink ctx.keys.knasEnc plain :=
        h.elim (fun h => (ueNasCipher_eq_peerCipher snow h.1 _ _ _ _ h.2).symm) id
      rw [hsame, ueNasCipher_ueNasCipher]
    · rw [← h, ueNasCipher_ueNasCipher, h]
  | false =>
    simp only [Bool.false_eq_true, if_false]
    cases ctx.encAlg with
    | nea0 => simp [ueNasCipher]
    | nea1 => simp [ueNasCipher]
    | nea2 => simp [ueNasCipher]

/-- An envelope at a COUNT the estimate finds is opened under the peer's MAC, and its
payload deciphered. -/
theorem opensAs_envelope_iff {ctx : UeNasSecurityCtx} (hact : ctx.active = true) {c : UeNasCount}
    (hest : dlCountEstimate ctx.dlCount c.sqn = c) {sht : UInt8} (hsht : isProtectedSht sht = true)
    (mac : UInt32) (payload plain : Bytes) :
    OpensAs ctx (protectedPdu sht mac c.sqn payload) plain c ↔
      (ctx.intAlg = .nia0 ∨ mac = ueNasComputeMac ctx.intAlg (ueNasCountValue c) ctx.bearer
        dirDownlink ctx.keys.knasInt (c.sqn :: payload)) ∧
      ueNasCipher ctx.encAlg (ueNasCountValue c) ctx.bearer dirDownlink ctx.keys.knasEnc payload =
        plain := by
  have hne : sht ≠ nasShtNotProtected := by
    rintro rfl
    cases hsht
  have hlen : ¬ (7 + payload.length < 7) := by omega
  have haccept : macAccepted ctx c (protectedPdu sht mac c.sqn payload) = true ↔
      (ctx.intAlg = .nia0 ∨ mac = ueNasComputeMac ctx.intAlg (ueNasCountValue c) ctx.bearer
        dirDownlink ctx.keys.knasInt (c.sqn :: payload)) := by
    simp only [macAccepted, secHeaderOf_protectedPdu, protectedPdu_drop_six, Bool.or_eq_true,
      decide_eq_true_eq]
  rw [← haccept]
  unfold OpensAs ueNasSecurityUnprotectInPlace
  simp only [unprotectCount, protectedPdu_length, octet_zero_protectedPdu, octet_one_protectedPdu,
    octet_six_protectedPdu, protectedPdu_drop_seven, hact, hest, hne, hlen, ne_eq, not_true_eq_false,
    Bool.true_eq_false, if_false]
  cases macAccepted ctx c (protectedPdu sht mac c.sqn payload) with
  | true => simp
  | false => simp

/-- For every stored COUNT and every COUNT up to 255 above it, the UE opens what a peer
builds if and only if the message is readable; and a failure changes nothing. -/
theorem unprotect_envelope_iff (snow : Snow3g) {ctx : UeNasSecurityCtx} (hact : ctx.active = true)
    {c : UeNasCount} {k : Nat} (hk : k ≤ 255) (hc : c.toNat = (ctx.dlCount.toNat + k) % 2 ^ 24)
    {sht : UInt8} (hsht : isProtectedSht sht = true) (plain : Bytes) :
    (OpensAs ctx (peerEnvelope snow ctx dirDownlink c sht plain) plain c ↔
        Readable snow ctx c sht plain) ∧
      ∀ data, (ueNasSecurityUnprotectInPlace ctx data).plain = none →
        (ueNasSecurityUnprotectInPlace ctx data).data = data ∧
          (ueNasSecurityUnprotectInPlace ctx data).ctx = ctx := by
  have hest := dlCountEstimate_eq hk hc
  refine ⟨?_, fun data => ueNasSecurityUnprotectInPlace_none⟩
  unfold peerEnvelope Readable
  rw [opensAs_envelope_iff hact hest hsht, macReadable_iff, payloadReadable_iff]

/-- A context with both AES algorithms, and a downlink COUNT about to wrap. -/
def aesCtx : UeNasSecurityCtx :=
  { UeNasSecurityCtx.zero with active := true, intAlg := .nia2, encAlg := .nea2, dlCount := ⟨0, 255⟩ }

/-- No message below uses SNOW 3G. -/
def noSnow3g : Snow3g := ⟨fun _ _ _ _ _ => 0, fun _ _ _ _ data => data⟩

/-- A Configuration Update Command. -/
def configUpdate : Bytes := [0x7E, 0x00, 0x54]

theorem unprotect_envelope_ciphered :
    OpensAs aesCtx (peerEnvelope noSnow3g aesCtx dirDownlink ⟨1, 0⟩ nasShtIntegrityProtectedCiphered
      configUpdate) configUpdate ⟨1, 0⟩ := by
  have hreadable : Readable noSnow3g aesCtx ⟨1, 0⟩ nasShtIntegrityProtectedCiphered configUpdate := by
    refine ⟨.inr (.inl ⟨rfl, ?_⟩), .inl ⟨nofun, by decide⟩⟩
    have hlen : (peerPayload noSnow3g aesCtx dirDownlink ⟨1, 0⟩ nasShtIntegrityProtectedCiphered
        configUpdate).length = 3 := List.length_mapIdx
    rw [List.length_cons, hlen]
    decide
  exact (unprotect_envelope_iff noSnow3g rfl (by decide : 1 ≤ 255) (by decide) rfl configUpdate).1.mpr
    hreadable

/-- The keystream is not zero where the message is. -/
theorem configUpdate_ciphered :
    aes128Ctr aesCtx.keys.knasEnc (vecOf 16 (nasCountInput (ueNasCountValue ⟨1, 0⟩) 0 dirDownlink))
      configUpdate ≠ configUpdate := by
  decide +kernel

/-- The same message with integrity protection alone is not read. -/
theorem unprotect_envelope_clear :
    ¬ OpensAs aesCtx (peerEnvelope noSnow3g aesCtx dirDownlink ⟨1, 0⟩ nasShtIntegrityProtected
      configUpdate) configUpdate ⟨1, 0⟩ := by
  have hest : dlCountEstimate aesCtx.dlCount 0 = ⟨1, 0⟩ := by decide
  intro h
  exact configUpdate_ciphered ((opensAs_envelope_iff rfl hest rfl _ _ _).mp h).2

end VirtualLte.Nas
