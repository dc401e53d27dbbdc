import VirtualLte.Crypto.Milenage

/-!
# NAS security

The security context and the protect and unprotect functions of
`ue_nas_security.c`.

* **COUNT** is a 16-bit overflow with an 8-bit sequence number.  Only the
  sequence number travels; the receiver estimates the overflow.
* **Protect** writes `EPD | SHT | MAC | SQN | payload` and moves the uplink
  COUNT on.
* **Unprotect** estimates the downlink COUNT, checks the MAC and stores the
  estimate.  It does not move past it.
-/

namespace VirtualLte.Nas

open Crypto

/-! ## Header octets -/

def nasEpd5gmm : UInt8 := 0x7E
def nasEpd5gsm : UInt8 := 0x2E
def nasShtNotProtected : UInt8 := 0x00
def nasShtIntegrityProtected : UInt8 := 0x01
def nasShtIntegrityProtectedCiphered : UInt8 := 0x02
def nasShtIntegrityProtectedNewCtx : UInt8 := 0x03
def nasShtIntegrityProtectedCipheredNewCtx : UInt8 := 0x04

/-! ## COUNT -/

structure UeNasCount where
  overflow : UInt16
  sqn : UInt8
  deriving DecidableEq, Repr

def UeNasCount.zero : UeNasCount := ⟨0, 0⟩

def ueNasCountValue (c : UeNasCount) : UInt32 :=
  (c.overflow.toUInt32 <<< 8) ||| c.sqn.toUInt32

def ueNasCountIncrement (c : UeNasCount) : UeNasCount :=
  let sqn := c.sqn + 1
  { sqn, overflow := if sqn = 0 then c.overflow + 1 else c.overflow }

/-- The COUNT as a natural number below `2^24`. -/
def UeNasCount.toNat (c : UeNasCount) : Nat := c.overflow.toNat * 256 + c.sqn.toNat

theorem UeNasCount.zero_toNat_le (n : Nat) : UeNasCount.zero.toNat ≤ n := by
  have hzero : UeNasCount.zero.toNat = 0 := by decide
  rw [hzero]
  exact Nat.zero_le n

/-- Counting is modulo `2^24`. -/
theorem ueNasCountIncrement_toNat_mod (c : UeNasCount) :
    (ueNasCountIncrement c).toNat = (c.toNat + 1) % 2 ^ 24 := by
  obtain ⟨o, s⟩ := c
  have ho := o.toNat_lt
  have hs := s.toNat_lt
  have hs1 : (s + 1).toNat = (s.toNat + 1) % 256 := by simp [UInt8.toNat_add]
  simp only [UeNasCount.toNat, ueNasCountIncrement]
  by_cases h0 : s + 1 = 0
  · have hz : (s + 1).toNat = 0 := by rw [h0]; rfl
    have ho1 : (o + 1).toNat = (o.toNat + 1) % 65536 := by simp [UInt16.toNat_add]
    rw [if_pos h0]
    omega
  · have hz : (s + 1).toNat ≠ 0 := fun hz => h0 (UInt8.toNat_inj.mp hz)
    rw [if_neg h0]
    omega

theorem ueNasCountIncrement_toNat {c : UeNasCount} (h : c.toNat + 1 < 2 ^ 24) :
    (ueNasCountIncrement c).toNat = c.toNat + 1 := by
  rw [ueNasCountIncrement_toNat_mod, Nat.mod_eq_of_lt h]

/-- The receiver's estimate: a smaller sequence number means the overflow moved. -/
def dlCountEstimate (dl : UeNasCount) (sqn : UInt8) : UeNasCount :=
  { sqn, overflow := if sqn < dl.sqn then dl.overflow + 1 else dl.overflow }

/-- An estimate whose sequence number differs from the stored one lies above it,
unless the overflow itself wraps. -/
theorem lt_dlCountEstimate {dl : UeNasCount} {sqn : UInt8}
    (hne : sqn ≠ dl.sqn) (hwrap : sqn < dl.sqn → dl.overflow ≠ 0xFFFF) :
    dl.toNat < (dlCountEstimate dl sqn).toNat := by
  obtain ⟨o, s⟩ := dl
  have hs := s.toNat_lt
  have hq := sqn.toNat_lt
  have hne' : sqn.toNat ≠ s.toNat := fun h => hne (UInt8.toNat_inj.mp h)
  simp only [UeNasCount.toNat, dlCountEstimate] at hwrap ⊢
  by_cases hlt : sqn < s
  · have ho : o.toNat ≠ 65535 := fun h => hwrap hlt (UInt16.toNat_inj.mp h)
    have ho1 : (o + 1).toNat = (o.toNat + 1) % 65536 := by simp [UInt16.toNat_add]
    have hlt' : sqn.toNat < s.toNat := UInt8.lt_iff_toNat_lt.mp hlt
    have hob := o.toNat_lt
    rw [if_pos hlt]
    omega
  · have hge : ¬sqn.toNat < s.toNat := fun h => hlt (UInt8.lt_iff_toNat_lt.mpr h)
    rw [if_neg hlt]
    omega

/-! ## The security context -/

inductive UeNasIntegrityAlg where
  | nia0
  | nia1
  | nia2
  deriving DecidableEq, Repr

inductive UeNasCipheringAlg where
  | nea0
  | nea1
  | nea2
  deriving DecidableEq, Repr

/-- The enumerator's value, as `(uint8_t)alg`. -/
def UeNasIntegrityAlg.toUInt8 : UeNasIntegrityAlg → UInt8
  | .nia0 => 0
  | .nia1 => 1
  | .nia2 => 2

def UeNasCipheringAlg.toUInt8 : UeNasCipheringAlg → UInt8
  | .nea0 => 0
  | .nea1 => 1
  | .nea2 => 2

structure UeNasSecurityCtx where
  active : Bool
  keys : UeNasKeys
  intAlg : UeNasIntegrityAlg
  encAlg : UeNasCipheringAlg
  ulCount : UeNasCount
  dlCount : UeNasCount
  bearer : UInt8
  ngksi : UInt8
  milenage : UeMilenageResult
  rand : Block
  sqnXorAk : Vector UInt8 6
  /-- `abba[16]` cut at `abba_len`. -/
  abba : Bytes
  deriving DecidableEq, Repr

/-- A context after `memset`. -/
def UeNasSecurityCtx.zero : UeNasSecurityCtx where
  active := false
  keys := UeNasKeys.zero
  intAlg := .nia0
  encAlg := .nea0
  ulCount := UeNasCount.zero
  dlCount := UeNasCount.zero
  bearer := 0
  ngksi := 0
  milenage := UeMilenageResult.zero
  rand := zeroBlock
  sqnXorAk := Vector.replicate 6 0
  abba := []

structure UeNasSecHeaderInfo where
  epd : UInt8
  sht : UInt8
  mac : UInt32
  sqn : UInt8
  deriving DecidableEq, Repr

/-- The seven header octets of a protected message. -/
def secHeaderOf (data : Bytes) : UeNasSecHeaderInfo where
  epd := octet data 0
  sht := octet data 1
  mac := getBe32 (octet data 2) (octet data 3) (octet data 4) (octet data 5)
  sqn := octet data 6

/-! ## Integrity and ciphering -/

def dirUplink : UInt8 := 0
def dirDownlink : UInt8 := 1

/-- COUNT, bearer and direction: the eight octets before the message in the MAC
input, and the first eight of the ciphering counter block. -/
def nasCountInput (count : UInt32) (bearer direction : UInt8) : Bytes :=
  putBe32 count ++ [(bearer <<< 3) ||| ((direction &&& 1) <<< 2), 0, 0, 0]

/-- The largest message `ue_nas_compute_mac` covers; above it the MAC is zero. -/
def nasMacMaxMsg : Nat := 8192

def ueNasComputeMac (alg : UeNasIntegrityAlg) (count : UInt32) (bearer direction : UInt8)
    (key : Block) (msg : Bytes) : UInt32 :=
  match alg with
  | .nia0 => 0
  | .nia1 => 0
  | .nia2 =>
    if msg.length > nasMacMaxMsg then 0
    else
      let mac := ueAesCmac key (nasCountInput count bearer direction ++ msg)
      macWord mac

/-- The returned status is dropped: every caller ignores it, and NEA1 leaves the
data as it is. -/
def ueNasCipher (alg : UeNasCipheringAlg) (count : UInt32) (bearer direction : UInt8)
    (key : Block) (data : Bytes) : Bytes :=
  match alg with
  | .nea0 => data
  | .nea1 => data
  | .nea2 => aes128Ctr key (vecOf 16 (nasCountInput count bearer direction)) data

@[simp] theorem ueNasCipher_length (alg : UeNasCipheringAlg) (count : UInt32)
    (bearer direction : UInt8) (key : Block) (data : Bytes) :
    (ueNasCipher alg count bearer direction key data).length = data.length := by
  cases alg with
  | nea0 => rfl
  | nea1 => rfl
  | nea2 => exact aes128Ctr_length _ _ _

/-- Ciphering is its own inverse under one key, COUNT, bearer and direction. -/
theorem ueNasCipher_ueNasCipher (alg : UeNasCipheringAlg) (count : UInt32)
    (bearer direction : UInt8) (key : Block) (data : Bytes) :
    ueNasCipher alg count bearer direction key
      (ueNasCipher alg count bearer direction key data) = data := by
  cases alg with
  | nea0 => rfl
  | nea1 => rfl
  | nea2 => exact aes128Ctr_aes128Ctr _ _ _

/-! ## Protect -/

/-- The four header types a protected message may carry. -/
def isProtectedSht (sht : UInt8) : Bool :=
  sht = nasShtIntegrityProtected || sht = nasShtIntegrityProtectedCiphered ||
    sht = nasShtIntegrityProtectedNewCtx || sht = nasShtIntegrityProtectedCipheredNewCtx

/-- Protect an uplink message in a buffer of `bufLen` octets. -/
def ueNasSecurityProtectWithSht (bufLen : Nat) (ctx : UeNasSecurityCtx) (plain : Bytes)
    (sht : UInt8) : Option (Bytes × UeNasSecurityCtx) :=
  if ctx.active = false ∨ plain.length = 0 then none
  else if isProtectedSht sht = false then none
  else if bufLen < 7 + plain.length then none
  else
    let count := ueNasCountValue ctx.ulCount
    let sqnByte := ctx.ulCount.sqn
    let payload :=
      if sht = nasShtIntegrityProtectedCiphered ∨
          sht = nasShtIntegrityProtectedCipheredNewCtx then
        ueNasCipher ctx.encAlg count ctx.bearer dirUplink ctx.keys.knasEnc plain
      else plain
    let mac := ueNasComputeMac ctx.intAlg count ctx.bearer dirUplink ctx.keys.knasInt
      (sqnByte :: payload)
    some (nasEpd5gmm :: sht :: (putBe32 mac ++ sqnByte :: payload),
      { ctx with ulCount := ueNasCountIncrement ctx.ulCount })

/-- A successful protect changes the uplink COUNT and nothing else. -/
theorem ueNasSecurityProtectWithSht_ctx {bufLen : Nat} {ctx ctx' : UeNasSecurityCtx}
    {plain pdu : Bytes} {sht : UInt8}
    (h : ueNasSecurityProtectWithSht bufLen ctx plain sht = some (pdu, ctx')) :
    ctx' = { ctx with ulCount := ueNasCountIncrement ctx.ulCount } := by
  unfold ueNasSecurityProtectWithSht at h
  split at h
  · cases h
  · split at h
    · cases h
    · split at h
      · cases h
      · cases h
        rfl

/-- Protecting adds the header's seven octets. -/
theorem ueNasSecurityProtectWithSht_length {bufLen : Nat} {ctx ctx' : UeNasSecurityCtx}
    {plain pdu : Bytes} {sht : UInt8}
    (h : ueNasSecurityProtectWithSht bufLen ctx plain sht = some (pdu, ctx')) :
    pdu.length = 7 + plain.length := by
  unfold ueNasSecurityProtectWithSht at h
  split at h
  · cases h
  · split at h
    · cases h
    · split at h
      · cases h
      · cases h
        simp only [List.length_cons, List.length_append, putBe32]
        split
        · rw [ueNasCipher_length]
          simp only [List.length_nil]
          omega
        · simp only [List.length_nil]
          omega

/-- The engine's and the adapter's own calls fail only for lack of room. -/
theorem ueNasSecurityProtectWithSht_isSome {bufLen : Nat} {ctx : UeNasSecurityCtx}
    {plain : Bytes} {sht : UInt8} (hact : ctx.active = true) (hsht : isProtectedSht sht = true)
    (hpos : 0 < plain.length) (hroom : 7 + plain.length ≤ bufLen) :
    ∃ r, ueNasSecurityProtectWithSht bufLen ctx plain sht = some r := by
  have hinput : ¬ (ctx.active = false ∨ plain.length = 0) := by
    rw [hact]
    rintro (h | h)
    · cases h
    · omega
  unfold ueNasSecurityProtectWithSht
  rw [if_neg hinput, if_neg (by rw [hsht]; decide), if_neg (by omega)]
  exact ⟨_, rfl⟩

/-! ## Unprotect -/

/-- The COUNT `ue_nas_security_unprotect` verifies `data` at. -/
def unprotectCount (ctx : UeNasSecurityCtx) (data : Bytes) : UeNasCount :=
  dlCountEstimate ctx.dlCount (octet data 6)

/-- Whether the MAC in the header is the one computed at COUNT `c`; under NIA0 it
is not looked at. -/
def macAccepted (ctx : UeNasSecurityCtx) (c : UeNasCount) (data : Bytes) : Bool :=
  ctx.intAlg = .nia0 ||
    (secHeaderOf data).mac = ueNasComputeMac ctx.intAlg (ueNasCountValue c) ctx.bearer
      dirDownlink ctx.keys.knasInt (data.drop 6)

/-- Unprotect a downlink message, in place in the source: the inner message and the
context with the estimated COUNT stored. -/
def ueNasSecurityUnprotect (ctx : UeNasSecurityCtx) (data : Bytes) :
    Option (Bytes × UeNasSecurityCtx) :=
  if ctx.active = false then none
  else if data.length < 7 then none
  else if octet data 0 ≠ nasEpd5gmm then none
  else if octet data 1 = nasShtNotProtected then some (data, ctx)
  else
    let est := unprotectCount ctx data
    if macAccepted ctx est data = false then none
    else
      some (ueNasCipher ctx.encAlg (ueNasCountValue est) ctx.bearer dirDownlink
          ctx.keys.knasEnc (data.drop 7),
        { ctx with dlCount := est })

/-- What an accepted protected message tells about itself and does to the context. -/
theorem ueNasSecurityUnprotect_some {ctx ctx' : UeNasSecurityCtx} {data plain : Bytes}
    (hsht : octet data 1 ≠ nasShtNotProtected)
    (h : ueNasSecurityUnprotect ctx data = some (plain, ctx')) :
    ctx.active = true ∧ macAccepted ctx (unprotectCount ctx data) data = true ∧
      ctx' = { ctx with dlCount := unprotectCount ctx data } := by
  unfold ueNasSecurityUnprotect at h
  split at h
  · cases h
  rename_i hact
  split at h
  · cases h
  split at h
  · cases h
  simp only at h
  split at h
  · cases h
  rename_i hmac
  cases h
  exact ⟨by simpa using hact, by simpa using hmac, rfl⟩

/-- What a context reads of a message depends on these of its fields. -/
theorem ueNasSecurityUnprotect_congr {a b : UeNasSecurityCtx} (hactive : b.active = a.active)
    (hint : b.keys.knasInt = a.keys.knasInt) (henc : b.keys.knasEnc = a.keys.knasEnc)
    (hintAlg : b.intAlg = a.intAlg) (hencAlg : b.encAlg = a.encAlg) (hdl : b.dlCount = a.dlCount)
    (hbearer : b.bearer = a.bearer) (data : Bytes) :
    (ueNasSecurityUnprotect b data).map Prod.fst = (ueNasSecurityUnprotect a data).map Prod.fst := by
  have hcount : unprotectCount b data = unprotectCount a data := by
    rw [unprotectCount, unprotectCount, hdl]
  have hmac : macAccepted b (unprotectCount a data) data =
      macAccepted a (unprotectCount a data) data := by
    rw [macAccepted, macAccepted, hint, hintAlg, hbearer]
  unfold ueNasSecurityUnprotect
  simp only [hactive, hcount, hmac, henc, hencAlg, hbearer]
  split
  · rfl
  split
  · rfl
  split
  · rfl
  split
  · rfl
  split
  · rfl
  · rfl

/-- Parse the header only; no check is made. -/
def ueNasSecurityUnwrapParseOnly (data : Bytes) : Option (UeNasSecHeaderInfo × Bytes) :=
  if data.length < 7 then none
  else if octet data 0 ≠ nasEpd5gmm then none
  else if octet data 1 = nasShtNotProtected then none
  else some (secHeaderOf data, data.drop 7)

end VirtualLte.Nas
