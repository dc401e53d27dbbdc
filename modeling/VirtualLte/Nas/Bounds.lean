import VirtualLte.Nas.Suci

/-!
# The encoders and the caller's buffer

Each encoder writes the buffer from index zero upwards without a gap, so what it touched is
told by how far it got.  A length leaves it as a C `int`.

* `Footprint`: one past the highest index written, and the returned `int`.
* `registrationFootprint` follows the identity's length through `int` and `size_t`, which
  `ueNasEncodeRegistrationRequest` does not; the two agree below `2 ^ 31` octets
  (`registrationFootprint_eq`).
* `EncoderCall.Fits`: the calls whose footprint is within the buffer.  The establishment
  request asks for 32 octets and has 33 or 36 to write before it looks again.
-/

namespace VirtualLte.Nas

/-! ## Lengths as C sees them -/

/-- A length returned as `int`. -/
@[irreducible] def cInt (n : Nat) : Int := Int.bmod n (2 ^ 32)

/-- An `int` taken for a length. -/
def cSize (n : Int) : Nat := (n % 2 ^ 64).toNat

theorem cInt_eq (n : Nat) :
    cInt n = if n % 2 ^ 32 < 2 ^ 31 then (n : Int) % 2 ^ 32 else (n : Int) % 2 ^ 32 - 2 ^ 32 := by
  unfold cInt Int.bmod
  split
  · rw [if_pos (by omega)]
    omega
  · rw [if_neg (by omega)]
    omega

/-- The returned number is the length, or negative. -/
@[irreducible] def IntSized (n : Nat) : Prop := n < 2 ^ 31 ∨ 2 ^ 31 ≤ n % 2 ^ 32

theorem intSized_iff (n : Nat) : cInt n < 0 ∨ cInt n = n ↔ IntSized n := by
  unfold IntSized
  rw [cInt_eq]
  split
  · omega
  · omega

theorem intSized_of_lt {n : Nat} (h : n < 2 ^ 31) : IntSized n := by
  unfold IntSized
  exact .inl h

/-! ## Footprints -/

structure Footprint where
  top : Nat
  result : Int
  deriving DecidableEq, Repr

/-- Every index written is in the buffer, and the result is negative or the number of octets
of a message that fits. -/
structure Footprint.Within (f : Footprint) (bufLen : Nat) : Prop where
  writes : ∀ i, i < f.top → i < bufLen
  result : f.result < 0 ∨ f.result = f.top ∧ f.result ≤ bufLen

def Encoded.footprint (e : Encoded) : Footprint :=
  ⟨e.written.length, if e.ok then cInt e.written.length else -1⟩

theorem lt_of_lt_iff (top bufLen : Nat) : (∀ i, i < top → i < bufLen) ↔ top ≤ bufLen :=
  ⟨fun h => Nat.le_of_not_lt fun hlt => Nat.lt_irrefl _ (h bufLen hlt),
    fun h _ hi => Nat.lt_of_lt_of_le hi h⟩

/-- A message that was reported. -/
theorem within_reported_iff (top bufLen : Nat) :
    (Footprint.mk top (cInt top)).Within bufLen ↔ top ≤ bufLen ∧ IntSized top := by
  constructor
  · rintro ⟨hw, hr⟩
    exact ⟨(lt_of_lt_iff _ _).mp hw, (intSized_iff top).mp (hr.imp_right And.left)⟩
  · rintro ⟨hle, hsized⟩
    refine ⟨(lt_of_lt_iff _ _).mpr hle, ((intSized_iff top).mpr hsized).imp_right fun heq => ⟨heq, ?_⟩⟩
    rw [heq]
    exact Int.ofNat_le.mpr hle

/-- A call that failed part of the way. -/
theorem within_failed_iff (top bufLen : Nat) :
    (Footprint.mk top (-1)).Within bufLen ↔ top ≤ bufLen :=
  ⟨fun h => (lt_of_lt_iff _ _).mp h.writes,
    fun h => ⟨(lt_of_lt_iff _ _).mpr h, .inl (by decide : (-1 : Int) < 0)⟩⟩

theorem Encoded.within_iff (e : Encoded) (bufLen : Nat) :
    e.footprint.Within bufLen ↔
      e.written.length ≤ bufLen ∧ (e.ok = true → IntSized e.written.length) := by
  unfold Encoded.footprint
  cases hok : e.ok with
  | true => simp only [if_true, within_reported_iff, forall_const]
  | false => simp only [Bool.false_eq_true, if_false, within_failed_iff, false_implies, and_true]

theorem refused_within (bufLen : Nat) : Encoded.refused.footprint.Within bufLen :=
  (Encoded.within_iff _ _).mpr ⟨Nat.zero_le _, nofun⟩

theorem done_within_iff (b : Bytes) (bufLen : Nat) :
    (Encoded.done b).footprint.Within bufLen ↔ b.length ≤ bufLen ∧ IntSized b.length := by
  rw [Encoded.within_iff]
  simp only [Encoded.done, forall_const]

/-- A short message that fits is within. -/
theorem done_within {b : Bytes} {bufLen : Nat} (hlen : b.length ≤ bufLen)
    (hsmall : b.length < 2 ^ 31) : (Encoded.done b).footprint.Within bufLen :=
  (done_within_iff _ _).mpr ⟨hlen, intSized_of_lt hsmall⟩

/-! ## The registration request -/

/-- What the request adds to its header, the identity and the security capability. -/
def registrationOptions (sliceSst : UInt8) (initialCleartext : Bool) : Nat :=
  (if initialCleartext then 0 else 6) + if sliceSst > 0 then 4 else 0

/-- The length of a stored identity goes through `int` to `size_t` before it is used. -/
def registrationFootprint (bufLen : Nat) (imsi mcc mnc : Bytes) (sliceSst regType : UInt8)
    (guti : Option Bytes) (ngksi : UInt8) (initialCleartext : Bool) : Footprint :=
  match guti with
  | some (x :: g) =>
    let midLen := cSize (cInt (x :: g).length)
    if bufLen < (20 + midLen) % 2 ^ 64 then ⟨0, -1⟩
    else
      let top := 10 + midLen + registrationOptions sliceSst initialCleartext
      ⟨top, cInt top⟩
  | _ =>
    (ueNasEncodeRegistrationRequest bufLen imsi mcc mnc sliceSst regType guti ngksi
      initialCleartext).footprint

theorem cSize_cInt_of_lt {n : Nat} (h : n < 2 ^ 31) : cSize (cInt n) = n := by
  unfold cSize
  rw [cInt_eq, if_pos (by omega)]
  omega

/-- The identity's length as it is used. -/
theorem cSize_cInt (n : Nat) :
    cSize (cInt n) = if n % 2 ^ 32 < 2 ^ 31 then n % 2 ^ 32 else 2 ^ 64 - 2 ^ 32 + n % 2 ^ 32 := by
  unfold cSize
  rw [cInt_eq]
  split
  · omega
  · omega

theorem registrationOptions_le (sliceSst : UInt8) (initialCleartext : Bool) :
    registrationOptions sliceSst initialCleartext ≤ 10 := by
  unfold registrationOptions
  split
  · split
    · decide
    · decide
  · split
    · decide
    · decide

/-- The length of an encoded request. -/
theorem registrationRequest_done {bufLen : Nat} {imsi mcc mnc mid : Bytes} {guti : Option Bytes}
    (hmid : mobileIdentity imsi mcc mnc guti = some mid) (hroom : 20 + mid.length ≤ bufLen)
    (sliceSst regType ngksi : UInt8) (initialCleartext : Bool) :
    ∃ nas, ueNasEncodeRegistrationRequest bufLen imsi mcc mnc sliceSst regType guti ngksi
        initialCleartext = .done nas ∧
      nas.length = 10 + mid.length + registrationOptions sliceSst initialCleartext := by
  unfold ueNasEncodeRegistrationRequest
  dsimp only
  rw [hmid]
  dsimp only
  rw [if_neg (Nat.not_lt.mpr hroom)]
  refine ⟨_, rfl, ?_⟩
  simp only [List.length_append, putBe16, List.length_cons, List.length_nil,
    apply_ite List.length, registrationOptions, Nat.reduceAdd]
  split
  · omega
  · omega

/-- Below `2 ^ 31` octets of identity the footprint is that of the encoder. -/
theorem registrationFootprint_eq {guti : Option Bytes} (hguti : ∀ g ∈ guti, g.length < 2 ^ 31)
    {bufLen : Nat} {imsi mcc mnc : Bytes} {sliceSst regType ngksi : UInt8}
    {initialCleartext : Bool} :
    registrationFootprint bufLen imsi mcc mnc sliceSst regType guti ngksi initialCleartext =
      (ueNasEncodeRegistrationRequest bufLen imsi mcc mnc sliceSst regType guti ngksi
        initialCleartext).footprint := by
  unfold registrationFootprint
  split
  · rename_i x g
    have hlen : (x :: g).length < 2 ^ 31 := hguti _ rfl
    dsimp only
    rw [cSize_cInt_of_lt hlen, Nat.mod_eq_of_lt (by omega)]
    split
    · rename_i hroom
      have hrefused : ueNasEncodeRegistrationRequest bufLen imsi mcc mnc sliceSst regType
          (some (x :: g)) ngksi initialCleartext = .refused := if_pos hroom
      rw [hrefused]
      rfl
    · rename_i hroom
      have hmid : mobileIdentity imsi mcc mnc (some (x :: g)) = some (x :: g) := rfl
      obtain ⟨nas, heq, hnas⟩ := registrationRequest_done hmid (Nat.le_of_not_lt hroom) sliceSst
        regType ngksi initialCleartext
      rw [heq, Encoded.footprint, Encoded.done, if_pos rfl, hnas]
  · rfl

/-- An identity whose length is between 1 and 20 below a multiple of `2 ^ 32` is negative as an
`int`, and the room asked for wraps around to next to nothing. -/
def RegistrationFits (bufLen : Nat) : Option Bytes → Prop
  | some (x :: g) =>
    2 ^ 32 ≤ (x :: g).length % 2 ^ 32 + 20 → bufLen < (x :: g).length % 2 ^ 32 + 20 - 2 ^ 32
  | _ => True

theorem ueNasEncodeSuci_64_length {imsi mcc mnc suci : Bytes}
    (h : (ueNasEncodeSuci 64 imsi mcc mnc).pdu? = some suci) : suci.length ≤ 64 := by
  obtain ⟨hshape, -, rfl⟩ := (ueNasEncodeSuci_pdu ..).mp h
  rw [suciOctets_length]
  exact hshape.room

theorem registration_within_suci {bufLen : Nat} {imsi mcc mnc : Bytes} {guti : Option Bytes}
    (hguti : mobileIdentity imsi mcc mnc guti = (ueNasEncodeSuci 64 imsi mcc mnc).pdu?)
    (sliceSst regType ngksi : UInt8) (initialCleartext : Bool) :
    (ueNasEncodeRegistrationRequest bufLen imsi mcc mnc sliceSst regType guti ngksi
      initialCleartext).footprint.Within bufLen := by
  cases hsuci : (ueNasEncodeSuci 64 imsi mcc mnc).pdu? with
  | none =>
    rw [hsuci] at hguti
    unfold ueNasEncodeRegistrationRequest
    rw [hguti]
    exact refused_within bufLen
  | some suci =>
    rw [hsuci] at hguti
    have hlen := ueNasEncodeSuci_64_length hsuci
    have hopt := registrationOptions_le sliceSst initialCleartext
    by_cases hroom : 20 + suci.length ≤ bufLen
    · obtain ⟨nas, heq, hnas⟩ := registrationRequest_done hguti hroom sliceSst regType ngksi
        initialCleartext
      rw [heq]
      exact done_within (by omega) (by omega)
    · unfold ueNasEncodeRegistrationRequest
      dsimp only
      rw [hguti]
      dsimp only
      rw [if_pos (by omega)]
      exact refused_within bufLen

theorem registration_within_iff {bufLen : Nat} (hbuf : bufLen < 2 ^ 63) (imsi mcc mnc : Bytes)
    (sliceSst regType : UInt8) (guti : Option Bytes) (ngksi : UInt8) (initialCleartext : Bool) :
    (registrationFootprint bufLen imsi mcc mnc sliceSst regType guti ngksi
      initialCleartext).Within bufLen ↔ RegistrationFits bufLen guti := by
  match guti with
  | none => exact iff_of_true (registration_within_suci rfl _ _ _ _) trivial
  | some [] => exact iff_of_true (registration_within_suci rfl _ _ _ _) trivial
  | some (x :: g) =>
    have hopt := registrationOptions_le sliceSst initialCleartext
    unfold registrationFootprint RegistrationFits
    dsimp only
    generalize (x :: g).length = n
    rw [cSize_cInt]
    by_cases hsign : n % 2 ^ 32 < 2 ^ 31
    · -- the length is what it was modulo `2 ^ 32`
      rw [if_pos hsign, Nat.mod_eq_of_lt (by omega : 20 + n % 2 ^ 32 < 2 ^ 64)]
      refine iff_of_true ?_ (by omega)
      split
      · exact (within_failed_iff _ _).mpr (Nat.zero_le _)
      · refine (within_reported_iff _ _).mpr ⟨by omega, ?_⟩
        unfold IntSized
        omega
    · rw [if_neg hsign]
      by_cases hwrap : 2 ^ 32 ≤ n % 2 ^ 32 + 20
      · have hneed : (20 + (2 ^ 64 - 2 ^ 32 + n % 2 ^ 32)) % 2 ^ 64 = n % 2 ^ 32 + 20 - 2 ^ 32 := by
          omega
        rw [hneed]
        split
        · rename_i hroom
          exact iff_of_true ((within_failed_iff _ _).mpr (Nat.zero_le _)) fun _ => hroom
        · rename_i hroom
          refine iff_of_false (fun h => ?_) fun h => hroom (h hwrap)
          have htop := ((within_reported_iff _ _).mp h).1
          omega
      · rw [if_pos (by omega)]
        exact iff_of_true ((within_failed_iff _ _).mpr (Nat.zero_le _)) fun h => absurd h hwrap

/-! ## The other encoders -/

theorem suci_within_iff (bufLen : Nat) (imsi mcc mnc : Bytes) :
    (ueNasEncodeSuci bufLen imsi mcc mnc).footprint.Within bufLen ↔
      (SuciShape bufLen imsi mcc mnc → mcc.all isDigit = true → (mnc.take 2).all isDigit = true →
        (msinOf imsi mcc mnc).all isDigit = true → (msinOf imsi mcc mnc).length % 2 = 0 →
        IntSized (8 + ((msinOf imsi mcc mnc).length + 1) / 2)) := by
  by_cases hshape : SuciShape bufLen imsi mcc mnc
  · rw [ueNasEncodeSuci_of_shape hshape, Encoded.within_iff,
      suciValidateBcd_iff hshape.mccLen hshape.mncLen, suciOctets_length]
    simp only [hshape.room, true_and, hshape, forall_const, and_imp]
  · rw [ueNasEncodeSuci_of_not_shape hshape]
    exact iff_of_true (refused_within bufLen) fun h => absurd h hshape

theorem authFailure_within_iff (bufLen : Nat) (cause : UInt8) (auts : Bytes) :
    (ueNasEncodeAuthFailure bufLen cause auts).footprint.Within bufLen ↔
      (0 < auts.length → 6 + auts.length ≤ bufLen → IntSized (6 + auts.length)) := by
  unfold ueNasEncodeAuthFailure
  split
  · exact iff_of_true (refused_within bufLen) fun _ h => by omega
  rename_i hroom
  dsimp only
  split
  · rename_i hpos
    split
    · rename_i hlong
      refine iff_of_true ((within_failed_iff _ _).mpr ?_) fun _ h => by omega
      simp only [List.length_cons, List.length_nil]
      omega
    · rename_i hlong
      rw [done_within_iff]
      simp only [List.length_append, List.length_cons, List.length_nil, Nat.reduceAdd]
      exact ⟨fun h _ _ => h.2, fun h => ⟨by omega, h hpos (by omega)⟩⟩
  · rename_i hpos
    refine iff_of_true (done_within ?_ ?_) fun h => absurd h hpos
    · simp only [List.length_cons, List.length_nil]
      omega
    · simp

theorem securityModeComplete_within_iff (bufLen : Nat) (nasContainer : Option Bytes) :
    (ueNasEncodeSecurityModeComplete bufLen nasContainer).footprint.Within bufLen ↔
      ∀ c ∈ nasContainer, 0 < c.length → 6 + c.length ≤ bufLen → IntSized (6 + c.length) := by
  unfold ueNasEncodeSecurityModeComplete
  cases nasContainer with
  | none =>
    refine iff_of_true ?_ nofun
    dsimp only
    split
    · exact refused_within bufLen
    · refine done_within ?_ ?_
      · simp only [List.length_cons, List.length_nil]
        omega
      · simp
  | some c =>
    simp only [Option.mem_some_iff, forall_eq']
    split
    · exact iff_of_true (refused_within bufLen) fun _ h => by omega
    rename_i hroom
    split
    · rename_i hpos
      rw [done_within_iff]
      simp only [List.length_append, List.length_cons, List.length_nil, putBe16, Nat.reduceAdd]
      exact ⟨fun h _ _ => h.2, fun h => ⟨by omega, h hpos (by omega)⟩⟩
    · rename_i hpos
      refine iff_of_true (done_within ?_ ?_) fun h => absurd h hpos
      · simp only [List.length_cons, List.length_nil]
        omega
      · simp

theorem identityResponse_within (bufLen : Nat) (imsi mcc mnc : Bytes) :
    (ueNasEncodeIdentityResponse bufLen imsi mcc mnc).footprint.Within bufLen := by
  unfold ueNasEncodeIdentityResponse
  split
  · exact refused_within bufLen
  rename_i hroom
  split
  · exact refused_within bufLen
  rename_i suci hsuci
  have hlen := ueNasEncodeSuci_64_length hsuci
  dsimp only
  split
  · refine (within_failed_iff _ _).mpr ?_
    simp only [List.length_cons, List.length_nil]
    omega
  · rename_i hlong
    refine done_within ?_ ?_
    · simp only [List.length_append, List.length_cons, List.length_nil, putBe16]
      omega
    · simp only [List.length_append, List.length_cons, List.length_nil, putBe16]
      omega

/-- Eight octets around the inner message are within the sixteen asked for. -/
theorem shortSm_within (bufLen : Nat) (psi : UInt8) {sm : Bytes} (hsm : sm.length ≤ 8) :
    (encodeShortSm bufLen psi sm).footprint.Within bufLen := by
  unfold encodeShortSm
  split
  · exact refused_within bufLen
  · refine done_within ?_ ?_
    · simp only [ulNasTransport, List.length_append, List.length_cons, List.length_nil, putBe16]
      omega
    · simp only [ulNasTransport, List.length_append, List.length_cons, List.length_nil, putBe16]
      omega

/-- What the establishment request writes before it looks at the buffer again. -/
def estRequestHead (sNssaiSst : UInt8) : Nat := 33 + if sNssaiSst > 0 then 3 else 0

theorem estRequest_within_iff (bufLen : Nat) (psi pti pduSessionType requestType : UInt8)
    (dnn : Bytes) (sNssaiSst : UInt8) :
    (ueNasEncodePduSessionEstRequest bufLen psi pti pduSessionType requestType dnn
      sNssaiSst).footprint.Within bufLen ↔ (32 ≤ bufLen → estRequestHead sNssaiSst ≤ bufLen) := by
  unfold ueNasEncodePduSessionEstRequest
  split
  · exact iff_of_true (refused_within bufLen) fun h => by omega
  rename_i hroom
  dsimp only
  generalize hhead : ulNasTransport psi (encodePduSessionEstRequestInner psi pti pduSessionType) ++
    [0x80 ||| ((if requestType = 0 then 1 else requestType) &&& 0x0F)] ++
      (if sNssaiSst > 0 then [0x22, 0x01, sNssaiSst] else []) = head
  have hlen : head.length = estRequestHead sNssaiSst := by
    rw [← hhead]
    simp only [ulNasTransport, encodePduSessionEstRequestInner, List.length_append,
      List.length_cons, List.length_nil, putBe16, apply_ite List.length, estRequestHead,
      Nat.reduceAdd]
  have hsmall : estRequestHead sNssaiSst ≤ 36 := by
    unfold estRequestHead
    split
    · decide
    · decide
  rw [← hlen] at hsmall ⊢
  have hname : (dnn.take 100).length ≤ 100 := by
    rw [List.length_take]
    omega
  have hbuf : (32 ≤ bufLen → head.length ≤ bufLen) ↔ head.length ≤ bufLen :=
    ⟨fun h => h (by omega), fun h _ => h⟩
  rw [hbuf]
  split
  · split
    · exact within_failed_iff _ _
    · rename_i hlong
      refine iff_of_true (done_within ?_ ?_) (by omega)
      · simp only [List.length_append, List.length_cons, List.length_nil]
        omega
      · simp only [List.length_append, List.length_cons, List.length_nil]
        omega
  · rw [done_within_iff]
    exact and_iff_left (intSized_of_lt (by omega))

/-! ## Every encoder -/

/-- A call of an encoder, without the buffer. -/
inductive EncoderCall where
  | suci (imsi mcc mnc : Bytes)
  | registrationRequest (imsi mcc mnc : Bytes) (sliceSst regType : UInt8) (guti : Option Bytes)
      (ngksi : UInt8) (initialCleartext : Bool)
  | authFailure (cause : UInt8) (auts : Bytes)
  | securityModeComplete (nasContainer : Option Bytes)
  | identityResponse (imsi mcc mnc : Bytes)
  | smStatus (psi pti cause : UInt8)
  | pduSessionEstRequest (psi pti pduSessionType requestType : UInt8) (dnn : Bytes)
      (sNssaiSst : UInt8)
  | pduSessionReleaseRequest (psi pti : UInt8)
  | pduSessionReleaseComplete (psi pti : UInt8)
  deriving DecidableEq, Repr

def EncoderCall.footprint (bufLen : Nat) : EncoderCall → Footprint
  | .suci imsi mcc mnc => (ueNasEncodeSuci bufLen imsi mcc mnc).footprint
  | .registrationRequest imsi mcc mnc sliceSst regType guti ngksi initialCleartext =>
    registrationFootprint bufLen imsi mcc mnc sliceSst regType guti ngksi initialCleartext
  | .authFailure cause auts => (ueNasEncodeAuthFailure bufLen cause auts).footprint
  | .securityModeComplete nasContainer =>
    (ueNasEncodeSecurityModeComplete bufLen nasContainer).footprint
  | .identityResponse imsi mcc mnc => (ueNasEncodeIdentityResponse bufLen imsi mcc mnc).footprint
  | .smStatus psi pti cause => (ueNasEncodeSmStatus bufLen psi pti cause).footprint
  | .pduSessionEstRequest psi pti pduSessionType requestType dnn sNssaiSst =>
    (ueNasEncodePduSessionEstRequest bufLen psi pti pduSessionType requestType dnn
      sNssaiSst).footprint
  | .pduSessionReleaseRequest psi pti => (ueNasEncodePduSessionReleaseRequest bufLen psi pti).footprint
  | .pduSessionReleaseComplete psi pti =>
    (ueNasEncodePduSessionReleaseComplete bufLen psi pti).footprint

/-- An establishment request has a buffer of fewer than 32 octets, or of 33 and three more for
a slice.  An identity, a token or a container of gigabytes has a length that survives `int`. -/
def EncoderCall.Fits (bufLen : Nat) : EncoderCall → Prop
  | .suci imsi mcc mnc =>
    SuciShape bufLen imsi mcc mnc → mcc.all isDigit = true → (mnc.take 2).all isDigit = true →
      (msinOf imsi mcc mnc).all isDigit = true → (msinOf imsi mcc mnc).length % 2 = 0 →
      IntSized (8 + ((msinOf imsi mcc mnc).length + 1) / 2)
  | .registrationRequest _ _ _ _ _ guti _ _ => RegistrationFits bufLen guti
  | .authFailure _ auts => 0 < auts.length → 6 + auts.length ≤ bufLen → IntSized (6 + auts.length)
  | .securityModeComplete nasContainer =>
    ∀ c ∈ nasContainer, 0 < c.length → 6 + c.length ≤ bufLen → IntSized (6 + c.length)
  | .pduSessionEstRequest _ _ _ _ _ sNssaiSst =>
    32 ≤ bufLen → 33 + (if sNssaiSst > 0 then 3 else 0) ≤ bufLen
  | .identityResponse .. | .smStatus .. | .pduSessionReleaseRequest ..
  | .pduSessionReleaseComplete .. => True

/-- The encoders respect the caller's buffer on exactly these calls.  No object has `2 ^ 63`
octets. -/
theorem encoders_within_iff {bufLen : Nat} (hbuf : bufLen < 2 ^ 63) (call : EncoderCall) :
    (call.footprint bufLen).Within bufLen ↔ call.Fits bufLen := by
  cases call with
  | suci imsi mcc mnc => exact suci_within_iff bufLen imsi mcc mnc
  | registrationRequest imsi mcc mnc sliceSst regType guti ngksi initialCleartext =>
    exact registration_within_iff hbuf imsi mcc mnc sliceSst regType guti ngksi initialCleartext
  | authFailure cause auts => exact authFailure_within_iff bufLen cause auts
  | securityModeComplete nasContainer => exact securityModeComplete_within_iff bufLen nasContainer
  | identityResponse imsi mcc mnc =>
    exact iff_of_true (identityResponse_within bufLen imsi mcc mnc) trivial
  | smStatus psi pti cause => exact iff_of_true (shortSm_within bufLen psi (by simp)) trivial
  | pduSessionEstRequest psi pti pduSessionType requestType dnn sNssaiSst =>
    exact estRequest_within_iff bufLen psi pti pduSessionType requestType dnn sNssaiSst
  | pduSessionReleaseRequest psi pti =>
    exact iff_of_true (shortSm_within bufLen psi (by simp)) trivial
  | pduSessionReleaseComplete psi pti =>
    exact iff_of_true (shortSm_within bufLen psi (by simp)) trivial

/-- The buffer of 512 octets the session manager uses. -/
theorem encoders_within_sessionBuffer :
    ((EncoderCall.pduSessionEstRequest 7 9 1 1 [] 1).footprint 512).Within 512 :=
  (encoders_within_iff (by decide) _).mpr fun _ => by decide

/-- With 32 octets and no name, index 32 is written and 33 returned. -/
theorem estRequest_overruns :
    ¬ ∀ bufLen, bufLen < 2 ^ 63 → ∀ call : EncoderCall, (call.footprint bufLen).Within bufLen := by
  intro h
  have hwithin := h 32 (by decide) (.pduSessionEstRequest 7 9 1 1 [] 0)
  exact absurd ((estRequest_within_iff 32 7 9 1 1 [] 0).mp hwithin (by decide)) (by decide)

end VirtualLte.Nas
