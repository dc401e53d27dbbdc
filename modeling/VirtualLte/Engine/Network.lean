import VirtualLte.Engine.Sessions
import VirtualLte.Nas.Envelope

/-!
# A network that knows the subscriber

Downlink messages as a network makes them that shares the subscriber's secrets, and
what a UE makes of them.  Keys and MACs stay symbolic: the network computes them with
the same functions as the UE, and nothing here depends on their values.

* `authenticationRequest`, `securityModeCommand` and `protectedPdu` build the octets.
* `onAuthenticationRequest_genuine`, `onSecurityModeCommand_genuine` and
  `unwrapNas_protectedDl` say that they are accepted.
* `Camped` describes the UE of the packaged configuration while it listens, and the
  `camped_` lemmas follow it through the messages.
-/

namespace VirtualLte.Engine

open Crypto Nas Ran Mm Sm Up Rrc

variable {s : SecSide} {ctx : UeContext} (ngksi : UInt8) (rand : Block) (sqn : Vector UInt8 6)

/-! ## Authentication -/

/-- Milenage for a challenge with sequence number `sqn`. -/
def milenageOf (secrets : SimSecrets) (rand : Block) (sqn : Vector UInt8 6) : UeMilenageResult :=
  ueMilenageCompute secrets.opc secrets.k rand sqn secrets.amf

def sqnXorAkOf (secrets : SimSecrets) (rand : Block) (sqn : Vector UInt8 6) : Vector UInt8 6 :=
  Vector.zipWith (· ^^^ ·) sqn (milenageOf secrets rand sqn).ak

/-- AUTN: the masked sequence number, the AMF and the MAC. -/
def autnOf (secrets : SimSecrets) (rand : Block) (sqn : Vector UInt8 6) : Block :=
  vecOf 16 ((sqnXorAkOf secrets rand sqn).toList ++
    (secrets.amf.toList ++ (milenageOf secrets rand sqn).macA.toList))

theorem zipWith_xor_cancel {n : Nat} (a b : Vector UInt8 n) :
    Vector.zipWith (· ^^^ ·) (Vector.zipWith (· ^^^ ·) a b) b = a := by
  ext i hi
  simp only [Vector.getElem_zipWith, UInt8.xor_assoc, UInt8.xor_self, UInt8.xor_zero]

/-- The challenge that the UE reads from a genuine AUTN. -/
def genuineChallenge (secrets : SimSecrets) (rand : Block) (sqn : Vector UInt8 6)
    (abba : Bytes) : AuthChallenge where
  rand := rand
  sqnXorAk := sqnXorAkOf secrets rand sqn
  abba := abba
  sqn := sqn
  milenage := milenageOf secrets rand sqn
  mac := (milenageOf secrets rand sqn).macA

theorem authChallenge_autnOf (secrets : SimSecrets) (rand : Block) (sqn : Vector UInt8 6)
    (abba : Bytes) :
    authChallenge secrets rand (autnOf secrets rand sqn) abba =
      genuineChallenge secrets rand sqn abba := by
  have hautn : (autnOf secrets rand sqn).toList = (sqnXorAkOf secrets rand sqn).toList ++
      (secrets.amf.toList ++ (milenageOf secrets rand sqn).macA.toList) :=
    toList_vecOf (by simp)
  have hxor : vecOf 6 (autnOf secrets rand sqn).toList = sqnXorAkOf secrets rand sqn := by
    rw [hautn]
    exact vecOf_toList_append _ _
  have hmac : vecOf 8 ((autnOf secrets rand sqn).toList.drop 8) =
      (milenageOf secrets rand sqn).macA := by
    have hdrop : (autnOf secrets rand sqn).toList.drop 8 =
        (milenageOf secrets rand sqn).macA.toList := by
      rw [hautn, ← List.append_assoc]
      exact List.drop_left' (by simp)
    rw [hdrop]
    exact vecOf_toList _
  -- the mask does not depend on the sequence number it hides
  have hak : (ueMilenageCompute secrets.opc secrets.k rand (Vector.replicate 6 0) secrets.amf).ak =
      (milenageOf secrets rand sqn).ak := ueMilenageCompute_ak_eq _ _ _ _ _ _ _
  have hsqn : Vector.zipWith (· ^^^ ·) (sqnXorAkOf secrets rand sqn)
      (milenageOf secrets rand sqn).ak = sqn := zipWith_xor_cancel _ _
  unfold authChallenge genuineChallenge
  simp only [hxor, hmac, hak, hsqn]
  rfl

/-- Authentication Request with ABBA zero. -/
def authenticationRequest (ngksi : UInt8) (rand autn : Block) : Bytes :=
  [nasEpd5gmm, 0x00, nasMsgAuthenticationRequest, ngksi, 0x02, 0x00, 0x00, 0x21] ++
    (rand.toList ++ ([0x20, 0x10] ++ autn.toList))

/-- The event of an Authentication Request. -/
def authEvent (ngksi : UInt8) (rand autn : Block) : UeNasEvent where
  type := .authenticationRequest
  ngksi := some (ngksi &&& 0x07)
  authAbba := some [0, 0]
  authRand := some rand
  authAutn := some autn

theorem parseAuthVector_request (autn : Block) :
    parseAuthVector (0x21 :: (rand.toList ++ ([0x20, 0x10] ++ autn.toList))) =
      (some rand, some autn) := by
  have hdrop : (0x21 :: (rand.toList ++ ([0x20, 0x10] ++ autn.toList))).drop 17 =
      [0x20, 0x10] ++ autn.toList := by
    rw [List.drop_succ_cons]
    exact List.drop_left' (by simp)
  have hrand : vecOf 16 (rand.toList ++ ([0x20, 0x10] ++ autn.toList)) = rand :=
    vecOf_toList_append _ _
  have hhas : 17 ≤ (0x21 :: (rand.toList ++ ([0x20, 0x10] ++ autn.toList))).length ∧
      octet (0x21 :: (rand.toList ++ ([0x20, 0x10] ++ autn.toList))) 0 = 0x21 := by simp
  unfold parseAuthVector
  simp only [if_pos hhas, hdrop]
  rw [List.drop_succ_cons, List.drop_zero, hrand]
  simp

theorem ueNasDecodeEvent_authenticationRequest (autn : Block) :
    ueNasDecodeEvent (authenticationRequest ngksi rand autn) =
      some (authEvent ngksi rand autn) := by
  have hlen : 3 + 1 + 2 + 17 + 18 ≤ (authenticationRequest ngksi rand autn).length := by
    simp [authenticationRequest]
  have hauth : decodeAuthenticationRequest (authenticationRequest ngksi rand autn) =
      authEvent ngksi rand autn := by
    have habba : octet (authenticationRequest ngksi rand autn) 4 = 2 := rfl
    have hdrop : (authenticationRequest ngksi rand autn).drop (5 + (2 : UInt8).toNat) =
        0x21 :: (rand.toList ++ ([0x20, 0x10] ++ autn.toList)) := rfl
    unfold decodeAuthenticationRequest
    rw [if_pos hlen]
    simp only [habba, hdrop, parseAuthVector_request]
    rw [if_pos ⟨by simp [authenticationRequest], by decide⟩]
    rfl
  have hmm : decodeMmMessage (authenticationRequest ngksi rand autn) =
      some (authEvent ngksi rand autn) := by
    rw [← hauth]
    unfold decodeMmMessage
    rw [if_neg (by omega)]
    rfl
  unfold ueNasDecodeEvent
  rw [if_neg (by omega), hmm]
  rfl

theorem unwrapNas_authenticationRequest (ctx : UeContext) (ngksi : UInt8) (rand autn : Block) :
    unwrapNas ctx (authenticationRequest ngksi rand autn) =
      some (ctx, authenticationRequest ngksi rand autn) := by
  unfold unwrapNas
  rw [if_pos (by simp [isProtected, authenticationRequest, nasShtNotProtected])]

theorem challengeOf_genuine {cfg : UeInstanceConfig} {secrets : SimSecrets}
    (hsecrets : simSecrets cfg = some secrets) (ngksi : UInt8) (rand : Block)
    (sqn : Vector UInt8 6) :
    challengeOf cfg (authEvent ngksi rand (autnOf secrets rand sqn)) =
      some (secrets, genuineChallenge secrets rand sqn [0, 0]) := by
  simp only [challengeOf, authEvent, hsecrets, authChallenge_autnOf]
  rfl

/-- The MAC of a genuine challenge is right, so the sequence number decides. -/
theorem authVerdict_genuine (authSqnMs : Option (Vector UInt8 6)) (secrets : SimSecrets)
    (rand : Block) (sqn : Vector UInt8 6) (abba : Bytes) :
    authVerdict authSqnMs (genuineChallenge secrets rand sqn abba) =
      if sqnBehind authSqnMs sqn then .synchFailure else .accepted := by
  unfold authVerdict genuineChallenge
  simp only [ne_eq, not_true, if_false]

/-- A genuine challenge whose sequence number is not behind is accepted. -/
theorem onAuthenticationRequest_genuine {secrets : SimSecrets}
    (hsecrets : simSecrets ctx.cfg = some secrets) (ngksi : UInt8) (rand : Block)
    {sqn : Vector UInt8 6} (hsqn : sqnBehind ctx.authSqnMs sqn = false) :
    onAuthenticationRequest ctx (authEvent ngksi rand (autnOf secrets rand sqn)) =
      acceptChallenge
        { ctx with net := { ctx.net with
          nasSec := recordChallenge ctx.net.nasSec (genuineChallenge secrets rand sqn [0, 0]) } }
        (authEvent ngksi rand (autnOf secrets rand sqn))
        (genuineChallenge secrets rand sqn [0, 0]) := by
  unfold onAuthenticationRequest
  rw [challengeOf_genuine hsecrets]
  simp only [authVerdict_genuine, hsqn, Bool.false_eq_true, if_false]

/-! ## Protected messages -/

theorem isProtected_protectedPdu {sht : UInt8} (hsht : sht ≠ nasShtNotProtected) (mac : UInt32)
    (sqn : UInt8) (payload : Bytes) : isProtected (protectedPdu sht mac sqn payload) = true := by
  have hlen := protectedPdu_length sht mac sqn payload
  simp only [isProtected, Bool.and_eq_true, decide_eq_true_eq]
  exact ⟨⟨by omega, rfl⟩, hsht⟩

/-- Header type 3 is taken apart unchecked, and its parts are kept. -/
theorem unwrapNas_newCtx (ctx : UeContext) (mac : UInt32) (sqn : UInt8) {payload : Bytes}
    (hpos : 0 < payload.length) (hmax : payload.length ≤ 256) :
    unwrapNas ctx (protectedPdu nasShtIntegrityProtectedNewCtx mac sqn payload) =
      some ({ ctx with
        dlSecHdr := some ⟨nasShtIntegrityProtectedNewCtx, mac, sqn⟩
        smcLastPayload := payload }, payload) := by
  have hlen := protectedPdu_length nasShtIntegrityProtectedNewCtx mac sqn payload
  have hparse : ueNasSecurityUnwrapParseOnly
      (protectedPdu nasShtIntegrityProtectedNewCtx mac sqn payload) =
        some (⟨nasEpd5gmm, nasShtIntegrityProtectedNewCtx, mac, sqn⟩, payload) := by
    unfold ueNasSecurityUnwrapParseOnly
    rw [if_neg (by omega), secHeaderOf_protectedPdu]
    rfl
  have hkept : cachedPayload (protectedPdu nasShtIntegrityProtectedNewCtx mac sqn payload) =
      payload := by
    unfold cachedPayload
    rw [if_pos (by omega)]
    rfl
  unfold unwrapNas
  rw [if_neg (by rw [isProtected_protectedPdu (by decide)]; decide), octet_one_protectedPdu,
    if_pos rfl]
  unfold unwrapNewCtx cacheHdr
  rw [hparse]
  simp only [hkept, secHeaderOf_protectedPdu]

/-- A message protected as the context expects is unwrapped, and its COUNT stored. -/
theorem unwrapNas_protectedDl {ctx : UeContext} {sht : UInt8} (hplain : sht ≠ nasShtNotProtected)
    (hnew : sht ≠ nasShtIntegrityProtectedNewCtx) {mac : UInt32} {sqn : UInt8} {payload : Bytes}
    (hact : ctx.net.nasSec.active = true) (hint : ctx.net.nasSec.intAlg = .nia2)
    (henc : ctx.net.nasSec.encAlg = .nea0)
    (hmac : mac = ueNasComputeMac .nia2 (ueNasCountValue (dlCountEstimate ctx.net.nasSec.dlCount sqn))
      ctx.net.nasSec.bearer dirDownlink ctx.net.nasSec.keys.knasInt (sqn :: payload)) :
    unwrapNas ctx (protectedPdu sht mac sqn payload) =
      some ({ ctx with
        net := { ctx.net with
          nasSec := { ctx.net.nasSec with dlCount := dlCountEstimate ctx.net.nasSec.dlCount sqn }
          trace := .dlVerified ⟨ctx.net.nasSec.keys.knasInt,
            dlCountEstimate ctx.net.nasSec.dlCount sqn, ctx.net.nasSec.bearer, mac,
            sqn :: payload⟩ :: ctx.net.trace }
        dlSecHdr := some ⟨sht, mac, sqn⟩ }, payload) := by
  have hlen := protectedPdu_length sht mac sqn payload
  have hcount : unprotectCount ctx.net.nasSec (protectedPdu sht mac sqn payload) =
      dlCountEstimate ctx.net.nasSec.dlCount sqn := rfl
  have haccepted : macAccepted ctx.net.nasSec (dlCountEstimate ctx.net.nasSec.dlCount sqn)
      (protectedPdu sht mac sqn payload) = true := by
    simp only [macAccepted, secHeaderOf_protectedPdu, hint, protectedPdu_drop_six, hmac,
      decide_true, Bool.or_true]
  have hunprotect : ueNasSecurityUnprotect ctx.net.nasSec (protectedPdu sht mac sqn payload) =
      some (payload,
        { ctx.net.nasSec with dlCount := dlCountEstimate ctx.net.nasSec.dlCount sqn }) := by
    unfold ueNasSecurityUnprotect
    rw [if_neg (by simp [hact]), if_neg (by omega), octet_zero_protectedPdu,
      if_neg (not_not.mpr rfl), octet_one_protectedPdu, if_neg hplain]
    simp only [hcount, haccepted, henc, protectedPdu_drop_seven]
    rfl
  unfold unwrapNas
  rw [if_neg (by rw [isProtected_protectedPdu hplain]; decide), octet_one_protectedPdu,
    if_neg hnew, if_pos hact]
  unfold unwrapProtected cacheHdr logVerified
  rw [hunprotect]
  simp only [secHeaderOf_protectedPdu, protectedPdu_drop_six, hint, reduceCtorEq, if_false]

/-! ## Security mode -/

/-- The body of a Security Mode Command. -/
def smcBody (algs ngksi : UInt8) : Bytes :=
  [nasEpd5gmm, 0x00, nasMsgSecurityModeCommand, algs, ngksi]

def smcEvent (algs ngksi : UInt8) : UeNasEvent where
  type := .securityModeCommand
  secAlgs := some ((algs >>> 4) &&& 0x0F, algs &&& 0x0F)
  ngksi := some (ngksi &&& 0x07)

theorem smcBody_length (algs ngksi : UInt8) : (smcBody algs ngksi).length = 5 := rfl

theorem ueNasDecodeEvent_smcBody (algs ngksi : UInt8) :
    ueNasDecodeEvent (smcBody algs ngksi) = some (smcEvent algs ngksi) := rfl

/-- A command for a context the UE has, over the bytes it carries, is taken into use. -/
theorem onSecurityModeCommand_genuine {ev : UeNasEvent} {target : SmcTarget} {mac : UInt32}
    {sqn : UInt8} (htarget : smcTarget ctx (smcSelection ev).ngksi = some target)
    (hhdr : ctx.dlSecHdr = some ⟨nasShtIntegrityProtectedNewCtx, mac, sqn⟩)
    (hdup : smcDuplicate ctx (smcSelection ev) = false) (hpos : 0 < ctx.smcLastPayload.length)
    (hmax : ctx.smcLastPayload.length ≤ 256)
    (hmac : mac = smcMac (smcKeys (target.sec ctx) (smcSelection ev)) (smcSelection ev)
      ⟨(target.sec ctx).dlCount.overflow, sqn⟩ (sqn :: ctx.smcLastPayload)) :
    onSecurityModeCommand ctx ev =
      smcComplete (smcRemember (smcInstall ctx target (smcSelection ev)
        ⟨(target.sec ctx).dlCount.overflow, sqn⟩ false) (smcSelection ev)) := by
  have hnew : newCtxHdr ctx = some ⟨nasShtIntegrityProtectedNewCtx, mac, sqn⟩ := by
    rw [newCtxHdr, hhdr]
    rfl
  have hverify : verifySmcNewContextMac ctx (target.sec ctx) (smcSelection ev) =
      some (⟨(target.sec ctx).dlCount.overflow, sqn⟩, false) := by
    unfold verifySmcNewContextMac
    rw [hnew]
    dsimp only
    rw [if_neg (by omega), if_pos hmac.symm]
  unfold onSecurityModeCommand
  simp only [htarget, hdup, hverify, Bool.false_eq_true, if_false]

/-! ## The UE of the packaged configuration -/

/-- Its subscriber's secrets. -/
def exampleSecrets : SimSecrets :=
  (simSecrets exampleCfg).getD ⟨zeroBlock, zeroBlock, Vector.replicate 2 0⟩

theorem simSecrets_exampleCfg : simSecrets exampleCfg = some exampleSecrets := by decide +kernel

/-- Its MM context right after power-on. -/
def exampleMm : UeMmCtx := (run exampleUe [.setRadio true]).mm

/-- The security side of a context. -/
structure SecSide where
  nasSec : UeNasSecurityCtx
  nonCurrent : Option UeNasSecurityCtx := none
  authSqnMs : Option (Vector UInt8 6) := none
  smcLast : Option SmcLast := none
  dlSecHdr : Option DlSecHdr := none
  payload : Bytes := []
  trace : List Obs := []

/-- A context of the packaged configuration with this security side. -/
structure HasSide (ctx : UeContext) (s : SecSide) : Prop where
  cfg : ctx.cfg = exampleCfg
  nasSec : ctx.net.nasSec = s.nasSec
  nonCurrent : ctx.nasSecNonCurrent = s.nonCurrent
  authSqnMs : ctx.authSqnMs = s.authSqnMs
  smcLast : ctx.smcLast = s.smcLast
  dlSecHdr : ctx.dlSecHdr = s.dlSecHdr
  payload : ctx.smcLastPayload = s.payload
  trace : ctx.net.trace = s.trace

/-- The UE listens, has not registered, and has this security side. -/
structure Camped (ctx : UeContext) (s : SecSide) : Prop extends HasSide ctx s where
  radioOn : ctx.radioOn = true
  listening : Listening exampleGnb ctx.net.ran
  mm : ctx.mm = exampleMm
  guti : ctx.guti = []
  t3512 : ctx.t3512Seconds = 0

theorem camped_powerOn : Camped (run exampleUe [.setRadio true]) { nasSec := nasSecNone } where
  cfg := rfl
  radioOn := by decide +kernel
  listening := exampleUe_listening
  mm := rfl
  guti := by decide +kernel
  t3512 := by decide +kernel
  nasSec := by decide +kernel
  nonCurrent := by decide +kernel
  authSqnMs := by decide +kernel
  smcLast := by decide +kernel
  dlSecHdr := by decide +kernel
  payload := by decide +kernel
  trace := by decide +kernel

theorem HasSide.receiving (h : HasSide ctx s) (ran : UeRanTransportCtx) (count : UInt32) :
    HasSide (receiving ctx ran count) s :=
  ⟨h.cfg, h.nasSec, h.nonCurrent, h.authSqnMs, h.smcLast, h.dlSecHdr, h.payload, h.trace⟩

theorem Camped.receiving (h : Camped ctx s) {ran : UeRanTransportCtx}
    (hran : Listening exampleGnb ran) (count : UInt32) : Camped (receiving ctx ran count) s :=
  ⟨h.toHasSide.receiving ran count, h.radioOn, hran, h.mm, h.guti, h.t3512⟩

theorem Camped.noted (h : Camped ctx s) {a : UeContext} : Camped (noteChanges a ctx) s :=
  ⟨⟨h.cfg, h.nasSec, h.nonCurrent, h.authSqnMs, h.smcLast, h.dlSecHdr, h.payload, h.trace⟩,
    h.radioOn, h.listening, h.mm, h.guti, h.t3512⟩

/-- A camped UE handles what it is sent, and stays camped if handling keeps it so. -/
theorem camped_deliver {s' : SecSide} (h : Camped ctx s) (nowMs : UInt64) {pdu : Bytes}
    (hepd : pdu = nasEpd5gmm :: pdu.tail) (hlen : pdu.length ≤ 8192)
    (hnas : ∀ c, Camped c s → Camped (decodeAndProcessNas c pdu) s') :
    Camped (run ctx (deliver exampleGnb nowMs 0 pdu)) s' := by
  have htail : pdu.tail.length < 8192 := by
    rw [hepd, List.length_cons] at hlen
    omega
  obtain ⟨ran, count, hran, hrun⟩ := run_deliver h.listening h.radioOn nowMs htail
  rw [hepd, hrun, ← hepd]
  exact hnas _ (h.receiving hran count)

/-- What holds of a message wherever the security side is the same holds along its delivery
to a camped UE. -/
theorem camped_along_deliver (h : Camped ctx s) (nowMs : UInt64) {pdu : Bytes}
    (hepd : pdu = nasEpd5gmm :: pdu.tail) (hlen : pdu.length ≤ 8192) {P : UeContext → Bytes → Prop}
    (hP : ∀ c, HasSide c s → P c pdu) :
    Transition.Along step (fun c e => ∀ pdu, nasDelivered c e = some pdu → P c pdu) ctx
      (deliver exampleGnb nowMs 0 pdu) := by
  have htail : pdu.tail.length < 8192 := by
    rw [hepd, List.length_cons] at hlen
    omega
  rw [hepd] at hP ⊢
  exact along_deliver h.listening h.radioOn nowMs htail fun ran count =>
    hP _ (h.toHasSide.receiving ran count)

/-- Its whole Registration Request, whatever key set identity it last heard. -/
theorem Camped.registrationRequest (h : Camped ctx s) :
    registrationRequest ctx false = registrationRequest (run exampleUe [.setRadio true]) false := by
  have hngksi : ∀ c : UeContext, c.mm = exampleMm → engineRegNgksi c = 7 := by
    intro c hc
    have htype : engineRegType exampleMm = 1 := by decide +kernel
    unfold engineRegNgksi
    rw [hc]
    split
    · rw [if_neg (not_not.mpr htype)]
    · rfl
  unfold Engine.registrationRequest
  rw [hngksi ctx h.mm, hngksi (run exampleUe [.setRadio true]) rfl, h.cfg, h.mm, h.guti,
    camped_powerOn.cfg, camped_powerOn.guti]
  rfl

/-! ### What each message does to it -/

/-- An answer goes out: under an active context it is protected first. -/
def SecSide.answered (s : SecSide) : SecSide :=
  if s.nasSec.active then
    { s with
      nasSec := { s.nasSec with ulCount := ueNasCountIncrement s.nasSec.ulCount }
      trace := .ulProtected
        ⟨s.nasSec.keys.knasInt, s.nasSec.keys.knasEnc, s.nasSec.ulCount⟩ :: s.trace }
  else s

theorem Camped.answer (h : Camped ctx s) {e : Encoded} (hok : e.ok = true)
    (hpos : 0 < e.written.length) (hmax : e.written.length ≤ 8185) (integrityOnly : Bool) :
    Camped { ctx with net := sendEncoded ctx.net e integrityOnly } s.answered := by
  have hran : (sendEncoded ctx.net e integrityOnly).ran = ctx.net.ran :=
    sendEncoded_of_unserved h.listening.servingAddr e integrityOnly
  have hlisten : Listening exampleGnb (sendEncoded ctx.net e integrityOnly).ran := by
    rw [hran]
    exact h.listening
  unfold SecSide.answered
  cases hact : s.nasSec.active with
  | true =>
    obtain ⟨ran, hsend⟩ := @sendEncoded_of_active ctx.net e (by rw [h.nasSec]; exact hact) hok hpos
      hmax integrityOnly
    rw [hsend] at hlisten ⊢
    simp only [if_true]
    exact ⟨⟨h.cfg, by rw [h.nasSec], h.nonCurrent, h.authSqnMs, h.smcLast, h.dlSecHdr,
      h.payload, by rw [h.nasSec, h.trace]⟩, h.radioOn, hlisten, h.mm, h.guti, h.t3512⟩
  | false =>
    obtain ⟨ran, hsend⟩ := @sendEncoded_of_inactive ctx.net (by rw [h.nasSec]; exact hact) e
      integrityOnly
    rw [hsend] at hlisten ⊢
    simp only [Bool.false_eq_true, if_false]
    exact ⟨h.toHasSide.receiving ran ctx.postSetupPduCount, h.radioOn, hlisten, h.mm, h.guti, h.t3512⟩

/-- The keys of a genuine challenge. -/
def exampleKeys (rand : Block) (sqn : Vector UInt8 6) : UeNasKeys :=
  authKeys exampleCfg (genuineChallenge exampleSecrets rand sqn [0, 0])

/-- The current context once a genuine challenge has been worked out in it. -/
def challenged (sec : UeNasSecurityCtx) (rand : Block) (sqn : Vector UInt8 6) :
    UeNasSecurityCtx :=
  { recordChallenge sec (genuineChallenge exampleSecrets rand sqn [0, 0]) with
    keys := exampleKeys rand sqn }

/-- A genuine challenge: new keys in both contexts, and an answer. -/
def SecSide.authenticated (s : SecSide) (ngksi : UInt8) (rand : Block) (sqn : Vector UInt8 6) :
    SecSide :=
  { s with
    nasSec := challenged s.nasSec rand sqn
    nonCurrent := some (newSecurityContext (challenged s.nasSec rand sqn) (ngksi &&& 0x07))
    authSqnMs := some sqn }.answered

theorem ueNasEncodeAuthResponse_block (res : Block) :
    (ueNasEncodeAuthResponse 64 res.toList).ok = true ∧
      (ueNasEncodeAuthResponse 64 res.toList).written.length = 21 := by
  have hlen : res.toList.length = 16 := by simp
  unfold ueNasEncodeAuthResponse
  rw [if_neg (by omega), if_neg (by omega)]
  refine ⟨rfl, ?_⟩
  simp only [Encoded.done, List.length_append, hlen]
  rfl

theorem camped_authenticate (h : Camped ctx s) (ngksi : UInt8) (rand : Block) {sqn : Vector UInt8 6}
    (hsqn : sqnBehind s.authSqnMs sqn = false) :
    Camped (decodeAndProcessNas ctx
      (authenticationRequest ngksi rand (autnOf exampleSecrets rand sqn)))
      (s.authenticated ngksi rand sqn) := by
  have hplain := unwrapNas_authenticationRequest ctx ngksi rand (autnOf exampleSecrets rand sqn)
  have hsecrets : simSecrets ctx.cfg = some exampleSecrets := by
    rw [h.cfg]
    exact simSecrets_exampleCfg
  obtain ⟨hok, hlen⟩ := ueNasEncodeAuthResponse_block (exampleKeys rand sqn).resStar
  have hevent : dispatchNasEvent ctx (authEvent ngksi rand (autnOf exampleSecrets rand sqn)) =
      onAuthenticationRequest ctx (authEvent ngksi rand (autnOf exampleSecrets rand sqn)) := rfl
  unfold decodeAndProcessNas
  rw [hplain]
  simp only [ueNasDecodeEvent_authenticationRequest, engineProcessNasEvent, hevent]
  rw [onAuthenticationRequest_genuine hsecrets ngksi rand (by rw [h.authSqnMs]; exact hsqn)]
  unfold acceptChallenge
  -- the context just before the answer goes out
  have hbefore : Camped { ctx with
      authSqnMs := some sqn
      regNgksi := some (ngksi &&& 0x07)
      nasSecNonCurrent := some (newSecurityContext (challenged s.nasSec rand sqn) (ngksi &&& 0x07))
      net := { ctx.net with nasSec := challenged s.nasSec rand sqn } }
      { s with
        nasSec := challenged s.nasSec rand sqn
        nonCurrent := some (newSecurityContext (challenged s.nasSec rand sqn) (ngksi &&& 0x07))
        authSqnMs := some sqn } :=
    ⟨⟨h.cfg, rfl, rfl, rfl, h.smcLast, h.dlSecHdr, h.payload, h.trace⟩, h.radioOn, h.listening,
      h.mm, h.guti, h.t3512⟩
  have hafter := hbefore.answer hok (by omega) (by omega) false
  simp only [h.cfg, h.nasSec]
  exact ⟨⟨rfl, hafter.nasSec, hafter.nonCurrent, hafter.authSqnMs, hafter.smcLast, hafter.dlSecHdr,
    hafter.payload, hafter.trace⟩, hafter.radioOn, hafter.listening, hafter.mm, hafter.guti,
    hafter.t3512⟩

/-- NEA0 and NIA2. -/
def exampleSelection (ngksi : UInt8) : SmcSelection := ⟨.nea0, .nia2, ngksi⟩

/-- The MAC of a first Security Mode Command, at COUNT zero. -/
def smcMacOf (kamf : Key256) (ngksi : UInt8) : UInt32 :=
  ueNasComputeMac .nia2 (ueNasCountValue ⟨0, 0⟩) 1 dirDownlink (knasIntOf kamf 2)
    (0 :: smcBody 0x02 ngksi)

/-- A first Security Mode Command for NEA0 and NIA2. -/
def securityModeCommand (kamf : Key256) (ngksi : UInt8) : Bytes :=
  protectedPdu nasShtIntegrityProtectedNewCtx (smcMacOf kamf ngksi) 0 (smcBody 0x02 ngksi)

/-- The context that a first command takes into use. -/
def taken (sec : UeNasSecurityCtx) (ngksi : UInt8) : UeNasSecurityCtx :=
  { smcInstalled sec (exampleSelection ngksi) false with ulCount := UeNasCount.zero }

/-- A first command: the new context is current, and the command is answered under it. -/
def SecSide.secured (s : SecSide) (sec : UeNasSecurityCtx) (ngksi : UInt8) : SecSide :=
  { s with
    nasSec := taken sec ngksi
    nonCurrent := none
    smcLast := some ⟨smcMacOf sec.keys.kamf ngksi, 0, 2, ngksi⟩
    dlSecHdr := some ⟨nasShtIntegrityProtectedNewCtx, smcMacOf sec.keys.kamf ngksi, 0⟩
    payload := smcBody 0x02 ngksi
    trace := .dlVerified ⟨knasIntOf sec.keys.kamf 2, ⟨0, 0⟩, 1, smcMacOf sec.keys.kamf ngksi,
      0 :: smcBody 0x02 ngksi⟩ :: s.trace }.answered

theorem smcFingerprint_exampleSelection (h : DlSecHdr) (ngksi : UInt8) :
    smcFingerprint h (exampleSelection ngksi) = ⟨h.mac, h.sqn, 2, ngksi⟩ := by
  have halgs : (exampleSelection ngksi).algs = 2 := by
    simp [exampleSelection, SmcSelection.algs, UeNasCipheringAlg.toUInt8,
      UeNasIntegrityAlg.toUInt8]
  rw [smcFingerprint, halgs]
  rfl

theorem smcSelection_smcEvent {ngksi : UInt8} (h : ngksi &&& 0x07 = ngksi) :
    smcSelection (smcEvent 0x02 ngksi) = exampleSelection ngksi := by
  show (⟨.nea0, .nia2, ngksi &&& 0x07⟩ : SmcSelection) = _
  rw [h]
  rfl

/-- The UE's answer to a command fits its buffer. -/
theorem Camped.smcComplete_ok (h : Camped ctx s) :
    (ueNasEncodeSecurityModeComplete 64 (Engine.registrationRequest ctx false).pdu?).ok = true ∧
      0 < (ueNasEncodeSecurityModeComplete 64
        (Engine.registrationRequest ctx false).pdu?).written.length ∧
      (ueNasEncodeSecurityModeComplete 64
        (Engine.registrationRequest ctx false).pdu?).written.length ≤ 8185 := by
  rw [h.registrationRequest]
  decide +kernel

/-- The header of a command that creates a context, and its octets, as they are cached. -/
def SecSide.commanded (s : SecSide) (sec : UeNasSecurityCtx) (ngksi : UInt8) : SecSide :=
  { s with
    dlSecHdr := some ⟨nasShtIntegrityProtectedNewCtx, smcMacOf sec.keys.kamf ngksi, 0⟩
    payload := smcBody 0x02 ngksi }

/-- The command is installed and remembered, and its answer has not gone out yet. -/
def SecSide.installed (s : SecSide) (sec : UeNasSecurityCtx) (ngksi : UInt8) : SecSide :=
  { s.commanded sec ngksi with
    nasSec := taken sec ngksi
    nonCurrent := none
    smcLast := some ⟨smcMacOf sec.keys.kamf ngksi, 0, 2, ngksi⟩
    trace := .dlVerified ⟨knasIntOf sec.keys.kamf 2, ⟨0, 0⟩, 1, smcMacOf sec.keys.kamf ngksi,
      0 :: smcBody 0x02 ngksi⟩ :: s.trace }

theorem camped_installed {c : UeContext} {sec : UeNasSecurityCtx} {ngksi : UInt8}
    (hc : Camped c (s.commanded sec ngksi)) (hcount : sec.dlCount = ⟨0, 0⟩) :
    Camped (smcRemember (smcInstall c (.nonCurrent sec) (exampleSelection ngksi)
      ⟨(SmcTarget.sec c (.nonCurrent sec)).dlCount.overflow, 0⟩ false) (exampleSelection ngksi))
      (s.installed sec ngksi) := by
  have hnew : newCtxHdr c =
      some ⟨nasShtIntegrityProtectedNewCtx, smcMacOf sec.keys.kamf ngksi, 0⟩ := by
    rw [newCtxHdr, hc.dlSecHdr]
    rfl
  have hkept : newCtxHdr (smcInstall c (.nonCurrent sec) (exampleSelection ngksi)
      ⟨(SmcTarget.sec c (.nonCurrent sec)).dlCount.overflow, 0⟩ false) =
        some ⟨nasShtIntegrityProtectedNewCtx, smcMacOf sec.keys.kamf ngksi, 0⟩ := hnew
  unfold smcRemember
  rw [hkept]
  simp only [smcFingerprint_exampleSelection]
  refine ⟨⟨hc.cfg, rfl, rfl, hc.authSqnMs, rfl, hc.dlSecHdr, hc.payload, ?_⟩, hc.radioOn,
    hc.listening, hc.mm, hc.guti, hc.t3512⟩
  simp only [smcInstall, SmcTarget.sec, hcount, hnew, hc.payload, hc.trace, logVerified]
  rfl

theorem camped_secure {sec : UeNasSecurityCtx} {ngksi : UInt8} (h : Camped ctx s)
    (hngksi : ngksi &&& 0x07 = ngksi) (hnon : s.nonCurrent = some sec) (hsec : sec.ngksi = ngksi)
    (hcount : sec.dlCount = ⟨0, 0⟩) (hcur : s.nasSec.active = true → s.nasSec.ngksi ≠ ngksi)
    (hlast : ∀ l, s.smcLast = some l → l.ngksi ≠ ngksi) :
    Camped (decodeAndProcessNas ctx (securityModeCommand sec.keys.kamf ngksi))
      (s.secured sec ngksi) := by
  -- the context with the parts of the header in it
  obtain ⟨c, hc, hunwrap⟩ : ∃ c, Camped c (s.commanded sec ngksi) ∧
      unwrapNas ctx (securityModeCommand sec.keys.kamf ngksi) = some (c, smcBody 0x02 ngksi) := by
    refine ⟨_, ?_, @unwrapNas_newCtx ctx (smcMacOf sec.keys.kamf ngksi) 0 (smcBody 0x02 ngksi)
      (by rw [smcBody_length]; omega) (by rw [smcBody_length]; omega)⟩
    exact ⟨⟨h.cfg, h.nasSec, h.nonCurrent, h.authSqnMs, h.smcLast, rfl, rfl, h.trace⟩,
      h.radioOn, h.listening, h.mm, h.guti, h.t3512⟩
  have hsel := smcSelection_smcEvent hngksi
  have htarget : smcTarget c (smcSelection (smcEvent 0x02 ngksi)).ngksi =
      some (.nonCurrent sec) := by
    rw [hsel]
    unfold smcTarget exampleSelection
    rw [hc.nasSec, hc.nonCurrent.trans hnon, if_neg (fun hcond => hcur hcond.1 hcond.2)]
    simp only [hsec, if_true]
  have hdup : smcDuplicate c (smcSelection (smcEvent 0x02 ngksi)) = false := by
    rw [hsel]
    unfold smcDuplicate
    split
    · rename_i hdr _
      rw [hc.smcLast, decide_eq_false_iff_not]
      intro heq
      exact hlast _ heq rfl
    · rfl
  have hpayload : c.smcLastPayload = smcBody 0x02 ngksi := hc.payload
  have hgenuine := onSecurityModeCommand_genuine htarget hc.dlSecHdr hdup
    (by rw [hpayload, smcBody_length]; omega) (by rw [hpayload, smcBody_length]; omega)
    (by rw [hsel, hpayload]; simp only [SmcTarget.sec, hcount]; rfl)
  unfold decodeAndProcessNas
  rw [hunwrap]
  simp only [ueNasDecodeEvent_smcBody, engineProcessNasEvent]
  have hevent : dispatchNasEvent c (smcEvent 0x02 ngksi) =
      onSecurityModeCommand c (smcEvent 0x02 ngksi) := rfl
  rw [hevent, hgenuine, hsel]
  have hbefore := camped_installed hc hcount
  obtain ⟨hok, hpos, hmax⟩ := hbefore.smcComplete_ok
  have hafter := hbefore.answer hok hpos hmax true
  exact hafter.noted

/-- Identity Request for the SUCI. -/
def identityRequest : Bytes := [nasEpd5gmm, 0x00, nasMsgIdentityRequest, 0x01]

/-- The MAC of a protected Identity Request with sequence number `sqn`. -/
def identityMac (sec : UeNasSecurityCtx) (sqn : UInt8) : UInt32 :=
  ueNasComputeMac .nia2 (ueNasCountValue (dlCountEstimate sec.dlCount sqn)) sec.bearer dirDownlink
    sec.keys.knasInt (sqn :: identityRequest)

def protectedIdentityRequest (sec : UeNasSecurityCtx) (sqn : UInt8) : Bytes :=
  protectedPdu nasShtIntegrityProtectedCiphered (identityMac sec sqn) sqn identityRequest

/-- The log entry of a protected Identity Request. -/
def identityVerified (sec : UeNasSecurityCtx) (sqn : UInt8) : DlVerified :=
  ⟨sec.keys.knasInt, dlCountEstimate sec.dlCount sqn, sec.bearer, identityMac sec sqn,
    sqn :: identityRequest⟩

/-- A protected Identity Request: its COUNT is stored, and it is answered. -/
def SecSide.identified (s : SecSide) (sqn : UInt8) : SecSide :=
  { s with
    nasSec := { s.nasSec with dlCount := dlCountEstimate s.nasSec.dlCount sqn }
    dlSecHdr := some ⟨nasShtIntegrityProtectedCiphered, identityMac s.nasSec sqn, sqn⟩
    trace := .dlVerified (identityVerified s.nasSec sqn) :: s.trace }.answered

theorem camped_identify (h : Camped ctx s) (hact : s.nasSec.active = true)
    (hint : s.nasSec.intAlg = .nia2) (henc : s.nasSec.encAlg = .nea0) (sqn : UInt8) :
    Camped (decodeAndProcessNas ctx (protectedIdentityRequest s.nasSec sqn)) (s.identified sqn) := by
  have hunwrap := @unwrapNas_protectedDl ctx nasShtIntegrityProtectedCiphered (by decide) (by decide)
    (identityMac s.nasSec sqn) sqn identityRequest (by rw [h.nasSec]; exact hact)
    (by rw [h.nasSec]; exact hint) (by rw [h.nasSec]; exact henc) (by rw [h.nasSec]; rfl)
  have hdecode : ueNasDecodeEvent identityRequest = some { type := .identityRequest } := rfl
  have hok : ∀ cfg, cfg = exampleCfg →
      (ueNasEncodeIdentityResponse 64 cfg.sim.imsi cfg.network.mcc cfg.network.mnc).ok = true ∧
      0 < (ueNasEncodeIdentityResponse 64 cfg.sim.imsi cfg.network.mcc
        cfg.network.mnc).written.length ∧
      (ueNasEncodeIdentityResponse 64 cfg.sim.imsi cfg.network.mcc
        cfg.network.mnc).written.length ≤ 8185 := by
    rintro _ rfl
    decide +kernel
  obtain ⟨hok, hpos, hmax⟩ := hok ctx.cfg h.cfg
  unfold decodeAndProcessNas protectedIdentityRequest
  rw [hunwrap]
  simp only [hdecode, engineProcessNasEvent]
  have hbefore : Camped { ctx with
      net := { ctx.net with
        nasSec := { ctx.net.nasSec with dlCount := dlCountEstimate ctx.net.nasSec.dlCount sqn }
        trace := .dlVerified ⟨ctx.net.nasSec.keys.knasInt,
          dlCountEstimate ctx.net.nasSec.dlCount sqn, ctx.net.nasSec.bearer,
          identityMac s.nasSec sqn, sqn :: identityRequest⟩ :: ctx.net.trace }
      dlSecHdr := some ⟨nasShtIntegrityProtectedCiphered, identityMac s.nasSec sqn, sqn⟩ }
      { s with
        nasSec := { s.nasSec with dlCount := dlCountEstimate s.nasSec.dlCount sqn }
        dlSecHdr := some ⟨nasShtIntegrityProtectedCiphered, identityMac s.nasSec sqn, sqn⟩
        trace := .dlVerified (identityVerified s.nasSec sqn) :: s.trace } := by
    refine ⟨⟨h.cfg, ?_, h.nonCurrent, h.authSqnMs, h.smcLast, rfl, h.payload, ?_⟩, h.radioOn,
      h.listening, h.mm, h.guti, h.t3512⟩
    · simp only [h.nasSec]
    · simp only [h.nasSec, h.trace, identityVerified]
  have hafter := hbefore.answer hok hpos hmax false
  exact hafter.noted

/-! ### A first security context -/

/-- Power-on, a genuine challenge, and a first Security Mode Command for key set 1. -/
def secureRun (rand : Block) (sqn : Vector UInt8 6) : List Step :=
  [.setRadio true] ++
    deliver exampleGnb 1 0 (authenticationRequest 1 rand (autnOf exampleSecrets rand sqn)) ++
    deliver exampleGnb 2 0 (securityModeCommand (exampleKeys rand sqn).kamf 1)

/-- The security side it leads to. -/
def securedSide (rand : Block) (sqn : Vector UInt8 6) : SecSide :=
  (SecSide.authenticated { nasSec := nasSecNone } 1 rand sqn).secured
    (newSecurityContext (challenged nasSecNone rand sqn) 1) 1

theorem authenticationRequest_length (autn : Block) :
    (authenticationRequest ngksi rand autn).length = 42 := by simp [authenticationRequest]

theorem camped_then_authenticate {ctx : UeContext} {s : SecSide} {es : List Step}
    (h : Camped (run ctx es) s) (nowMs : UInt64) (ngksi : UInt8) (rand : Block)
    {sqn : Vector UInt8 6} (hsqn : sqnBehind s.authSqnMs sqn = false) :
    Camped (run ctx (es ++ deliver exampleGnb nowMs 0
      (authenticationRequest ngksi rand (autnOf exampleSecrets rand sqn))))
      (s.authenticated ngksi rand sqn) := by
  rw [run, Transition.run_append]
  refine camped_deliver h nowMs rfl ?_ fun c hc => camped_authenticate hc ngksi rand hsqn
  rw [authenticationRequest_length]
  omega

theorem camped_then_secure {ctx : UeContext} {s : SecSide} {es : List Step}
    {sec : UeNasSecurityCtx} {ngksi : UInt8} (h : Camped (run ctx es) s) (nowMs : UInt64)
    (hngksi : ngksi &&& 0x07 = ngksi) (hnon : s.nonCurrent = some sec) (hsec : sec.ngksi = ngksi)
    (hcount : sec.dlCount = ⟨0, 0⟩) (hcur : s.nasSec.active = true → s.nasSec.ngksi ≠ ngksi)
    (hlast : ∀ l, s.smcLast = some l → l.ngksi ≠ ngksi) :
    Camped (run ctx (es ++ deliver exampleGnb nowMs 0 (securityModeCommand sec.keys.kamf ngksi)))
      (s.secured sec ngksi) := by
  rw [run, Transition.run_append]
  refine camped_deliver h nowMs rfl ?_ fun c hc =>
    camped_secure hc hngksi hnon hsec hcount hcur hlast
  rw [securityModeCommand, protectedPdu_length, smcBody_length]
  omega

theorem camped_then_identify {ctx : UeContext} {s : SecSide} {es : List Step}
    (h : Camped (run ctx es) s) (nowMs : UInt64) (hact : s.nasSec.active = true)
    (hint : s.nasSec.intAlg = .nia2) (henc : s.nasSec.encAlg = .nea0) (sqn : UInt8) :
    Camped (run ctx (es ++ deliver exampleGnb nowMs 0 (protectedIdentityRequest s.nasSec sqn)))
      (s.identified sqn) := by
  rw [run, Transition.run_append]
  refine camped_deliver h nowMs rfl ?_ fun c hc => camped_identify hc hact hint henc sqn
  rw [protectedIdentityRequest, protectedPdu_length]
  decide

/-- The first two parts of `secureRun`. -/
theorem camped_authenticated :
    Camped (run exampleUe ([.setRadio true] ++ deliver exampleGnb 1 0
      (authenticationRequest 1 rand (autnOf exampleSecrets rand sqn))))
      (SecSide.authenticated { nasSec := nasSecNone } 1 rand sqn) :=
  camped_then_authenticate camped_powerOn 1 1 rand rfl

theorem camped_secureRun : Camped (run exampleUe (secureRun rand sqn)) (securedSide rand sqn) := by
  have hauth := camped_authenticated rand sqn
  have hside : SecSide.authenticated { nasSec := nasSecNone } 1 rand sqn =
      { nasSec := challenged nasSecNone rand sqn
        nonCurrent := some (newSecurityContext (challenged nasSecNone rand sqn) 1)
        authSqnMs := some sqn } := by
    rw [SecSide.authenticated, SecSide.answered, if_neg (by exact nofun)]
    rfl
  have hsecure := @camped_then_secure _ _ _ (newSecurityContext (challenged nasSecNone rand sqn) 1)
    1 hauth 2 (by decide) (by rw [hside]) rfl rfl (by rw [hside]; exact nofun)
    (by rw [hside]; exact nofun)
  exact hsecure

/-- The context in use at its end. -/
theorem securedSide_nasSec :
    (securedSide rand sqn).nasSec =
      { taken (newSecurityContext (challenged nasSecNone rand sqn) 1) 1 with
        ulCount := ⟨0, 1⟩ } := by
  have hact : (taken (newSecurityContext (challenged nasSecNone rand sqn) 1) 1).active = true := rfl
  rw [securedSide, SecSide.secured, SecSide.answered, if_pos hact]
  rfl

/-- The sequence number 5. -/
def exampleSqn : Vector UInt8 6 := #v[0, 0, 0, 0, 0, 5]

/-- The UE of the packaged configuration with a first security context. -/
def securedUe : UeContext := run exampleUe (secureRun zeroBlock exampleSqn)

theorem securedUe_reachable : Reachable securedUe :=
  exampleUe_reachable (secureRun zeroBlock exampleSqn)

theorem securedUe_camped : Camped securedUe (securedSide zeroBlock exampleSqn) :=
  camped_secureRun zeroBlock exampleSqn

theorem securedUe_authSqnMs : securedUe.authSqnMs = some exampleSqn := by
  rw [securedUe_camped.authSqnMs]
  rfl

theorem securedUe_secured :
    securedUe.net.nasSec.active = true ∧ securedUe.net.nasSec.intAlg = .nia2 := by
  rw [securedUe_camped.nasSec, securedSide_nasSec]
  exact ⟨rfl, rfl⟩

/-- The context in use at the end of `secureRun`. -/
def securedSec : UeNasSecurityCtx := (securedSide zeroBlock exampleSqn).nasSec

/-- After it, a protected Identity Request with sequence number 1. -/
def identifiedRun : List Step :=
  secureRun zeroBlock exampleSqn ++
    deliver exampleGnb 3 0 (protectedIdentityRequest securedSec 1)

theorem camped_identifiedRun :
    Camped (run exampleUe identifiedRun) ((securedSide zeroBlock exampleSqn).identified 1) :=
  camped_then_identify securedUe_camped 3 rfl rfl rfl 1

/-- The challenge and the command of `identifiedRun`. -/
def firstChallenge : UeNasEvent :=
  authEvent 1 zeroBlock (autnOf exampleSecrets zeroBlock exampleSqn)

def firstCommand : Bytes := securityModeCommand (exampleKeys zeroBlock exampleSqn).kamf 1

/-- The security side once the challenge is answered. -/
def authenticatedSide : SecSide :=
  { nasSec := challenged nasSecNone zeroBlock exampleSqn
    nonCurrent := some (newSecurityContext (challenged nasSecNone zeroBlock exampleSqn) 1)
    authSqnMs := some exampleSqn }

/-- The security side once the command has been taken apart. -/
def commandedSide : SecSide :=
  { authenticatedSide with
    dlSecHdr := some ⟨nasShtIntegrityProtectedNewCtx, smcMacOf (exampleKeys zeroBlock exampleSqn).kamf 1, 0⟩
    payload := smcBody 0x02 1 }

/-- `identifiedRun` is guarded if its three messages are. -/
theorem guarded_identifiedRun {unwrap : UeContext → Bytes → Prop}
    {handle : UeContext → UeNasEvent → Prop}
    (hplain : ∀ c pdu, isProtected pdu = false → unwrap c pdu)
    (hchallenge : ∀ c, HasSide c { nasSec := nasSecNone } → handle c firstChallenge)
    (hnewCtx : ∀ c, HasSide c authenticatedSide → unwrap c firstCommand)
    (hcommand : ∀ c, HasSide c commandedSide → handle c (smcEvent 0x02 1))
    (hprotected : ∀ c, HasSide c (securedSide zeroBlock exampleSqn) →
      unwrap c (protectedIdentityRequest securedSec 1))
    (hrequest : ∀ c, handle c { type := .identityRequest }) :
    Guarded unwrap handle exampleUe identifiedRun := by
  unfold Guarded
  rw [identifiedRun, secureRun, Transition.along_append, Transition.along_append,
    Transition.along_append]
  refine ⟨⟨⟨⟨nofun, trivial⟩, ?_⟩, ?_⟩, ?_⟩
  · refine camped_along_deliver camped_powerOn 1 rfl (by rw [authenticationRequest_length]; omega) ?_
    intro c hc
    exact messageGuard_of (hplain c _ (by simp [isProtected, authenticationRequest, nasShtNotProtected]))
      (unwrapNas_authenticationRequest _ _ _ _) (ueNasDecodeEvent_authenticationRequest _ _ _)
      (hchallenge c hc)
  · refine camped_along_deliver (camped_authenticated zeroBlock exampleSqn) 2 rfl
      (by rw [securityModeCommand, protectedPdu_length, smcBody_length]; omega) ?_
    intro c hc
    have hc : HasSide c authenticatedSide := hc
    refine messageGuard_of (hnewCtx c hc) (unwrapNas_newCtx c _ _ (by rw [smcBody_length]; omega)
      (by rw [smcBody_length]; omega)) (ueNasDecodeEvent_smcBody _ _) (hcommand _ ?_)
    exact ⟨hc.cfg, hc.nasSec, hc.nonCurrent, hc.authSqnMs, hc.smcLast, rfl, rfl, hc.trace⟩
  · refine camped_along_deliver securedUe_camped 3 rfl
      (by rw [protectedIdentityRequest, protectedPdu_length]; decide) ?_
    intro c hc
    have hsec : c.net.nasSec = securedSec := hc.nasSec
    refine messageGuard_of (hprotected c hc)
      (unwrapNas_protectedDl (by decide) (by decide) ?_ ?_ ?_ ?_) rfl (hrequest _)
    · rw [hsec]
      rfl
    · rw [hsec]
      rfl
    · rw [hsec]
      rfl
    · rw [hsec]
      rfl

end VirtualLte.Engine
