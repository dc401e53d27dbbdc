import VirtualLte.Lib.Tlv
import VirtualLte.Safety.Aka
import VirtualLte.Safety.UplinkFidelity

/-!
# Resynchronisation

A challenge that is genuine but behind is answered with an Authentication Failure that carries
AUTS.  `homeResync` is what the home network does with that message (TS 33.102 6.3.5): it takes
the parameter out, removes the mask with f5* and checks f1* over a zero AMF.

* `autsOf_homeResync`: the network obtains the stored sequence number.
* `OnTheWire` says where it reads the message: in the datagram that goes out, under the current
  context if there is one (`engineSendNasUplink_onTheWire`).
* `resynchronised` puts the exchange together, up to the next challenge.
-/

namespace VirtualLte.Engine

open Crypto Nas Ran Rrc Rls

/-! ## The home network -/

/-- The authentication failure parameter of an Authentication Failure with cause 21. -/
def authFailureParameter : Bytes → Option Bytes
  | epd :: sht :: type :: cause :: ies =>
    if epd = nasEpd5gmm ∧ sht = nasShtNotProtected ∧ type = nasMsgAuthenticationFailure ∧
        cause = 0x15 then
      (Tlv.readAll (fun _ => .short) ies.length ies).bind (Tlv.value? 0x30)
    else none
  | _ => none

/-- The sequence number that AUTS hides. -/
def unmaskedSqn (secrets : SimSecrets) (rand : Block) (auts : Bytes) : Vector UInt8 6 :=
  Vector.zipWith (· ^^^ ·) (vecOf 6 auts)
    (milenageF5Star (ueAes128EcbEncrypt secrets.k) secrets.opc rand)

/-- The sequence number the home network takes over from an Authentication Failure, if the code
in it is right. -/
def homeResync (secrets : SimSecrets) (rand : Block) (nas : Bytes) : Option (Vector UInt8 6) :=
  (authFailureParameter nas).bind fun auts =>
    if auts.length = 14 ∧
        milenageF1Star (ueAes128EcbEncrypt secrets.k) secrets.opc rand
          (unmaskedSqn secrets rand auts) (Vector.replicate 2 0) = vecOf 8 (auts.drop 6) then
      some (unmaskedSqn secrets rand auts)
    else none

/-- The message of a synchronisation failure. -/
def synchFailureMessage (auts : Bytes) : Bytes :=
  [nasEpd5gmm, nasShtNotProtected, nasMsgAuthenticationFailure, 0x15, 0x30, 14] ++ auts

theorem authFailureParameter_synchFailure {auts : Bytes} (h : auts.length = 14) :
    authFailureParameter (synchFailureMessage auts) = some auts := by
  have hwf : ∀ e ∈ [Tlv.Element.mk 0x30 auts], e.Wf (fun _ => .short) := by
    rw [List.forall_mem_singleton]
    show auts.length < 256
    omega
  have hies : Tlv.octets (fun _ => .short) [⟨0x30, auts⟩] = [0x30, 14] ++ auts := by
    rw [Tlv.octets_cons, Tlv.octets_nil, List.append_nil, Tlv.Element.octets, h]
    rfl
  have hread := Tlv.readAll_octets hwf (Nat.le_refl _)
  rw [hies] at hread
  rw [synchFailureMessage, authFailureParameter.eq_def]
  simp only [List.cons_append, List.nil_append, and_self, if_true] at hread ⊢
  rw [hread]
  rfl

/-- The network undoes the mask of `autsOf` and agrees on its code. -/
theorem autsOf_homeResync (secrets : SimSecrets) (ch : AuthChallenge) (sqnMs : Vector UInt8 6) :
    homeResync secrets ch.rand (synchFailureMessage (autsOf secrets ch sqnMs)) = some sqnMs := by
  have hauts : autsOf secrets ch sqnMs =
      (Vector.zipWith (· ^^^ ·) sqnMs
        (milenageF5Star (ueAes128EcbEncrypt secrets.k) secrets.opc ch.rand)).toList ++
      (milenageF1Star (ueAes128EcbEncrypt secrets.k) secrets.opc ch.rand sqnMs
        (Vector.replicate 2 0)).toList := by
    simp only [autsOf, ueMilenageCompute_akStar, ueMilenageCompute_macS]
  have hlen : (autsOf secrets ch sqnMs).length = 14 := by
    rw [hauts, List.length_append, Vector.length_toList, Vector.length_toList]
  have hsqn : unmaskedSqn secrets ch.rand (autsOf secrets ch sqnMs) = sqnMs := by
    rw [unmaskedSqn, hauts, vecOf_toList_append]
    exact zipWith_xor_cancel _ _
  have hmac : vecOf 8 ((autsOf secrets ch sqnMs).drop 6) =
      milenageF1Star (ueAes128EcbEncrypt secrets.k) secrets.opc ch.rand sqnMs
        (Vector.replicate 2 0) := by
    rw [hauts, List.drop_left' Vector.length_toList, vecOf_toList]
  rw [homeResync, authFailureParameter_synchFailure hlen, Option.bind_some, hsqn,
    if_pos ⟨hlen, hmac.symm⟩]

/-! ## What is sent -/

/-- SNOW 3G is never selected. -/
structure SourceAlgs (sec : UeNasSecurityCtx) : Prop where
  intAlg : sec.intAlg ≠ .nia1
  encAlg : sec.encAlg ≠ .nea1

theorem SourceAlgs.sent {net net' : UeNet} (h : SentFrom net net') (halgs : SourceAlgs net.nasSec) :
    SourceAlgs net'.nasSec := by
  obtain ⟨ul, hul⟩ := h.nasSec
  rw [hul]
  exact ⟨halgs.intAlg, halgs.encAlg⟩

theorem smcSelection_sourceAlgs (ev : UeNasEvent) :
    (smcSelection ev).intAlg ≠ .nia1 ∧ (smcSelection ev).encAlg ≠ .nea1 := by
  constructor
  · intro h
    rcases smcSelection_intAlg ev with halg | halg
    · cases halg.symm.trans h
    · cases halg.symm.trans h
  · unfold smcSelection
    cases ev.secAlgs with
    | none => exact nofun
    | some a =>
      simp only [Option.map_some, Option.getD_some, clampEncAlg]
      split
      · exact nofun
      · exact nofun

theorem sourceAlgs_invariant :
    SecurityInvariant (fun ctx => SourceAlgs ctx.net.nasSec) (fun _ _ => True) fun _ _ => True where
  quiet := fun hquiet h => h.sent hquiet.sent
  clear := fun _ => ⟨nofun, nofun⟩
  unwrapped := by
    intro ctx c pdu plain h _ hunwrapped
    cases hunwrapped with
    | plain hprot heq hplain =>
      rw [heq]
      exact h
    | newCtx hprot hsht hlen heq hplain =>
      rw [heq]
      exact h
    | verified hprot hsht hact hmac heq =>
      rw [heq]
      exact ⟨h.intAlg, h.encAlg⟩
  challenge := by
    intro ctx ctx' ev h _ _ houtcome
    cases houtcome with
    | ignored hnone heq =>
      rw [heq]
      exact h
    | refused ch hnone hsent hnon hlast => exact SourceAlgs.sent hsent ⟨h.intAlg, h.encAlg⟩
    | accepted ch hsome hsent hnon hlast => exact SourceAlgs.sent hsent ⟨h.intAlg, h.encAlg⟩
  command := by
    intro ctx ctx' ev h _ _ houtcome
    obtain ⟨hint, henc⟩ := smcSelection_sourceAlgs ev
    cases houtcome with
    | refused heq =>
      rw [heq]
      exact h
    | repeated hdup heq =>
      rw [heq]
      exact h.sent (smcComplete_sent ctx _)
    | installed target c count0 htarget hdup hverify heq =>
      rw [heq]
      refine SourceAlgs.sent (smcComplete_sent _ _) ?_
      cases target with
      | current => exact ⟨hint, henc⟩
      | nonCurrent sec => exact ⟨hint, henc⟩
  unwrap_receiving := fun _ _ h => h
  handle_receiving := fun _ _ h => h

theorem Reachable.sourceAlgs {ctx : UeContext} (h : Reachable ctx) : SourceAlgs ctx.net.nasSec := by
  obtain ⟨ctx₀, es, ⟨cfg, os, rfl⟩, rfl⟩ := h
  refine sourceAlgs_invariant.run ⟨nofun, nofun⟩ ?_
  exact Transition.along_of_forall (fun _ _ _ _ => ⟨trivial, fun _ _ _ _ _ => trivial⟩) _ es

/-- Where the network finds a message: under the current context if it is active, in the clear
otherwise. -/
def OnTheWire (snow : Snow3g) (ctx : UeContext) (nas dgram : Bytes) : Prop :=
  if ctx.net.nasSec.active then
    CarriesNas snow ctx.net.nasSec ctx.net.ran nasShtIntegrityProtectedCiphered nas dgram
  else
    ∃ rrc, ueRlsDecode dgram = some (.pduTx ctx.net.ran.sti .rrc ctx.net.ran.nextPduId
      ueRrcChannelUlDcch rrc) ∧ ulInfoTransferNas rrc = some nas

theorem engineSendNasUplink_onTheWire (snow : Snow3g) {ctx : UeContext} {sec : UeNasSecurityCtx}
    {addr : SockAddrIn} {nas : Bytes} (hsec : sec.active = ctx.net.nasSec.active)
    (hcarries : ∀ dgram, CarriesNas snow sec ctx.net.ran nasShtIntegrityProtectedCiphered nas dgram →
      CarriesNas snow ctx.net.nasSec ctx.net.ran nasShtIntegrityProtectedCiphered nas dgram)
    (halgs : SourceAlgs sec) (haddr : servingAddr ctx.net.ran = some addr) (hpos : 0 < nas.length)
    (hmax : nas.length ≤ 8185) :
    ∃ dgram, OnTheWire snow ctx nas dgram ∧
      (engineSendNasUplink { ctx.net with nasSec := sec } nas false).1.ran.sent =
        sentAfter ctx.net.ran addr dgram := by
  unfold OnTheWire
  cases hact : ctx.net.nasSec.active with
  | true =>
    obtain ⟨dgram, hdgram, hsent⟩ := @engineSendNasUplink_carried snow
      { ctx.net with nasSec := sec } addr nas (hsec.trans hact) halgs.intAlg halgs.encAlg haddr
      hpos hmax false
    exact ⟨dgram, hcarries dgram hdgram, hsent⟩
  | false =>
    have hinactive : sec.active = false := hsec.trans hact
    have hplain : engineSendNasUplink { ctx.net with nasSec := sec } nas false =
        sendInRrc { ctx.net with nasSec := sec } nas := by
      unfold engineSendNasUplink sendUplink
      rw [if_neg (by omega), hinactive]
      rfl
    obtain ⟨rrc, dgram, hnas, hdecode, hsent⟩ := sendInRrc_sent_nas
      { ctx.net with nasSec := sec } haddr hpos (by omega)
    rw [hplain]
    exact ⟨dgram, ⟨rrc, hdecode, hnas⟩, hsent⟩

/-- A challenge that is behind is answered with AUTS over the stored number, which is kept. -/
theorem engineProcessNasEvent_synchFailure {ctx : UeContext} {ev : UeNasEvent}
    {secrets : SimSecrets} {ch : AuthChallenge} {sqnMs : Vector UInt8 6}
    (htype : ev.type = .authenticationRequest)
    (hchallenge : challengeOf ctx.cfg ev = some (secrets, ch)) (hms : ctx.authSqnMs = some sqnMs)
    (hold : authVerdict ctx.authSqnMs ch = .synchFailure) :
    (engineProcessNasEvent ctx ev).net =
        (engineSendNasUplink { ctx.net with nasSec := recordChallenge ctx.net.nasSec ch }
          (synchFailureMessage (autsOf secrets ch sqnMs)) false).1 ∧
      (engineProcessNasEvent ctx ev).authSqnMs = some sqnMs ∧
      (engineProcessNasEvent ctx ev).cfg = ctx.cfg := by
  obtain ⟨auts, hauts⟩ := autsOf_toList secrets ch sqnMs
  have hprocess : engineProcessNasEvent ctx ev =
      noteChanges ctx (onAuthenticationRequest ctx ev) := by
    simp only [engineProcessNasEvent, dispatchNasEvent, htype]
  have hanswer : onAuthenticationRequest ctx ev = { ctx with
      net := sendEncoded { ctx.net with nasSec := recordChallenge ctx.net.nasSec ch }
        (ueNasEncodeAuthFailure 32 0x15 (autsOf secrets ch sqnMs)) false } := by
    unfold onAuthenticationRequest
    rw [hchallenge]
    dsimp only
    rw [hold]
    simp only [hms, Option.getD_some]
  rw [hprocess, hanswer, hauts, sendEncoded_synchFailure]
  exact ⟨rfl, hms, rfl⟩

/-! ## The next challenge -/

/-- No step of the run accepts a challenge. -/
def NoneAccepted (ctx : UeContext) (es : List Step) : Prop :=
  Transition.Along step (fun c e => acceptedSqn c e = none) ctx es

/-- Unless a challenge is accepted, the stored number stays or is forgotten. -/
theorem run_sqnMs {ctx : UeContext} {sqnMs : Vector UInt8 6} (hms : ctx.authSqnMs = some sqnMs)
    {es : List Step} (h : NoneAccepted ctx es) :
    (run ctx es).cfg = ctx.cfg ∧
      ((run ctx es).authSqnMs = some sqnMs ∨ (run ctx es).authSqnMs = none) := by
  refine Transition.run_invariant
    (I := fun c => c.cfg = ctx.cfg ∧ (c.authSqnMs = some sqnMs ∨ c.authSqnMs = none))
    (fun c e hc hnone => ⟨(step_cfg c e).trans hc.1, ?_⟩) ⟨rfl, .inl hms⟩ h
  rw [step_authSqnMs, hnone, Option.none_or]
  split
  · exact .inr rfl
  · exact hc.2

/-- The challenge is answered with a response, and its number stored. -/
def AcceptsChallenge (ctx : UeContext) (ev : UeNasEvent) (sqn : Vector UInt8 6) : Prop :=
  (∃ resStar : Block, HandsOver ctx (engineProcessNasEvent ctx ev)
    ([nasEpd5gmm, nasShtNotProtected, nasMsgAuthenticationResponse, 0x2D, 16] ++
      resStar.toList)) ∧
    (engineProcessNasEvent ctx ev).authSqnMs = some sqn

/-- A genuine challenge above the stored number is accepted. -/
theorem acceptsChallenge_above {ctx : UeContext} {ev : UeNasEvent} {rand autn : Block}
    {secrets : SimSecrets} {sqnMs : Vector UInt8 6} (htype : ev.type = .authenticationRequest)
    (hrand : ev.authRand = some rand) (hautn : ev.authAutn = some autn)
    (hsecrets : simSecrets ctx.cfg = some secrets)
    (hgenuine : Genuine secrets rand autn secrets.amf)
    (hms : ctx.authSqnMs = some sqnMs ∨ ctx.authSqnMs = none)
    (habove : sqnValue sqnMs < sqnValue (recoveredSqn secrets rand autn)) :
    AcceptsChallenge ctx ev (recoveredSqn secrets rand autn) := by
  have hchallenge : challengeOf ctx.cfg ev =
      some (secrets, authChallenge secrets rand autn (abbaOf ev)) := by
    simp only [challengeOf, hrand, hautn, hsecrets]
  obtain ⟨hsqn, hmac⟩ := authChallenge_spec secrets rand autn (abbaOf ev)
  have hbehind : sqnBehind ctx.authSqnMs (recoveredSqn secrets rand autn) = false := by
    rcases hms with hms | hms
    · rw [hms, ← Bool.not_eq_true, sqnBehind_some_iff]
      omega
    · rw [hms]
      rfl
  have hverdict : authVerdict ctx.authSqnMs (authChallenge secrets rand autn (abbaOf ev)) =
      .accepted := by
    rw [authVerdict, if_neg (not_not_intro (hmac.mpr hgenuine)), hsqn, hbehind]
    rfl
  have hanswer := onAuthenticationRequest_answer hchallenge
  have hprocess : engineProcessNasEvent ctx ev =
      noteChanges ctx (onAuthenticationRequest ctx ev) := by
    simp only [engineProcessNasEvent, dispatchNasEvent, htype]
  rw [hverdict] at hanswer
  obtain ⟨hsent, hstored⟩ := hanswer
  rw [AcceptsChallenge, hprocess, ← hsqn]
  exact ⟨hsent, hstored⟩

/-! ## The exchange -/

/-- A challenge rejected for an old sequence number is answered with one message, from which the
home network obtains the stored number, its code checked.  With a serving cell that message is
in the datagram that goes out.  Whatever happens until the next challenge is accepted, every
genuine one above the stored number is. -/
theorem resynchronised (snow : Snow3g) {ctx : UeContext} {ev : UeNasEvent} {secrets : SimSecrets}
    {ch : AuthChallenge} {sqnMs : Vector UInt8 6} (htype : ev.type = .authenticationRequest)
    (hchallenge : challengeOf ctx.cfg ev = some (secrets, ch)) (hms : ctx.authSqnMs = some sqnMs)
    (hold : authVerdict ctx.authSqnMs ch = .synchFailure) :
    (∃ nas, HandsOver ctx (engineProcessNasEvent ctx ev) nas ∧
      homeResync secrets ch.rand nas = some sqnMs ∧
      (Reachable ctx → ∀ addr, servingAddr ctx.net.ran = some addr →
        ∃ dgram, OnTheWire snow ctx nas dgram ∧
          (engineProcessNasEvent ctx ev).net.ran.sent = sentAfter ctx.net.ran addr dgram)) ∧
    ∀ es, NoneAccepted (engineProcessNasEvent ctx ev) es →
      ∀ next rand autn, next.type = .authenticationRequest → next.authRand = some rand →
        next.authAutn = some autn → Genuine secrets rand autn secrets.amf →
        sqnValue sqnMs < sqnValue (recoveredSqn secrets rand autn) →
          AcceptsChallenge (run (engineProcessNasEvent ctx ev) es) next
            (recoveredSqn secrets rand autn) := by
  obtain ⟨hnet, hkept, hcfg⟩ :=
    engineProcessNasEvent_synchFailure htype hchallenge hms hold
  obtain ⟨auts, hauts⟩ := autsOf_toList secrets ch sqnMs
  have hlen : (synchFailureMessage (autsOf secrets ch sqnMs)).length = 20 := by
    rw [hauts, synchFailureMessage, List.length_append, Vector.length_toList]
    rfl
  constructor
  · refine ⟨_, ⟨_, hnet⟩, autsOf_homeResync secrets ch sqnMs, fun hreach addr haddr => ?_⟩
    have halgs := hreach.sourceAlgs
    rw [hnet]
    exact engineSendNasUplink_onTheWire snow rfl (fun dgram h => h) ⟨halgs.intAlg, halgs.encAlg⟩
      haddr (by omega) (by omega)
  · intro es hnone next rand autn hnext hrand hautn hgenuine habove
    obtain ⟨hruncfg, hrunms⟩ := run_sqnMs hkept hnone
    have hsecrets : simSecrets ctx.cfg = some secrets := by
      unfold challengeOf at hchallenge
      split at hchallenge
      · rename_i hsome
        cases hchallenge
        exact hsome
      · cases hchallenge
    exact acceptsChallenge_above hnext hrand hautn (by rw [hruncfg, hcfg]; exact hsecrets) hgenuine
      hrunms habove

/-- A challenge of the packaged network with sequence number `n`. -/
def numberedChallenge (n : UInt8) : UeNasEvent :=
  authEvent 1 zeroBlock (autnOf exampleSecrets zeroBlock #v[0, 0, 0, 0, 0, n])

theorem autnOf_genuine (secrets : SimSecrets) (rand : Block) (sqn : Vector UInt8 6) :
    Genuine secrets rand (autnOf secrets rand sqn) secrets.amf ∧
      recoveredSqn secrets rand (autnOf secrets rand sqn) = sqn := by
  obtain ⟨hsqn, hmac⟩ := authChallenge_spec secrets rand (autnOf secrets rand sqn) []
  rw [authChallenge_autnOf] at hsqn hmac
  exact ⟨hmac.mp rfl, hsqn.symm⟩

/-- The secured UE has accepted number 5.  It rejects 3, tells the network so, and accepts 9. -/
theorem resynchronised_securedUe :
    (∃ nas, HandsOver securedUe (engineProcessNasEvent securedUe (numberedChallenge 3)) nas ∧
      homeResync exampleSecrets zeroBlock nas = some exampleSqn) ∧
    AcceptsChallenge (engineProcessNasEvent securedUe (numberedChallenge 3)) (numberedChallenge 9)
      #v[0, 0, 0, 0, 0, 9] := by
  have hchallenge : challengeOf securedUe.cfg (numberedChallenge 3) =
      some (exampleSecrets, genuineChallenge exampleSecrets zeroBlock #v[0, 0, 0, 0, 0, 3] [0, 0]) := by
    rw [securedUe_camped.cfg]
    exact challengeOf_genuine simSecrets_exampleCfg _ _ _
  have hold : authVerdict securedUe.authSqnMs
      (genuineChallenge exampleSecrets zeroBlock #v[0, 0, 0, 0, 0, 3] [0, 0]) = .synchFailure := by
    rw [authVerdict_genuine, securedUe_authSqnMs]
    decide
  obtain ⟨hgenuine, hsqn⟩ := autnOf_genuine exampleSecrets zeroBlock #v[0, 0, 0, 0, 0, 9]
  have habove : sqnValue exampleSqn < sqnValue
      (recoveredSqn exampleSecrets zeroBlock
        (autnOf exampleSecrets zeroBlock #v[0, 0, 0, 0, 0, 9])) := by
    rw [hsqn]
    decide
  obtain ⟨⟨nas, hsent, hresync, -⟩, hnext⟩ :=
    resynchronised noSnow3g rfl hchallenge securedUe_authSqnMs hold
  have haccepts := hnext [] trivial (numberedChallenge 9) _ _ rfl rfl rfl hgenuine habove
  rw [hsqn] at haccepts
  exact ⟨⟨nas, hsent, hresync⟩, haccepts⟩

end VirtualLte.Engine
