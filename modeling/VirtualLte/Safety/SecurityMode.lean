import VirtualLte.Engine.Network

/-!
# Who can take a context into use

A Security Mode Command decides which context and which algorithms are used, so a UE
must act on the octets it has verified and on no others.  The program verifies what
it remembers of the last header of type 3.

* `SmcAuthentic` says of one handled message: if, as a Security Mode Command, it
  changed what the current context protects with, then it was itself verified.
* `SmcBound` names the messages for which this holds: a plain command finds no
  remembered header, and a protected one selects algorithms that the UE has, and not null
  integrity with a zero MAC.
* `securityMode_authentic`: a run of such messages is authentic throughout.
-/

namespace VirtualLte.Engine

open Crypto Nas Ran Mm Sm Up

/-- What the current context protects with. -/
def currentView (sec : UeNasSecurityCtx) :
    Bool × UeNasIntegrityAlg × UeNasCipheringAlg × UInt8 × Block × Block :=
  (sec.active, sec.intAlg, sec.encAlg, sec.ngksi, sec.keys.knasInt, sec.keys.knasEnc)

/-- The Security Mode Command in an unwrapped message. -/
def smcIn (plain : Bytes) : Option UeNasEvent :=
  (ueNasDecodeEvent plain).filter fun ev => ev.type = .securityModeCommand

/-- The Security Mode Command that a message is handled as. -/
def handledSmc (ctx : UeContext) (pdu : Bytes) : Option UeNasEvent :=
  ((unwrapNas ctx pdu).map Prod.snd).bind smcIn

/-- The message is verified itself, with the integrity key of the target's KAMF, and what is
in use afterwards is what is decoded from its octets. -/
structure Authenticated (ctx : UeContext) (pdu : Bytes) (ctx' : UeContext) (ev : UeNasEvent)
    (target : SmcTarget) (overflow : UInt16) : Prop where
  sht : isProtected pdu = true ∧ octet pdu 1 = nasShtIntegrityProtectedNewCtx
  selected : smcIn (pdu.drop 7) = some ev
  found : smcTarget ctx (smcSelection ev).ngksi = some target
  mac : (secHeaderOf pdu).mac =
    ueNasComputeMac .nia2 (ueNasCountValue ⟨overflow, (secHeaderOf pdu).sqn⟩) 1 dirDownlink
      (knasIntOf (target.sec ctx).keys.kamf 2) (pdu.drop 6)
  algs : ev.secAlgs = some (ctx'.net.nasSec.encAlg.toUInt8, ctx'.net.nasSec.intAlg.toUInt8)
  ngksi : ev.ngksi = some ctx'.net.nasSec.ngksi

/-- A message handled as a Security Mode Command changes what is in use only if it is
verified. -/
def SmcAuthentic (ctx : UeContext) (pdu : Bytes) (ctx' : UeContext) : Prop :=
  (handledSmc ctx pdu).isSome = true →
    currentView ctx'.net.nasSec ≠ currentView ctx.net.nasSec →
      ∃ ev target overflow, Authenticated ctx pdu ctx' ev target overflow

/-- The command names algorithms and a key set, and the algorithms are NEA0 or NEA2, and NIA0
or NIA2.  Others are replaced, and a command too short to name any is taken for NEA0, NIA2
and key set zero. -/
def SelectsSupported (ev : UeNasEvent) : Prop :=
  ∃ enc int ngksi, ev.secAlgs = some (enc, int) ∧ ev.ngksi = some ngksi ∧
    (enc = 0 ∨ enc = 2) ∧ (int = 0 ∨ int = 2)

/-- A plain command finds no header of type 3 remembered, and a command of type 3 selects
supported algorithms, and not null integrity with a zero MAC. -/
structure SmcBound (ctx : UeContext) (pdu : Bytes) : Prop where
  plain : isProtected pdu = false → (smcIn pdu).isSome = true → newCtxHdr ctx = none
  integrity : isProtected pdu = true → octet pdu 1 = nasShtIntegrityProtectedNewCtx →
    ∀ ev, smcIn (pdu.drop 7) = some ev →
      SelectsSupported ev ∧ ¬ ((smcSelection ev).intAlg = .nia0 ∧ (secHeaderOf pdu).mac = 0)

/-! ## One command -/

/-- Supported algorithms are taken as they are. -/
theorem SelectsSupported.selection {ev : UeNasEvent} (h : SelectsSupported ev) :
    ev.secAlgs = some ((smcSelection ev).encAlg.toUInt8, (smcSelection ev).intAlg.toUInt8) ∧
      ev.ngksi = some (smcSelection ev).ngksi := by
  obtain ⟨enc, int, ngksi, halgs, hngksi, henc, hint⟩ := h
  unfold smcSelection
  rw [halgs, hngksi]
  rcases henc with rfl | rfl <;> rcases hint with rfl | rfl <;> exact ⟨rfl, rfl⟩

theorem smcIn_some {plain : Bytes} {ev : UeNasEvent} (h : smcIn plain = some ev) :
    ueNasDecodeEvent plain = some ev ∧ ev.type = .securityModeCommand := by
  obtain ⟨hdecode, htype⟩ := Option.filter_eq_some_iff.mp h
  exact ⟨hdecode, by simpa using htype⟩

theorem smcComplete_view (ctx : UeContext) (sel : SmcSelection) :
    currentView (smcComplete (smcRemember ctx sel)).net.nasSec = currentView ctx.net.nasSec := by
  obtain ⟨ul, hul⟩ := (smcComplete_sent ctx sel).nasSec
  rw [hul]
  rfl

theorem smcInstall_view (ctx : UeContext) (target : SmcTarget) (sel : SmcSelection)
    (c : UeNasCount) (count0 : Bool) :
    currentView (smcInstall ctx target sel c count0).net.nasSec =
      currentView (smcInstalled (target.sec ctx) sel count0) := by
  cases target with
  | current => rfl
  | nonCurrent sec => rfl

/-- A command changes what is in use only by being installed. -/
theorem onSecurityModeCommand_view {ctx : UeContext} {ev : UeNasEvent}
    (h : currentView (onSecurityModeCommand ctx ev).net.nasSec ≠ currentView ctx.net.nasSec) :
    ∃ target c count0, smcTarget ctx (smcSelection ev).ngksi = some target ∧
      verifySmcNewContextMac ctx (target.sec ctx) (smcSelection ev) = some (c, count0) ∧
      currentView (onSecurityModeCommand ctx ev).net.nasSec =
        currentView (smcInstalled (target.sec ctx) (smcSelection ev) count0) := by
  cases onSecurityModeCommand_outcome ctx ev with
  | refused heq =>
    rw [heq] at h
    exact absurd rfl h
  | repeated hdup heq =>
    rw [heq, smcComplete_view] at h
    exact absurd rfl h
  | installed target c count0 htarget hdup hverify heq =>
    exact ⟨target, c, count0, htarget, hverify, by rw [heq, smcComplete_view, smcInstall_view]⟩

/-- A header of another type puts an end to a remembered one of type 3. -/
theorem newCtxHdr_cacheHdr (ctx : UeContext) (pdu : Bytes) :
    newCtxHdr (cacheHdr ctx pdu) =
      if octet pdu 1 = nasShtIntegrityProtectedNewCtx then
        some ⟨octet pdu 1, (secHeaderOf pdu).mac, (secHeaderOf pdu).sqn⟩
      else none := by
  unfold newCtxHdr cacheHdr secHeaderOf
  simp only [Option.filter, decide_eq_true_eq]

/-- A message of type 3 is remembered with its own header. -/
theorem newCtxHdr_own {ctx c : UeContext} {pdu payload : Bytes}
    (hsht : octet pdu 1 = nasShtIntegrityProtectedNewCtx)
    (heq : c = { cacheHdr ctx pdu with smcLastPayload := payload }) :
    newCtxHdr c = some ⟨octet pdu 1, (secHeaderOf pdu).mac, (secHeaderOf pdu).sqn⟩ := by
  rw [heq]
  exact (newCtxHdr_cacheHdr ctx pdu).trans (if_pos hsht)

/-- A payload that was kept is that of the message. -/
theorem cachedPayload_own {pdu : Bytes} (hlen : 7 ≤ pdu.length)
    (h : 0 < (cachedPayload pdu).length) :
    (secHeaderOf pdu).sqn :: cachedPayload pdu = pdu.drop 6 := by
  unfold cachedPayload at h ⊢
  split at h
  · rename_i hfits
    rw [if_pos hfits]
    exact (drop_eq_octet_cons hlen).symm
  · cases h

/-- Taking a message apart changes the downlink COUNT at most. -/
theorem unwrapNas_view {ctx c : UeContext} {pdu plain : Bytes}
    (h : unwrapNas ctx pdu = some (c, plain)) :
    currentView c.net.nasSec = currentView ctx.net.nasSec := by
  cases unwrapNas_cases h with
  | plain hprot heq hplain => rw [heq]
  | newCtx hprot hsht hlen heq hplain =>
    rw [heq]
    rfl
  | verified hprot hsht hact hmac heq =>
    rw [heq]
    rfl

theorem SmcTarget.sec_congr {a b : UeContext} (h : a.net.nasSec = b.net.nasSec) (target : SmcTarget) :
    target.sec a = target.sec b := by
  cases target with
  | current => exact h
  | nonCurrent sec => rfl

/-- A message inside the bounds is authentic. -/
theorem decodeAndProcessNas_smcAuthentic {ctx : UeContext} {pdu : Bytes} (h : SmcBound ctx pdu) :
    SmcAuthentic ctx pdu (decodeAndProcessNas ctx pdu) := by
  intro hsmc hview
  unfold handledSmc at hsmc
  cases hunwrap : unwrapNas ctx pdu with
  | none =>
    rw [hunwrap] at hsmc
    cases hsmc
  | some r =>
    obtain ⟨c, plain⟩ := r
    rw [hunwrap] at hsmc
    obtain ⟨ev, hev⟩ := Option.isSome_iff_exists.mp hsmc
    have hev : smcIn plain = some ev := hev
    obtain ⟨hdecode, htype⟩ := smcIn_some hev
    have hresult : (decodeAndProcessNas ctx pdu).net = (onSecurityModeCommand c ev).net := by
      unfold decodeAndProcessNas
      rw [hunwrap]
      simp only [hdecode, engineProcessNasEvent, dispatchNasEvent, htype]
      rfl
    rw [hresult, ← unwrapNas_view hunwrap] at hview
    obtain ⟨target, count, count0, htarget, hverify, hinstalled⟩ := onSecurityModeCommand_view hview
    obtain ⟨hdr, hhdr, hpos, -, hcount, hmac⟩ := verifySmcNewContextMac_some hverify
    -- the command was verified with a remembered header: only its own can be of type 3
    cases unwrapNas_cases hunwrap with
    | plain hprot heq hplain =>
      rw [heq, h.plain hprot (by rw [← hplain]; exact hsmc)] at hhdr
      cases hhdr
    | verified hprot hsht hact hmacok heq =>
      rw [heq, newCtxHdr_cacheHdr, if_neg hsht] at hhdr
      cases hhdr
    | newCtx hprot hsht hlen heq hplain =>
      rw [newCtxHdr_own hsht heq] at hhdr
      cases hhdr
      dsimp only at hcount hmac
      have hpayload : (secHeaderOf pdu).sqn :: c.smcLastPayload = pdu.drop 6 := by
        rw [heq] at hpos ⊢
        exact cachedPayload_own hlen hpos
      have hsame : c.net.nasSec = ctx.net.nasSec := by
        rw [heq]
        rfl
      rw [hplain] at hev
      obtain ⟨hsupported, hnull⟩ := h.integrity hprot hsht ev hev
      obtain ⟨halgs, hngksi⟩ := hsupported.selection
      have hnia2 : (smcSelection ev).intAlg = .nia2 := by
        refine (smcSelection_intAlg ev).resolve_left fun hnia0 => hnull ⟨hnia0, ?_⟩
        rw [← hmac, smcMac, hnia0]
        rfl
      have hintAlg : (onSecurityModeCommand c ev).net.nasSec.intAlg = (smcSelection ev).intAlg :=
        congrArg (fun v => v.2.1) hinstalled
      have hencAlg : (onSecurityModeCommand c ev).net.nasSec.encAlg = (smcSelection ev).encAlg :=
        congrArg (fun v => v.2.2.1) hinstalled
      have hksi : (onSecurityModeCommand c ev).net.nasSec.ngksi = (smcSelection ev).ngksi :=
        congrArg (fun v => v.2.2.2.1) hinstalled
      refine ⟨ev, target, count.overflow, ⟨hprot, hsht⟩, hev, ?_, ?_, ?_, ?_⟩
      · rw [← htarget, heq]
        rfl
      · have hsqn : count = ⟨count.overflow, (secHeaderOf pdu).sqn⟩ := by rw [hcount]
        rw [← hmac, ← hsqn, smcMac, smcKeys, hnia2, hpayload, target.sec_congr hsame]
        rfl
      · rw [hresult, hencAlg, hintAlg]
        exact halgs
      · rw [hresult, hksi]
        exact hngksi

/-! ## Whole runs -/

theorem handledSmc_receiving (ctx : UeContext) (ran : UeRanTransportCtx) (count : UInt32)
    (pdu : Bytes) : handledSmc (receiving ctx ran count) pdu = handledSmc ctx pdu := by
  rw [handledSmc, handledSmc, unwrapNas_receiving, Option.map_map]
  rfl

theorem step_smcAuthentic {ctx : UeContext} {e : Step} {pdu : Bytes}
    (hnas : nasDelivered ctx e = some pdu) (h : SmcBound ctx pdu) :
    SmcAuthentic ctx pdu (step ctx e) := by
  obtain ⟨ran, count, hstep⟩ := step_of_delivered hnas
  have hbound : SmcBound (receiving ctx ran count) pdu := ⟨h.plain, h.integrity⟩
  rw [hstep]
  intro hsmc hview
  rw [← handledSmc_receiving ctx ran count] at hsmc
  obtain ⟨ev, target, overflow, hauth⟩ := decodeAndProcessNas_smcAuthentic hbound hsmc hview
  have hsame := target.sec_congr (show (receiving ctx ran count).net.nasSec = ctx.net.nasSec from rfl)
  exact ⟨ev, target, overflow, hauth.sht, hauth.selected, hauth.found, hsame ▸ hauth.mac,
    hauth.algs, hauth.ngksi⟩

/-- A run that delivers messages inside the bounds only is authentic throughout. -/
theorem securityMode_authentic (cfg : UeInstanceConfig) (os : OsAnswers) (es : List Step)
    (h : Transition.Along step (fun ctx e => ∀ pdu, nasDelivered ctx e = some pdu →
      SmcBound ctx pdu) (ueContextInitFromConfig cfg os) es) :
    Transition.Along step (fun ctx e => ∀ pdu, nasDelivered ctx e = some pdu →
      SmcAuthentic ctx pdu (step ctx e)) (ueContextInitFromConfig cfg os) es := by
  refine Transition.along_of_invariant (I := fun _ => True) (fun _ _ _ _ => trivial) ?_ trivial h
  intro ctx e _ hbound pdu hpdu
  exact step_smcAuthentic hpdu (hbound pdu hpdu)

theorem smcBound_authenticationRequest (ctx : UeContext) (ngksi : UInt8) (rand autn : Block) :
    SmcBound ctx (authenticationRequest ngksi rand autn) where
  plain := by
    intro _ hsmc
    simp [smcIn, ueNasDecodeEvent_authenticationRequest, authEvent] at hsmc
  integrity := by
    intro hprot
    simp [isProtected, authenticationRequest, nasShtNotProtected] at hprot

theorem smcBound_securityModeCommand (ctx : UeContext) (kamf : Key256) (ngksi : UInt8) :
    SmcBound ctx (securityModeCommand kamf ngksi) where
  plain := by
    intro hprot
    rw [securityModeCommand, isProtected_protectedPdu (by decide)] at hprot
    cases hprot
  integrity := by
    rintro - - ev hev
    rw [securityModeCommand, protectedPdu_drop_seven] at hev
    obtain ⟨hdecode, -⟩ := smcIn_some hev
    rw [ueNasDecodeEvent_smcBody] at hdecode
    cases hdecode
    refine ⟨⟨0, 2, ngksi &&& 0x07, rfl, rfl, .inl rfl, .inr rfl⟩, ?_⟩
    rintro ⟨hnia0, -⟩
    cases hnia0

/-- A first authentication and security mode procedure. -/
theorem securityMode_authentic_secureRun :
    Transition.Along step (fun ctx e => ∀ pdu, nasDelivered ctx e = some pdu →
      SmcAuthentic ctx pdu (step ctx e)) exampleUe (secureRun zeroBlock exampleSqn) := by
  refine securityMode_authentic exampleCfg exampleOs (secureRun zeroBlock exampleSqn) ?_
  rw [secureRun, Transition.along_append, Transition.along_append]
  refine ⟨⟨⟨fun _ h => (by cases h), trivial⟩, ?_⟩, ?_⟩
  · refine camped_along_deliver camped_powerOn 1 rfl ?_ fun c _ =>
      smcBound_authenticationRequest c _ _ _
    rw [authenticationRequest_length]
    omega
  · refine camped_along_deliver (camped_authenticated zeroBlock exampleSqn) 2 rfl ?_
      fun c _ => smcBound_securityModeCommand c _ _
    rw [securityModeCommand, protectedPdu_length, smcBody_length]
    omega

/-- A plain Security Mode Command for key set 1 that selects NEA2. -/
def plainSmc : Bytes := smcBody 0x22 1

/-- NEA2 and NIA2, as the plain command selects them. -/
def cipheredSelection : SmcSelection := ⟨.nea2, .nia2, 1⟩

/-- After a first security mode procedure, a plain command is checked against the octets of
the first one, and installed. -/
theorem plainSmc_installed {c : UeContext} {sec : UeNasSecurityCtx} {kamf : Key256}
    (hsec : c.net.nasSec = sec) (hact : sec.active = true) (hngksi : sec.ngksi = 1)
    (hkamf : sec.keys.kamf = kamf) (hdl : sec.dlCount = ⟨0, 0⟩)
    (hhdr : c.dlSecHdr = some ⟨nasShtIntegrityProtectedNewCtx, smcMacOf kamf 1, 0⟩)
    (hpayload : c.smcLastPayload = smcBody 0x02 1)
    (hlast : c.smcLast = some ⟨smcMacOf kamf 1, 0, 2, 1⟩) :
    decodeAndProcessNas c plainSmc = noteChanges c (smcComplete (smcRemember
      (smcInstall c .current cipheredSelection ⟨0, 0⟩ false) cipheredSelection)) := by
  have hsel : smcSelection (smcEvent 0x22 1) = cipheredSelection := by decide
  have htarget : smcTarget c (smcSelection (smcEvent 0x22 1)).ngksi = some .current := by
    rw [hsel, smcTarget, hsec]
    exact if_pos ⟨hact, hngksi⟩
  have hdup : smcDuplicate c (smcSelection (smcEvent 0x22 1)) = false := by
    rw [hsel, smcDuplicate, newCtxHdr, hhdr, hlast]
    have halgs : (2 : UInt8) ≠ cipheredSelection.algs := by decide
    simp [Option.filter, smcFingerprint, halgs]
  have hgenuine := onSecurityModeCommand_genuine htarget hhdr hdup
    (by rw [hpayload, smcBody_length]; omega) (by rw [hpayload, smcBody_length]; omega)
    (by rw [hsel, hpayload, SmcTarget.sec, hsec, hdl, smcKeys, hkamf]; rfl)
  rw [hsel, SmcTarget.sec, hsec, hdl] at hgenuine
  have hresult : decodeAndProcessNas c plainSmc =
      noteChanges c (onSecurityModeCommand c (smcEvent 0x22 1)) := rfl
  rw [hresult, hgenuine]

/-- That switches ciphering on. -/
theorem plainSmc_view {c : UeContext} {sec : UeNasSecurityCtx} {kamf : Key256}
    (hsec : c.net.nasSec = sec) (hact : sec.active = true) (hngksi : sec.ngksi = 1)
    (hkamf : sec.keys.kamf = kamf) (hdl : sec.dlCount = ⟨0, 0⟩) (hnea0 : sec.encAlg = .nea0)
    (hhdr : c.dlSecHdr = some ⟨nasShtIntegrityProtectedNewCtx, smcMacOf kamf 1, 0⟩)
    (hpayload : c.smcLastPayload = smcBody 0x02 1)
    (hlast : c.smcLast = some ⟨smcMacOf kamf 1, 0, 2, 1⟩) :
    currentView (decodeAndProcessNas c plainSmc).net.nasSec ≠ currentView c.net.nasSec := by
  have hinstalled : currentView (decodeAndProcessNas c plainSmc).net.nasSec =
      currentView (smcInstalled c.net.nasSec cipheredSelection false) := by
    rw [plainSmc_installed hsec hact hngksi hkamf hdl hhdr hpayload hlast]
    exact (smcComplete_view _ _).trans (smcInstall_view _ _ _ _ _)
  rw [hinstalled, hsec]
  intro hview
  have henc := congrArg (fun v => v.2.2.1) hview
  simp only [currentView, smcInstalled, hnea0] at henc
  cases henc

/-- So its delivery is not authentic. -/
theorem plainSmc_not_authentic {ctx : UeContext} {s : SecSide} {kamf : Key256} (h : Camped ctx s)
    (hact : s.nasSec.active = true) (hngksi : s.nasSec.ngksi = 1) (hkamf : s.nasSec.keys.kamf = kamf)
    (hdl : s.nasSec.dlCount = ⟨0, 0⟩) (hnea0 : s.nasSec.encAlg = .nea0)
    (hhdr : s.dlSecHdr = some ⟨nasShtIntegrityProtectedNewCtx, smcMacOf kamf 1, 0⟩)
    (hpayload : s.payload = smcBody 0x02 1) (hlast : s.smcLast = some ⟨smcMacOf kamf 1, 0, 2, 1⟩)
    (nowMs : UInt64) :
    ¬ Transition.Along step (fun ctx e => ∀ pdu, nasDelivered ctx e = some pdu →
      SmcAuthentic ctx pdu (step ctx e)) ctx (deliver exampleGnb nowMs 0 plainSmc) := by
  intro hauthentic
  have hrest : plainSmc = nasEpd5gmm :: plainSmc.tail := rfl
  rw [hrest] at hauthentic
  obtain ⟨ran, count, ran', count', hsmc⟩ := along_deliver_handled h.listening h.radioOn nowMs
    (by decide) hauthentic
  have hview := @plainSmc_view (receiving ctx ran' count') s.nasSec kamf h.nasSec hact hngksi hkamf
    hdl hnea0 (h.dlSecHdr.trans hhdr) (h.payload.trans hpayload) (h.smcLast.trans hlast)
  obtain ⟨ev, target, overflow, hauth⟩ := hsmc rfl hview
  exact absurd hauth.sht.1 (by decide)

/-- A plain Security Mode Command does change the algorithms. -/
theorem securityMode_plain_accepted :
    ¬ ∀ cfg os es, Transition.Along step (fun ctx e => ∀ pdu, nasDelivered ctx e = some pdu →
      SmcAuthentic ctx pdu (step ctx e)) (ueContextInitFromConfig cfg os) es := by
  intro h
  have hrun := h exampleCfg exampleOs
    (secureRun zeroBlock exampleSqn ++ deliver exampleGnb 3 0 plainSmc)
  have hnot := @plainSmc_not_authentic _ _ (exampleKeys zeroBlock exampleSqn).kamf
    (camped_secureRun zeroBlock exampleSqn)
  rw [securedSide_nasSec] at hnot
  exact hnot rfl rfl rfl rfl rfl rfl rfl rfl 3 ((Transition.along_append step _ _ _ _).mp hrun).2

end VirtualLte.Engine
