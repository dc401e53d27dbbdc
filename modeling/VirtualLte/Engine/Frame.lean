import VirtualLte.Engine.Api

/-!
# What each branch leaves alone

Frame lemmas for the functions of the engine.  Most are stated as "the result is the
context with these fields replaced": what is not named is unchanged, and a proof that
needs one such fact rewrites with the lemma and reads it off.

* `unwrapNas_frame`, `onAuthenticationRequest_frame`, `onSecurityModeCommand_frame`:
  the security side of a downlink message.
* `decodeAndProcessNas_reg`: what a downlink message does to registration.
* `step_sec`: what a step does to the security side.  Only a delivered message can do
  more to it than send and forget.
-/

namespace VirtualLte.Engine

open Crypto Nas Ran Mm Sm Up Rrc

variable {pdu : Bytes} {c : UeContext} (ctx : UeContext) (ev : UeNasEvent) (sel : SmcSelection)
  (nowMs : UInt64)

/-! ## Downlink NAS -/

/-- A current context once a message was verified at COUNT `c`. -/
def verifiedAt (ctx : UeContext) (c : UeNasCount) (pdu : Bytes) : UeContext :=
  let sec := { ctx.net.nasSec with dlCount := c }
  let v : DlVerified := ⟨sec.keys.knasInt, c, sec.bearer, (secHeaderOf pdu).mac, pdu.drop 6⟩
  { ctx with net := { ctx.net with nasSec := sec, trace := logVerified sec.intAlg v ctx.net.trace } }

/-- How a message was taken apart: it was plain, it had a header of type 3 that nobody
checked, or it was verified under the current context. -/
inductive Unwrapped (ctx : UeContext) (pdu : Bytes) (c : UeContext) (plain : Bytes) : Prop
  | plain (hprot : isProtected pdu = false) (heq : c = ctx) (hplain : plain = pdu)
  | newCtx (hprot : isProtected pdu = true)
      (hsht : octet pdu 1 = nasShtIntegrityProtectedNewCtx) (hlen : 7 ≤ pdu.length)
      (heq : c = { cacheHdr ctx pdu with smcLastPayload := cachedPayload pdu })
      (hplain : plain = pdu.drop 7)
  | verified (hprot : isProtected pdu = true)
      (hsht : octet pdu 1 ≠ nasShtIntegrityProtectedNewCtx) (hact : ctx.net.nasSec.active = true)
      (hmac : macAccepted ctx.net.nasSec (unprotectCount ctx.net.nasSec pdu) pdu = true)
      (heq : c = cacheHdr (verifiedAt ctx (unprotectCount ctx.net.nasSec pdu) pdu) pdu)

theorem unwrapNas_cases {ctx : UeContext} {plain : Bytes}
    (h : unwrapNas ctx pdu = some (c, plain)) : Unwrapped ctx pdu c plain := by
  unfold unwrapNas at h
  split at h
  · rename_i hprot
    cases h
    exact .plain hprot rfl rfl
  rename_i hprot
  have hprot' : isProtected pdu = true := by simpa using hprot
  split at h
  · rename_i hsht
    unfold unwrapNewCtx at h
    split at h
    · cases h
    · rename_i hparse
      cases h
      unfold ueNasSecurityUnwrapParseOnly at hparse
      split at hparse
      · cases hparse
      rename_i hlen
      split at hparse
      · cases hparse
      split at hparse
      · cases hparse
      · cases hparse
        exact .newCtx hprot' hsht (by omega) rfl rfl
  rename_i hsht
  split at h
  · rename_i hact
    unfold unwrapProtected at h
    split at h
    · cases h
    · rename_i sec hunprotect
      cases h
      have hplain : octet pdu 1 ≠ nasShtNotProtected := by
        simp only [isProtected, Bool.and_eq_true, decide_eq_true_eq] at hprot'
        exact hprot'.2
      obtain ⟨-, hmac, rfl⟩ := ueNasSecurityUnprotect_some hplain hunprotect
      exact .verified hprot' hsht hact hmac rfl
  · cases h

/-- Taking a message apart touches the security side only. -/
theorem unwrapNas_frame {ctx : UeContext} {plain : Bytes}
    (h : unwrapNas ctx pdu = some (c, plain)) :
    ∃ sec trace hdr payload,
      c = { ctx with
        net := { ctx.net with nasSec := sec, trace := trace }
        dlSecHdr := hdr
        smcLastPayload := payload } := by
  cases unwrapNas_cases h with
  | plain hprot heq hplain => exact ⟨_, _, _, _, heq⟩
  | newCtx hprot hsht hlen heq hplain => exact ⟨_, _, _, _, heq⟩
  | verified hprot hsht hact hmac heq => exact ⟨_, _, _, _, heq⟩

theorem onAuthenticationRequest_frame :
    ∃ net nonCurrent sqn ngksi,
      onAuthenticationRequest ctx ev = { ctx with
        net := net
        nasSecNonCurrent := nonCurrent
        authSqnMs := sqn
        regNgksi := ngksi } := by
  unfold onAuthenticationRequest
  split
  · exact ⟨_, _, _, _, rfl⟩
  dsimp only
  split
  · exact ⟨_, _, _, _, rfl⟩
  · exact ⟨_, _, _, _, rfl⟩
  · exact ⟨_, _, _, _, rfl⟩

theorem smcRemember_frame : ∃ last, smcRemember ctx sel = { ctx with smcLast := last } := by
  unfold smcRemember
  split
  · exact ⟨_, rfl⟩
  · exact ⟨_, rfl⟩

theorem smcInstall_frame (target : SmcTarget) (sel : SmcSelection) (c : UeNasCount)
    (count0 : Bool) :
    ∃ net nonCurrent, smcInstall ctx target sel c count0 = { ctx with
      net := net
      nasSecNonCurrent := nonCurrent } := by
  cases target with
  | current => exact ⟨_, _, rfl⟩
  | nonCurrent sec => exact ⟨_, _, rfl⟩

/-- What becomes of a Security Mode Command: it is refused, answered again, or its context is
taken into use. -/
inductive SmcOutcome (ctx : UeContext) (sel : SmcSelection) (ctx' : UeContext) : Prop
  | refused (heq : ctx' = ctx)
  | repeated (hdup : smcDuplicate ctx sel = true) (heq : ctx' = smcComplete (smcRemember ctx sel))
  | installed (target : SmcTarget) (c : UeNasCount) (count0 : Bool)
      (htarget : smcTarget ctx sel.ngksi = some target) (hdup : smcDuplicate ctx sel = false)
      (hverify : verifySmcNewContextMac ctx (target.sec ctx) sel = some (c, count0))
      (heq : ctx' = smcComplete (smcRemember (smcInstall ctx target sel c count0) sel))

theorem onSecurityModeCommand_outcome :
    SmcOutcome ctx (smcSelection ev) (onSecurityModeCommand ctx ev) := by
  unfold onSecurityModeCommand
  dsimp only
  split
  · exact .refused rfl
  rename_i target htarget
  split
  · rename_i hdup
    exact .repeated hdup rfl
  rename_i hdup
  split
  · exact .refused rfl
  · rename_i c count0 hverify
    exact .installed target c count0 htarget (by simpa using hdup) hverify rfl

/-- The COUNT that a command was verified at, and what was verified. -/
theorem verifySmcNewContextMac_some {ctx : UeContext} {base : UeNasSecurityCtx}
    {sel : SmcSelection} {c : UeNasCount} {count0 : Bool}
    (h : verifySmcNewContextMac ctx base sel = some (c, count0)) :
    ∃ hdr, newCtxHdr ctx = some hdr ∧
      0 < ctx.smcLastPayload.length ∧ ctx.smcLastPayload.length ≤ 256 ∧
      c = ⟨if count0 then 0 else base.dlCount.overflow, hdr.sqn⟩ ∧
      smcMac (smcKeys base sel) sel c (hdr.sqn :: ctx.smcLastPayload) = hdr.mac := by
  unfold verifySmcNewContextMac at h
  split at h
  · cases h
  rename_i hdr hhdr
  dsimp only at h
  split at h
  · cases h
  rename_i hlen
  refine ⟨hdr, hhdr, by omega, by omega, ?_⟩
  split at h
  · rename_i hmac
    cases h
    exact ⟨rfl, hmac⟩
  split at h
  · rename_i hmac
    cases h
    exact ⟨rfl, hmac⟩
  · cases h

theorem onSecurityModeCommand_frame :
    ∃ net nonCurrent last, onSecurityModeCommand ctx ev = { ctx with
      net := net
      nasSecNonCurrent := nonCurrent
      smcLast := last } := by
  cases onSecurityModeCommand_outcome ctx ev with
  | refused heq => exact ⟨_, _, _, heq⟩
  | repeated hdup heq =>
    obtain ⟨last, hlast⟩ := smcRemember_frame ctx (smcSelection ev)
    exact ⟨_, _, _, by rw [heq, hlast]; rfl⟩
  | installed target c count0 htarget hdup hverify heq =>
    obtain ⟨net, nonCurrent, hinst⟩ := smcInstall_frame ctx target (smcSelection ev) c count0
    obtain ⟨last, hlast⟩ :=
      smcRemember_frame (smcInstall ctx target (smcSelection ev) c count0) (smcSelection ev)
    exact ⟨_, nonCurrent, last, by rw [heq, hlast, hinst]; rfl⟩

theorem onRegistrationAccept_frame :
    ∃ assigned guti t3512 net,
      onRegistrationAccept ctx ev = { ctx with
        waitingCoreResponse := false
        mm := { ueMmOnRegistrationAccept ctx.mm with lastAssignedGuti := assigned }
        guti := guti
        t3512Seconds := t3512
        net := net } := by
  unfold onRegistrationAccept
  dsimp only
  split
  · exact ⟨_, _, _, _, rfl⟩
  · exact ⟨(ueMmOnRegistrationAccept ctx.mm).lastAssignedGuti, _, _, _, rfl⟩

theorem onPduSessionEstAccept_frame :
    ∃ net sm up ip pcscf establishing active,
      onPduSessionEstAccept ctx ev = { ctx with
        net := net
        sm := sm
        up := up
        imsIp := ip
        imsPcscfIpv4 := pcscf
        imsPduEstablishing := establishing
        imsPduActive := active } := by
  unfold onPduSessionEstAccept
  split
  · exact ⟨_, _, _, _, _, _, _, rfl⟩
  split
  · exact ⟨_, _, _, _, _, _, _, rfl⟩
  · exact ⟨_, _, _, _, _, _, _, rfl⟩

theorem onPduSessionEstReject_frame :
    ∃ net sm requested establishing active,
      onPduSessionEstReject ctx ev = { ctx with
        net := net
        sm := sm
        imsPduRequested := requested
        imsPduEstablishing := establishing
        imsPduActive := active } := by
  unfold onPduSessionEstReject
  split
  · exact ⟨_, _, _, _, _, rfl⟩
  split
  · exact ⟨_, _, _, _, _, rfl⟩
  · exact ⟨_, _, _, _, _, rfl⟩

theorem onPduSessionReleaseCmd_frame :
    ∃ net sm up requested establishing active,
      onPduSessionReleaseCmd ctx ev = { ctx with
        net := net
        sm := sm
        up := up
        imsPduRequested := requested
        imsPduEstablishing := establishing
        imsPduActive := active } := by
  unfold onPduSessionReleaseCmd
  dsimp only
  split
  · exact ⟨_, _, _, _, _, _, rfl⟩
  · exact ⟨_, _, _, _, _, _, rfl⟩

/-- Induction over the handling of one message: a property that does not look at the
security side holds afterwards if every event keeps it. -/
theorem decodeAndProcessNas_invariant {P : UeContext → Prop}
    (hsec : ∀ c sec trace hdr payload, P c → P { c with
      net := { c.net with nasSec := sec, trace := trace }
      dlSecHdr := hdr
      smcLastPayload := payload })
    (hev : ∀ c ev, P c → P (dispatchNasEvent c ev))
    (hflags : ∀ c flags, P c → P { c with changedFlags := flags })
    {ctx : UeContext} (pdu : Bytes) (hctx : P ctx) : P (decodeAndProcessNas ctx pdu) := by
  unfold decodeAndProcessNas
  split
  · exact hctx
  · rename_i c plain hunwrap
    obtain ⟨sec, trace, hdr, payload, rfl⟩ := unwrapNas_frame hunwrap
    have hc := hsec ctx sec trace hdr payload hctx
    split
    · exact hc
    · exact hflags _ _ (hev _ _ hc)

/-- What a downlink message can do to registration: nothing, or what an accept or a reject
does, and then the core-response window closes. -/
inductive RegEffect (a b : UeContext) : Prop
  | same (hmm : b.mm = a.mm) (hwait : b.waitingCoreResponse = a.waitingCoreResponse)
  | accept (assigned : Bytes)
      (hmm : b.mm = { ueMmOnRegistrationAccept a.mm with lastAssignedGuti := assigned })
      (hwait : b.waitingCoreResponse = false)
  | reject (cause : UeMmRegRejectCause) (hmm : b.mm = ueMmOnRegistrationReject a.mm cause)
      (hwait : b.waitingCoreResponse = false)

theorem dispatchNasEvent_reg :
    RegEffect ctx (dispatchNasEvent ctx ev) ∧
      (dispatchNasEvent ctx ev).rrcState = ctx.rrcState ∧
      (dispatchNasEvent ctx ev).radioOn = ctx.radioOn := by
  unfold dispatchNasEvent
  split
  · obtain ⟨assigned, guti, t3512, net, h⟩ := onRegistrationAccept_frame ctx ev
    rw [h]
    exact ⟨.accept assigned rfl rfl, rfl, rfl⟩
  · exact ⟨.reject _ rfl rfl, rfl, rfl⟩
  · obtain ⟨_, _, _, _, _, _, _, h⟩ := onPduSessionEstAccept_frame ctx ev
    rw [h]
    exact ⟨.same rfl rfl, rfl, rfl⟩
  · obtain ⟨_, _, _, _, _, h⟩ := onPduSessionEstReject_frame ctx ev
    rw [h]
    exact ⟨.same rfl rfl, rfl, rfl⟩
  · obtain ⟨_, _, _, _, _, _, h⟩ := onPduSessionReleaseCmd_frame ctx ev
    rw [h]
    exact ⟨.same rfl rfl, rfl, rfl⟩
  · obtain ⟨_, _, _, _, h⟩ := onAuthenticationRequest_frame ctx ev
    rw [h]
    exact ⟨.same rfl rfl, rfl, rfl⟩
  · obtain ⟨_, _, _, h⟩ := onSecurityModeCommand_frame ctx ev
    rw [h]
    exact ⟨.same rfl rfl, rfl, rfl⟩
  · exact ⟨.same rfl rfl, rfl, rfl⟩
  · unfold onConfigUpdateCommand
    split
    · exact ⟨.same rfl rfl, rfl, rfl⟩
    · exact ⟨.same rfl rfl, rfl, rfl⟩
  · exact ⟨.same rfl rfl, rfl, rfl⟩

theorem decodeAndProcessNas_reg (pdu : Bytes) :
    RegEffect ctx (decodeAndProcessNas ctx pdu) ∧
      (decodeAndProcessNas ctx pdu).rrcState = ctx.rrcState ∧
      (decodeAndProcessNas ctx pdu).radioOn = ctx.radioOn := by
  unfold decodeAndProcessNas
  split
  · exact ⟨.same rfl rfl, rfl, rfl⟩
  · rename_i c plain hunwrap
    obtain ⟨sec, trace, hdr, payload, rfl⟩ := unwrapNas_frame hunwrap
    split
    · exact ⟨.same rfl rfl, rfl, rfl⟩
    · rename_i ev _
      obtain ⟨hreg, hrrc, hon⟩ := dispatchNasEvent_reg { ctx with
        net := { ctx.net with nasSec := sec, trace := trace }
        dlSecHdr := hdr
        smcLastPayload := payload } ev
      refine ⟨?_, hrrc, hon⟩
      cases hreg with
      | same hmm hwait => exact .same hmm hwait
      | accept assigned hmm hwait => exact .accept assigned hmm hwait
      | reject cause hmm hwait => exact .reject cause hmm hwait

/-! ## The receive loop -/

/-- What the next turn of the receive loop performs. -/
def recvAction (ctx : UeContext) : DlAction :=
  if ctx.radioOn = false then .ignore
  else
    match ueRanTransportRecvNasPdu ctx.net.ran 8192 with
    | none => .ignore
    | some (channel, pdu, _) =>
      if pdu.length = 0 then .ignore else dlDispatch ctx.waitingCoreResponse channel pdu

/-- A context as the receive loop hands it to the NAS entry point. -/
def receiving (ctx : UeContext) (ran : UeRanTransportCtx) (count : UInt32) : UeContext :=
  { ctx with net := { ctx.net with ran := ran }, postSetupPduCount := count }

/-- A turn of the receive loop takes from the queue, counts, and performs the action. -/
theorem recvStep_eq :
    ∃ queue count, SentFrom ctx.net { ctx.net with ran := { ctx.net.ran with nasQueue := queue } } ∧
      recvStep ctx nowMs =
        performDl (receiving ctx { ctx.net.ran with nasQueue := queue } count) nowMs
          (recvAction ctx) := by
  have htake : SentFrom ctx.net
      { ctx.net with ran := { ctx.net.ran with nasQueue := ctx.net.ran.nasQueue.tail } } := by
    rw [← ranStep_recvNas]
    exact .single (.transport [.recvNas])
  unfold recvStep recvAction
  by_cases hon : ctx.radioOn = false
  · exact ⟨_, ctx.postSetupPduCount, .refl _, by rw [if_pos hon, if_pos hon]; rfl⟩
  rw [if_neg hon, if_neg hon]
  unfold ueRanTransportRecvNasPdu
  cases hqueue : ctx.net.ran.nasQueue with
  | nil => exact ⟨_, ctx.postSetupPduCount, .refl _, rfl⟩
  | cons e rest =>
    rw [hqueue] at htake
    dsimp only
    by_cases hlen : (e.data.take 8192).length = 0
    · exact ⟨rest, ctx.postSetupPduCount, htake, by rw [if_pos hlen, if_pos hlen]; rfl⟩
    · rw [if_neg hlen, if_neg hlen]
      exact ⟨rest, _, htake, rfl⟩

/-! ## The RRC connection -/

theorem logRegRequest_frame (r : UeContext × Bool) :
    ∃ net, logRegRequest r = { r.1 with net := net } := by
  unfold logRegRequest
  split
  · exact ⟨_, rfl⟩
  · exact ⟨r.1.net, rfl⟩

theorem sendSetupComplete_frame (txId : UInt8) :
    ∃ net, sendSetupComplete ctx txId = { ctx with net := net } := by
  unfold sendSetupComplete
  split
  · split
    · exact ⟨ctx.net, rfl⟩
    · exact logRegRequest_frame _
  · exact ⟨ctx.net, rfl⟩

theorem autoConnect_frame : ∃ sm, autoConnect ctx = { ctx with sm := sm } := by
  unfold autoConnect
  split
  · exact ⟨_, rfl⟩
  · exact ⟨ctx.sm, rfl⟩

theorem rrcConnect_frame :
    rrcConnect ctx nowMs = ctx ∨
      ctx.rrcState = .idle ∧ ∃ net, rrcConnect ctx nowMs = { ctx with
        net := net
        rrcState := .setupRequested
        rrcSetupRequestMs := nowMs } := by
  unfold rrcConnect engineInitiateRrcSetup
  split
  · rename_i hcond
    split
    · exact .inl rfl
    · exact .inr ⟨hcond.1, _, rfl⟩
  · exact .inl rfl

theorem sendUpdate_frame :
    sendUpdate ctx nowMs = ctx ∨
      ctx.mm.expectsResponse = true ∧ ctx.rrcState = .connected ∧
        ∃ net, sendUpdate ctx nowMs = { ctx with
          net := net
          waitingCoreResponse := true
          rrcSetupCompleteMs := nowMs
          postSetupPduCount := 0 } := by
  unfold sendUpdate
  split
  · rename_i hcond
    split
    · exact .inl rfl
    · rename_i nas _
      obtain ⟨net, hlog⟩ := logRegRequest_frame ({ ctx with
        net := (engineSendNasUplink ctx.net nas false).1 }, (engineSendNasUplink ctx.net nas false).2)
      exact .inr ⟨hcond.1, hcond.2.1, net, by simp only [hlog]⟩
  · exact .inl rfl

/-! ## Radio and requests -/

/-- The transport makes steps of its own. -/
def ranSteps (ctx : UeContext) (rs : List RanStep) : UeContext :=
  { ctx with net := { ctx.net with ran := ranRun ctx.net.ran rs } }

/-- Switching on starts the transport; a radio that was off forgets the network first. -/
theorem radioOnStart_frame :
    ∃ rs, radioOnStart ctx =
      if ctx.radioOn then ranSteps ctx rs
      else ranSteps (engineForgetNetworkContext { ctx with radioOn := true }) rs := by
  have hstart : ∀ c : UeContext, ∃ rs,
      (if c.net.ran.state = .idle ∧ c.net.ran.gnbList.length > 0 then
        { c with net := { c.net with ran := (ueRanTransportStart c.net.ran).1 } }
      else c) = ranSteps c rs := by
    intro c
    split
    · exact ⟨[.start], rfl⟩
    · exact ⟨[], rfl⟩
  unfold radioOnStart
  split
  · exact hstart ctx
  · exact hstart _

theorem ueEngineRequestImsPdu_frame :
    ∃ net requested establishing psi pti,
      ueEngineRequestImsPdu ctx = { ctx with
        net := net
        imsPduRequested := requested
        imsPduEstablishing := establishing
        imsPsi := psi
        imsPti := pti } := by
  unfold ueEngineRequestImsPdu
  split
  · exact ⟨_, _, _, _, _, rfl⟩
  split
  · exact ⟨_, _, _, _, _, rfl⟩
  split
  · exact ⟨_, _, _, _, _, rfl⟩
  dsimp only
  split
  · exact ⟨_, _, _, _, _, rfl⟩
  split
  · exact ⟨_, _, _, _, _, rfl⟩
  · exact ⟨_, _, _, _, _, rfl⟩

/-- The message a step hands to the NAS entry point. -/
def nasDelivered (ctx : UeContext) : Step → Option Bytes
  | .recv _ =>
    match recvAction ctx with
    | .nas pdu => some pdu
    | _ => none
  | _ => none

/-! ## The security side of a step -/

/-- Nothing but sending and receiving on the transport happened to the security side. -/
structure Quiet (a b : UeContext) : Prop where
  sent : SentFrom a.net b.net
  cfg : b.cfg = a.cfg
  nonCurrent : b.nasSecNonCurrent = a.nasSecNonCurrent
  dlSecHdr : b.dlSecHdr = a.dlSecHdr
  smcLast : b.smcLast = a.smcLast
  payload : b.smcLastPayload = a.smcLastPayload
  authSqnMs : b.authSqnMs = a.authSqnMs

theorem Quiet.refl : Quiet ctx ctx := ⟨.refl _, rfl, rfl, rfl, rfl, rfl, rfl⟩

theorem Quiet.trans {a b : UeContext} (hab : Quiet a b) (hbc : Quiet b c) : Quiet a c where
  sent := hab.sent.trans hbc.sent
  cfg := hbc.cfg.trans hab.cfg
  nonCurrent := hbc.nonCurrent.trans hab.nonCurrent
  dlSecHdr := hbc.dlSecHdr.trans hab.dlSecHdr
  smcLast := hbc.smcLast.trans hab.smcLast
  payload := hbc.payload.trans hab.payload
  authSqnMs := hbc.authSqnMs.trans hab.authSqnMs

theorem ranSteps_quiet (rs : List RanStep) : Quiet ctx (ranSteps ctx rs) :=
  ⟨.single (.transport rs), rfl, rfl, rfl, rfl, rfl, rfl⟩

theorem mmSmTick_quiet : Quiet ctx (mmSmTick ctx nowMs) :=
  ⟨ueSmTick_net SentFrom.refl SentFrom.trans ueNetworkSmSubmitEstablish_sent
    ueNetworkSmSubmitRelease_sent _ _ _ _, rfl, rfl, rfl, rfl, rfl, rfl⟩

theorem logRegRequest_quiet (r : UeContext × Bool) : Quiet r.1 (logRegRequest r) := by
  unfold logRegRequest
  split
  · exact ⟨.single (.request rfl), rfl, rfl, rfl, rfl, rfl, rfl⟩
  · exact .refl _

theorem sendSetupComplete_quiet (txId : UInt8) : Quiet ctx (sendSetupComplete ctx txId) := by
  unfold sendSetupComplete
  split
  · split
    · exact .refl ctx
    · refine Quiet.trans ?_ (logRegRequest_quiet _)
      exact ranSteps_quiet ctx [.sendNas _ _]
  · exact .refl ctx

theorem engineHandleRrcSetup_quiet (txId : UInt8) (nowMs : UInt64) :
    Quiet ctx (engineHandleRrcSetup ctx txId nowMs) :=
  (sendSetupComplete_quiet ctx txId).trans ⟨.refl _, rfl, rfl, rfl, rfl, rfl, rfl⟩

theorem noteChanges_quiet {ctx a b : UeContext} (h : Quiet ctx b) : Quiet ctx (noteChanges a b) :=
  h.trans ⟨.refl _, rfl, rfl, rfl, rfl, rfl, rfl⟩

theorem sendUpdate_quiet : Quiet ctx (sendUpdate ctx nowMs) := by
  unfold sendUpdate
  split
  · split
    · exact .refl ctx
    · rename_i nas _
      have hsent : Quiet ctx { ctx with net := (engineSendNasUplink ctx.net nas false).1 } :=
        ⟨sendUplink_sent _ _ _, rfl, rfl, rfl, rfl, rfl, rfl⟩
      have hlog := logRegRequest_quiet ({ ctx with
        net := (engineSendNasUplink ctx.net nas false).1 }, (engineSendNasUplink ctx.net nas false).2)
      exact (hsent.trans hlog).trans ⟨.refl _, rfl, rfl, rfl, rfl, rfl, rfl⟩
  · exact .refl ctx

theorem rrcConnect_quiet : Quiet ctx (rrcConnect ctx nowMs) := by
  unfold rrcConnect engineInitiateRrcSetup
  split
  · split
    · exact .refl ctx
    · exact ⟨.single (.transport [.sendNas _ _]), rfl, rfl, rfl, rfl, rfl, rfl⟩
  · exact .refl ctx

theorem userPlaneTick_quiet : Quiet ctx (userPlaneTick ctx) :=
  ⟨.refl _, rfl, rfl, rfl, rfl, rfl, rfl⟩

/-- What happens after the receive loop and before the user plane's turn: a connect request may
be noted, an attempt may find its cell, and only a registration under way opens the window. -/
structure TailKept (a b : UeContext) : Prop where
  quiet : Quiet a b
  sm : ∃ requested, b.sm = { a.sm with connectRequested := requested }
  up : b.up = a.up
  mm : b.mm = a.mm ∨ a.mm.state = .searching ∧ b.mm = ueMmTransitionToRegistering a.mm
  guti : b.guti = a.guti
  window : b.waitingCoreResponse = true → a.waitingCoreResponse = true ∨ b.mm.state = .registering

theorem TailKept.refl : TailKept ctx ctx := ⟨.refl ctx, ⟨_, rfl⟩, rfl, .inl rfl, rfl, .inl⟩

theorem TailKept.registering {a b : UeContext} (h : TailKept a b) (ha : a.mm.state = .registering) :
    b.mm.state = .registering := by
  rcases h.mm with hb | ⟨hsearching, -⟩
  · rw [hb, ha]
  · rw [ha] at hsearching
    cases hsearching

theorem TailKept.trans {a b : UeContext} (hab : TailKept a b) (hbc : TailKept b c) :
    TailKept a c where
  quiet := hab.quiet.trans hbc.quiet
  sm := by
    obtain ⟨_, hb⟩ := hab.sm
    obtain ⟨requested, hc⟩ := hbc.sm
    exact ⟨requested, by rw [hc, hb]⟩
  up := hbc.up.trans hab.up
  mm := by
    rcases hab.mm with hb | ⟨hsearching, hb⟩
    · exact hb ▸ hbc.mm
    · rcases hbc.mm with hc | ⟨hagain, -⟩
      · exact .inr ⟨hsearching, hc.trans hb⟩
      · rw [hb] at hagain
        cases hagain
  guti := hbc.guti.trans hab.guti
  window hc := (hbc.window hc).elim (fun hb => (hab.window hb).imp_right hbc.registering) .inr

/-- After the receive loop the session machine does not move, and the user plane ticks. -/
theorem tickTail_kept :
    tickTail ctx nowMs = ctx ∨ ∃ mid, TailKept ctx mid ∧ tickTail ctx nowMs = userPlaneTick mid := by
  have hauto : TailKept ctx (autoConnect ctx) := by
    unfold autoConnect
    split
    · exact ⟨⟨.refl _, rfl, rfl, rfl, rfl, rfl, rfl⟩, ⟨_, rfl⟩, rfl, .inl rfl, rfl, .inl⟩
    · exact .refl ctx
  have hcell : ∀ c, TailKept c (cellFound c) := by
    intro c
    unfold cellFound
    split
    · rename_i hcond
      exact ⟨⟨.refl _, rfl, rfl, rfl, rfl, rfl, rfl⟩, ⟨_, rfl⟩, rfl, .inr ⟨hcond.1, rfl⟩, rfl, .inl⟩
    · exact .refl c
  have hconnect : ∀ c, TailKept c (rrcConnect c nowMs) := by
    intro c
    have hquiet := rrcConnect_quiet c nowMs
    rcases rrcConnect_frame c nowMs with heq | ⟨-, net, heq⟩
    · rw [heq]
      exact .refl c
    · rw [heq] at hquiet ⊢
      exact ⟨hquiet, ⟨_, rfl⟩, rfl, .inl rfl, rfl, .inl⟩
  have hupdate : ∀ c, TailKept c (sendUpdate c nowMs) := by
    intro c
    have hquiet := sendUpdate_quiet c nowMs
    rcases sendUpdate_frame c nowMs with heq | ⟨hexpects, -, net, heq⟩
    · rw [heq]
      exact .refl c
    · rw [heq] at hquiet ⊢
      exact ⟨hquiet, ⟨_, rfl⟩, rfl, .inl rfl, rfl,
        fun _ => .inr (registering_of_expectsResponse hexpects)⟩
  have htimers : ∀ c, TailKept c (linkDown (windowTimeout (setupTimeout c nowMs) nowMs)) := by
    intro c
    unfold linkDown windowTimeout setupTimeout
    repeat' split
    all_goals
      refine ⟨⟨.refl _, rfl, rfl, rfl, rfl, rfl, rfl⟩, ⟨_, rfl⟩, rfl, .inl rfl, rfl, ?_⟩
      first | exact .inl | exact fun h => (by cases h)
  unfold tickTail
  split
  · exact .inl rfl
  · have hsend := ((hauto.trans (hcell _)).trans (hconnect _)).trans (hupdate _)
    exact .inr ⟨_, hsend.trans (htimers _), rfl⟩

theorem tickTail_quiet : Quiet ctx (tickTail ctx nowMs) := by
  rcases tickTail_kept ctx nowMs with heq | ⟨mid, hkept, heq⟩
  · rw [heq]
    exact .refl ctx
  · rw [heq]
    exact hkept.quiet.trans (userPlaneTick_quiet mid)

theorem ueEngineRequestImsPdu_quiet : Quiet ctx (ueEngineRequestImsPdu ctx) := by
  unfold ueEngineRequestImsPdu
  split
  · exact .refl ctx
  split
  · exact .refl ctx
  split
  · exact .refl ctx
  dsimp only
  split
  · exact ⟨.refl _, rfl, rfl, rfl, rfl, rfl, rfl⟩
  split
  · exact ⟨sendUplink_sent _ _ _, rfl, rfl, rfl, rfl, rfl, rfl⟩
  · exact ⟨sendUplink_sent _ _ _, rfl, rfl, rfl, rfl, rfl, rfl⟩

theorem sendDetach_quiet : Quiet ctx (sendDetach ctx) := by
  unfold sendDetach
  split
  · exact ⟨sendEncoded_sent _ _ _, rfl, rfl, rfl, rfl, rfl, rfl⟩
  · exact .refl ctx

/-- The identity context was cleared on the way from `a` to `b`. -/
def Forgets (a b : UeContext) : Prop :=
  ∃ mid, Quiet a mid ∧ Quiet (engineClearNasIdentityContext mid) b

theorem Forgets.then_quiet {a b : UeContext} (hab : Forgets a b) (hbc : Quiet b c) :
    Forgets a c := by
  obtain ⟨mid, hmid, hb⟩ := hab
  exact ⟨mid, hmid, hb.trans hbc⟩

theorem Quiet.then_forgets {a b : UeContext} (hab : Quiet a b) (hbc : Forgets b c) :
    Forgets a c := by
  obtain ⟨mid, hmid, hc⟩ := hbc
  exact ⟨mid, hab.trans hmid, hc⟩

theorem engineForgetNetworkContext_forgets : Forgets ctx (engineForgetNetworkContext ctx) :=
  ⟨engineResetRrcTracking ctx, ⟨.refl _, rfl, rfl, rfl, rfl, rfl, rfl⟩,
    .single (.transport [.refreshSti]), rfl, rfl, rfl, rfl, rfl, rfl⟩

/-- The steps that reset the context: the radio is switched off, or on after it was off, or
the cell is lost while registered or with a session. -/
def resetsContext (ctx : UeContext) : Step → Bool
  | .setRadio on => !on || !ctx.radioOn
  | .tickHead _ =>
    ctx.radioOn && ctx.net.ran.state = .lost &&
      (ctx.mm.state = .registeredHome || ctx.sm.state = .active)
  | _ => false

theorem tickHead_sec :
    Quiet ctx (tickHead ctx nowMs) ∨
      resetsContext ctx (.tickHead nowMs) = true ∧ Forgets ctx (tickHead ctx nowMs) := by
  unfold tickHead
  split
  · exact .inl ⟨.refl _, rfl, rfl, rfl, rfl, rfl, rfl⟩
  rename_i hon
  unfold ranLossRecovery
  split
  · rename_i hlost
    refine .inr ⟨by simpa [resetsContext, hon] using hlost, ?_⟩
    refine Forgets.then_quiet ?_ (mmSmTick_quiet _ nowMs)
    exact (engineForgetNetworkContext_forgets ctx).then_quiet
      ⟨.refl _, rfl, rfl, rfl, rfl, rfl, rfl⟩
  · exact .inl (mmSmTick_quiet ctx nowMs)

theorem radioOffStop_forgets : Forgets ctx (radioOffStop ctx) := by
  have hoff : Quiet ctx { ctx with radioOn := false } := ⟨.refl _, rfl, rfl, rfl, rfl, rfl, rfl⟩
  have hdetach := hoff.trans (sendDetach_quiet _)
  unfold radioOffStop
  dsimp only
  refine Quiet.then_forgets ?_ (engineForgetNetworkContext_forgets _)
  split
  · exact hdetach.trans (ranSteps_quiet _ [.stop])
  · exact hdetach

theorem radioOnStart_sec :
    Quiet ctx (radioOnStart ctx) ∨ ctx.radioOn = false ∧ Forgets ctx (radioOnStart ctx) := by
  obtain ⟨rs, hstart⟩ := radioOnStart_frame ctx
  rw [hstart]
  split
  · exact .inl (ranSteps_quiet ctx rs)
  · rename_i hoff
    have hon : Quiet ctx { ctx with radioOn := true } := ⟨.refl _, rfl, rfl, rfl, rfl, rfl, rfl⟩
    refine .inr ⟨by simpa using hoff, ?_⟩
    exact (hon.then_forgets (engineForgetNetworkContext_forgets _)).then_quiet (ranSteps_quiet _ rs)

theorem ueEngineSetRadio_sec (on : Bool) :
    Quiet ctx (ueEngineSetRadio ctx on) ∨
      resetsContext ctx (.setRadio on) = true ∧ Forgets ctx (ueEngineSetRadio ctx on) := by
  have hrest : ∀ c : UeContext, Quiet c (noteChanges ctx
      (if on = true ∧ (ueMmOnRadio c.mm on).state = .deregistered then
        { c with
          mm := ueMmRequestRegister (ueMmOnRadio c.mm on)
          sm := ueSmOnRadio c.sm on }
      else { c with mm := ueMmOnRadio c.mm on, sm := ueSmOnRadio c.sm on })) := by
    intro c
    apply noteChanges_quiet
    split
    · exact ⟨.refl _, rfl, rfl, rfl, rfl, rfl, rfl⟩
    · exact ⟨.refl _, rfl, rfl, rfl, rfl, rfl, rfl⟩
  cases on with
  | true =>
    rcases radioOnStart_sec ctx with h | ⟨hoff, h⟩
    · exact .inl (h.trans (hrest _))
    · exact .inr ⟨by simp [resetsContext, hoff], h.then_quiet (hrest _)⟩
  | false => exact .inr ⟨rfl, (radioOffStop_forgets ctx).then_quiet (hrest _)⟩

/-- What a step can do to the security side: nothing but sending, clear it, or handle the
message it delivers. -/
theorem step_sec (e : Step) :
    Quiet ctx (step ctx e) ∨ resetsContext ctx e = true ∧ Forgets ctx (step ctx e) ∨
      ∃ ran count pdu, Quiet ctx (receiving ctx ran count) ∧ nasDelivered ctx e = some pdu ∧
        step ctx e = decodeAndProcessNas (receiving ctx ran count) pdu := by
  cases e with
  | tickHead nowMs => exact (tickHead_sec ctx nowMs).imp_right .inl
  | recv nowMs =>
    obtain ⟨queue, count, hsent, hrecv⟩ := recvStep_eq ctx nowMs
    have htake : Quiet ctx (receiving ctx { ctx.net.ran with nasQueue := queue } count) :=
      ⟨hsent, rfl, rfl, rfl, rfl, rfl, rfl⟩
    cases haction : recvAction ctx with
    | rrcSetup txId =>
      left
      rw [step, hrecv, haction]
      exact htake.trans (engineHandleRrcSetup_quiet _ txId nowMs)
    | nas pdu =>
      right; right
      refine ⟨{ ctx.net.ran with nasQueue := queue }, count, pdu, htake, ?_, ?_⟩
      · simp only [nasDelivered, haction]
      · rw [step, hrecv, haction]
        rfl
    | ignore =>
      left
      rw [step, hrecv, haction]
      exact htake
  | tickTail nowMs => exact .inl (tickTail_quiet ctx nowMs)
  | setRadio on => exact (ueEngineSetRadio_sec ctx on).imp_right .inl
  | requestRegister => exact .inl (noteChanges_quiet ⟨.refl _, rfl, rfl, rfl, rfl, rfl, rfl⟩)
  | requestPeriodicUpdate => exact .inl (noteChanges_quiet ⟨.refl _, rfl, rfl, rfl, rfl, rfl, rfl⟩)
  | requestMobilityUpdate => exact .inl (noteChanges_quiet ⟨.refl _, rfl, rfl, rfl, rfl, rfl, rfl⟩)
  | requestConnect dnn => exact .inl (noteChanges_quiet ⟨.refl _, rfl, rfl, rfl, rfl, rfl, rfl⟩)
  | requestDisconnect => exact .inl (noteChanges_quiet ⟨.refl _, rfl, rfl, rfl, rfl, rfl, rfl⟩)
  | requestImsPdu => exact .inl (ueEngineRequestImsPdu_quiet ctx)
  | rx nowMs dgrams recvError =>
    obtain ⟨rs, hrs, -⟩ := ueRanTransportTick_run ctx.net.ran nowMs dgrams recvError
    rw [step, hrs]
    exact .inl (ranSteps_quiet ctx rs)
  | os answers => exact .inl (ranSteps_quiet ctx [.os answers])

/-- A step that delivers a message takes it from the queue and handles it. -/
theorem step_of_delivered_queue {ctx : UeContext} {e : Step} (h : nasDelivered ctx e = some pdu) :
    ∃ queue count, step ctx e =
      decodeAndProcessNas (receiving ctx { ctx.net.ran with nasQueue := queue } count) pdu := by
  cases e with
  | recv nowMs =>
    obtain ⟨queue, count, -, hrecv⟩ := recvStep_eq ctx nowMs
    have haction : recvAction ctx = .nas pdu := by
      simp only [nasDelivered] at h
      split at h
      · cases h
        assumption
      · cases h
    exact ⟨queue, count, by rw [step, hrecv, haction]; rfl⟩
  | _ => cases h

theorem step_of_delivered {ctx : UeContext} {e : Step} (h : nasDelivered ctx e = some pdu) :
    ∃ ran count, step ctx e = decodeAndProcessNas (receiving ctx ran count) pdu := by
  obtain ⟨queue, count, hstep⟩ := step_of_delivered_queue h
  exact ⟨_, count, hstep⟩

/-! ## The security side of a downlink message -/

/-- Events other than the two that handle keys do nothing to the security side but send. -/
theorem dispatchNasEvent_quiet {ev : UeNasEvent} (hauth : ev.type ≠ .authenticationRequest)
    (hsmc : ev.type ≠ .securityModeCommand) : Quiet ctx (dispatchNasEvent ctx ev) := by
  have hsend : ∀ e integrityOnly,
      Quiet ctx { ctx with net := sendEncoded ctx.net e integrityOnly } :=
    fun e integrityOnly => ⟨sendEncoded_sent _ _ _, rfl, rfl, rfl, rfl, rfl, rfl⟩
  unfold dispatchNasEvent
  split
  · unfold onRegistrationAccept
    dsimp only
    split
    · exact (hsend (ueNasEncodeRegistrationComplete 16) false).trans
        ⟨.refl _, rfl, rfl, rfl, rfl, rfl, rfl⟩
    · exact ⟨.refl _, rfl, rfl, rfl, rfl, rfl, rfl⟩
  · exact ⟨.refl _, rfl, rfl, rfl, rfl, rfl, rfl⟩
  · unfold onPduSessionEstAccept
    split
    · exact ⟨.refl _, rfl, rfl, rfl, rfl, rfl, rfl⟩
    split
    · exact hsend _ _
    · exact ⟨.refl _, rfl, rfl, rfl, rfl, rfl, rfl⟩
  · unfold onPduSessionEstReject
    split
    · exact ⟨.refl _, rfl, rfl, rfl, rfl, rfl, rfl⟩
    split
    · exact hsend _ _
    · exact ⟨ueSmOnPduSessionReject_net SentFrom.refl SentFrom.trans
        ueNetworkSmSubmitEstablish_sent _ _ _, rfl, rfl, rfl, rfl, rfl, rfl⟩
  · unfold onPduSessionReleaseCmd
    dsimp only
    split
    · exact (hsend _ _).trans ⟨.refl _, rfl, rfl, rfl, rfl, rfl, rfl⟩
    · exact (hsend _ _).trans ⟨.refl _, rfl, rfl, rfl, rfl, rfl, rfl⟩
  · rename_i h
    exact absurd h hauth
  · rename_i h
    exact absurd h hsmc
  · exact hsend _ _
  · unfold onConfigUpdateCommand
    split
    · exact hsend _ _
    · exact .refl ctx
  · exact .refl ctx

theorem logVerified_suffix (alg : UeNasIntegrityAlg) (v : DlVerified) (trace : List Obs) :
    trace <:+ logVerified alg v trace := by
  unfold logVerified
  split
  · exact List.suffix_rfl
  · exact List.suffix_cons _ _

theorem smcRemember_net : (smcRemember ctx sel).net = ctx.net := by
  obtain ⟨last, h⟩ := smcRemember_frame ctx sel
  rw [h]

/-- The answer to a command is sent, and nothing else happens. -/
theorem smcComplete_sent : SentFrom ctx.net (smcComplete (smcRemember ctx sel)).net := by
  rw [smcComplete, smcRemember_net]
  exact sendEncoded_sent _ _ _

/-! ## The configuration -/

theorem dispatchNasEvent_cfg : (dispatchNasEvent ctx ev).cfg = ctx.cfg := by
  by_cases hauth : ev.type = .authenticationRequest
  · obtain ⟨_, _, _, _, hframe⟩ := onAuthenticationRequest_frame ctx ev
    simp only [dispatchNasEvent, hauth, hframe]
  by_cases hsmc : ev.type = .securityModeCommand
  · obtain ⟨_, _, _, hframe⟩ := onSecurityModeCommand_frame ctx ev
    simp only [dispatchNasEvent, hsmc, hframe]
  · exact (dispatchNasEvent_quiet ctx hauth hsmc).cfg

/-- The configuration is never written. -/
theorem step_cfg (e : Step) : (step ctx e).cfg = ctx.cfg := by
  rcases step_sec ctx e with hquiet | ⟨-, mid, hmid, hnext⟩ | ⟨ran, count, pdu, -, -, hnext⟩
  · exact hquiet.cfg
  · exact hnext.cfg.trans hmid.cfg
  · rw [hnext]
    exact decodeAndProcessNas_invariant (P := fun c => c.cfg = ctx.cfg) (fun _ _ _ _ _ hc => hc)
      (fun c ev hc => (dispatchNasEvent_cfg c ev).trans hc) (fun _ _ hc => hc) pdu rfl

end VirtualLte.Engine
