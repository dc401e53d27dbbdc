import VirtualLte.Nas.Bounds
import VirtualLte.Safety.Resynchronisation
import VirtualLte.Safety.SecurityMode

/-!
# A Security Mode Command delivered again

A network that misses the Security Mode Complete sends its command again.  The UE knows the
command by the fingerprint it kept, answers it once more and installs nothing.

* `Remembers` is a UE that would know the command: its fingerprint is kept and its context is
  in use.  Accepting the command leads there (`AcceptsCommand.remembers`).
* `AnsweredAgain` is what a second delivery does (`Remembers.answeredAgain`).
* `repeatedCommand_answered`: it does so for as long as the command is the last one, no
  challenge comes in, and no command in the clear is heeded.  `repeatedCommand_reinstalled` is a
  run with such a command.
-/

namespace VirtualLte.Engine

open Crypto Nas Ran Mm Sm Up

variable {p : Bytes} {ctx ctx₀ : UeContext} {ev : UeNasEvent}

/-! ## The Complete -/

/-- The Complete, with the Registration Request in it if there is one. -/
def completeMessage (request : Option Bytes) : Bytes :=
  [nasEpd5gmm, nasShtNotProtected, nasMsgSecurityModeComplete] ++
    match request with
    | none => []
    | some r => [0x71] ++ putBe16 r.length ++ r

/-- An identity takes at most 21 octets. -/
theorem mobileIdentity_length {imsi mcc mnc : Bytes} {guti : Option Bytes} {mid : Bytes}
    (himsi : imsi.length < 32) (hguti : ∀ g, guti = some g → g.length ≤ 16)
    (h : mobileIdentity imsi mcc mnc guti = some mid) : mid.length ≤ 21 := by
  unfold mobileIdentity at h
  split at h
  · cases h
    have := hguti _ rfl
    omega
  · obtain ⟨hshape, -, rfl⟩ := (ueNasEncodeSuci_pdu _ _ _ _ _).mp h
    have hmcc := hshape.mccLen
    have hmnc := hshape.mncLen
    rw [suciOctets_length, msinOf, List.length_drop]
    omega

/-- The Registration Request leaves room for the header of the Complete. -/
theorem registrationRequest_length (himsi : ctx.cfg.sim.imsi.length < 32)
    (hguti : ctx.guti.length ≤ 16) {r : Bytes} (h : (registrationRequest ctx false).pdu? = some r) :
    0 < r.length ∧ r.length ≤ 41 := by
  unfold registrationRequest at h
  have hpos := (ueNasEncodeRegistrationRequest_length h).1
  refine ⟨hpos, ?_⟩
  cases hmid : mobileIdentity ctx.cfg.sim.imsi ctx.cfg.network.mcc ctx.cfg.network.mnc
      (if ctx.guti.length > 0 then some ctx.guti else none) with
  | none =>
    rw [ueNasEncodeRegistrationRequest, hmid] at h
    cases h
  | some mid =>
    have hlen := mobileIdentity_length himsi (fun g hg => by
      split at hg
      · cases hg
        exact hguti
      · cases hg) hmid
    obtain ⟨nas, hdone, hnas⟩ := registrationRequest_done hmid
      (show 20 + mid.length ≤ 256 by omega) ctx.cfg.network.sliceSst (engineRegType ctx.mm)
      (engineRegNgksi ctx) false
    have hoptions : registrationOptions ctx.cfg.network.sliceSst false ≤ 10 := by
      simp only [registrationOptions, Bool.false_eq_true, if_false]
      split
      · omega
      · omega
    rw [hdone, pdu?_done, Option.some.injEq] at h
    rw [← h, hnas]
    omega

/-- The Complete is encoded, whether or not the Registration Request is. -/
theorem ueNasEncodeSecurityModeComplete_request (himsi : ctx.cfg.sim.imsi.length < 32)
    (hguti : ctx.guti.length ≤ 16) :
    ueNasEncodeSecurityModeComplete 64 (registrationRequest ctx false).pdu? =
        .done (completeMessage (registrationRequest ctx false).pdu?) ∧
      (completeMessage (registrationRequest ctx false).pdu?).length ≤ 47 := by
  cases hrequest : (registrationRequest ctx false).pdu? with
  | none => exact ⟨rfl, by decide⟩
  | some r =>
    obtain ⟨hpos, hlen⟩ := registrationRequest_length himsi hguti hrequest
    constructor
    · unfold ueNasEncodeSecurityModeComplete completeMessage
      dsimp only
      rw [if_neg (by omega), if_pos hpos]
      simp only [List.append_assoc]
    · simp only [completeMessage, putBe16, List.length_append, List.length_cons, List.length_nil]
      omega

/-! ## Knowing the command -/

/-- A context that has taken a message with header type 3 apart. -/
def commandContext (ctx : UeContext) (p : Bytes) : UeContext :=
  { cacheHdr ctx p with smcLastPayload := cachedPayload p }

/-- The command is taken apart, finds its context, and is known or verified. -/
structure AcceptsCommand (ctx : UeContext) (p : Bytes) (ev : UeNasEvent) : Prop where
  isProtected : isProtected p = true
  sht : octet p 1 = nasShtIntegrityProtectedNewCtx
  len : 7 ≤ p.length
  command : smcIn (p.drop 7) = some ev
  accepted : ∃ target, smcTarget (commandContext ctx p) (smcSelection ev).ngksi = some target ∧
    (smcDuplicate (commandContext ctx p) (smcSelection ev) = true ∨
      (verifySmcNewContextMac (commandContext ctx p) (target.sec (commandContext ctx p))
        (smcSelection ev)).isSome = true)

theorem smcTarget_commandContext (ctx : UeContext) (p : Bytes) (ngksi : UInt8) :
    smcTarget (commandContext ctx p) ngksi = smcTarget ctx ngksi := rfl

/-- What is kept of the command. -/
def commandFingerprint (p : Bytes) (ev : UeNasEvent) : SmcLast :=
  smcFingerprint ⟨octet p 1, (secHeaderOf p).mac, (secHeaderOf p).sqn⟩ (smcSelection ev)

/-- The command is kept, and its context is in use. -/
structure Remembers (p : Bytes) (ev : UeNasEvent) (ctx : UeContext) : Prop where
  last : ctx.smcLast = some (commandFingerprint p ev)
  active : ctx.net.nasSec.active = true
  ngksi : ctx.net.nasSec.ngksi = (smcSelection ev).ngksi

theorem Remembers.congr {a b : UeContext} (h : Remembers p ev a) (hlast : b.smcLast = a.smcLast)
    (hactive : b.net.nasSec.active = a.net.nasSec.active)
    (hngksi : b.net.nasSec.ngksi = a.net.nasSec.ngksi) : Remembers p ev b :=
  ⟨hlast.trans h.last, hactive.trans h.active, hngksi.trans h.ngksi⟩

theorem Remembers.quiet {a b : UeContext} (h : Remembers p ev a) (hquiet : Quiet a b) :
    Remembers p ev b := by
  obtain ⟨ul, hul⟩ := hquiet.sent.nasSec
  exact h.congr hquiet.smcLast (by rw [hul]) (by rw [hul])

section Command

variable {ctx : UeContext} {p : Bytes} {ev : UeNasEvent}

theorem AcceptsCommand.unwrapNas (h : AcceptsCommand ctx p ev) (c : UeContext) :
    unwrapNas c p = some (commandContext c p, p.drop 7) := by
  have hparse : ueNasSecurityUnwrapParseOnly p = some (secHeaderOf p, p.drop 7) := by
    have hprot := h.isProtected
    simp only [Engine.isProtected, Bool.and_eq_true, decide_eq_true_eq] at hprot
    unfold ueNasSecurityUnwrapParseOnly
    rw [if_neg (by have := h.len; omega), if_neg (not_not.mpr hprot.1.2), if_neg hprot.2]
  unfold Engine.unwrapNas unwrapNewCtx
  rw [if_neg (by rw [h.isProtected]; decide), if_pos h.sht, hparse]
  rfl

theorem AcceptsCommand.newCtxHdr (h : AcceptsCommand ctx p ev) (c : UeContext) :
    newCtxHdr (commandContext c p) =
      some ⟨octet p 1, (secHeaderOf p).mac, (secHeaderOf p).sqn⟩ := by
  have hcache := newCtxHdr_cacheHdr c p
  rw [if_pos h.sht] at hcache
  exact hcache

/-- The command is handled as the Security Mode Command in it. -/
theorem AcceptsCommand.handled (h : AcceptsCommand ctx p ev) (c : UeContext) :
    decodeAndProcessNas c p =
      noteChanges (commandContext c p) (onSecurityModeCommand (commandContext c p) ev) := by
  obtain ⟨hdecode, htype⟩ := smcIn_some h.command
  unfold decodeAndProcessNas
  rw [h.unwrapNas c]
  simp only [hdecode, engineProcessNasEvent, dispatchNasEvent, htype]

end Command

/-! ## A kept command is in use -/

/-- The context of the command that is kept is the current one. -/
def CommandInUse (ctx : UeContext) : Prop :=
  ∀ last, ctx.smcLast = some last →
    ctx.net.nasSec.active = true ∧ ctx.net.nasSec.ngksi = last.ngksi

theorem CommandInUse.congr {a b : UeContext} (h : CommandInUse a) (hlast : b.smcLast = a.smcLast)
    (hactive : b.net.nasSec.active = a.net.nasSec.active)
    (hngksi : b.net.nasSec.ngksi = a.net.nasSec.ngksi) : CommandInUse b := by
  intro last hb
  obtain ⟨hact, hksi⟩ := h last (hlast.symm.trans hb)
  exact ⟨hactive.trans hact, hngksi.trans hksi⟩

/-- Sending leaves it in use. -/
theorem CommandInUse.sent {a b : UeContext} {sec : UeNasSecurityCtx} (h : CommandInUse a)
    (hsent : SentFrom { a.net with nasSec := sec } b.net)
    (hactive : sec.active = a.net.nasSec.active) (hngksi : sec.ngksi = a.net.nasSec.ngksi)
    (hlast : b.smcLast = a.smcLast) : CommandInUse b := by
  obtain ⟨ul, hul⟩ := hsent.nasSec
  refine h.congr hlast ?_ ?_
  · rw [hul]
    exact hactive
  · rw [hul]
    exact hngksi

/-- A command that was just remembered, and whose context is the current one. -/
theorem commandInUse_complete {c : UeContext} {sel : SmcSelection} {hdr : DlSecHdr}
    (hhdr : newCtxHdr c = some hdr) (hactive : c.net.nasSec.active = true)
    (hngksi : c.net.nasSec.ngksi = sel.ngksi) :
    (smcComplete (smcRemember c sel)).smcLast = some (smcFingerprint hdr sel) ∧
      (smcComplete (smcRemember c sel)).net.nasSec.active = true ∧
      (smcComplete (smcRemember c sel)).net.nasSec.ngksi = sel.ngksi := by
  obtain ⟨ul, hul⟩ := (smcComplete_sent c sel).nasSec
  refine ⟨?_, by rw [hul]; exact hactive, by rw [hul]; exact hngksi⟩
  simp only [smcComplete, smcRemember, hhdr]

theorem smcInstall_inUse (ctx : UeContext) (target : SmcTarget) (sel : SmcSelection)
    (c : UeNasCount) (count0 : Bool) :
    (smcInstall ctx target sel c count0).net.nasSec.active = true ∧
      (smcInstall ctx target sel c count0).net.nasSec.ngksi = sel.ngksi ∧
      newCtxHdr (smcInstall ctx target sel c count0) = newCtxHdr ctx := by
  cases target with
  | current => exact ⟨rfl, rfl, rfl⟩
  | nonCurrent sec => exact ⟨rfl, rfl, rfl⟩

theorem smcDuplicate_some {sel : SmcSelection} (h : smcDuplicate ctx sel = true) :
    ∃ hdr, newCtxHdr ctx = some hdr ∧ ctx.smcLast = some (smcFingerprint hdr sel) := by
  unfold smcDuplicate at h
  split at h
  · rename_i hdr hhdr
    exact ⟨hdr, hhdr, of_decide_eq_true h⟩
  · cases h

theorem commandInUse_invariant :
    SecurityInvariant CommandInUse (fun _ _ => True) fun _ _ => True where
  quiet := fun hquiet h => h.sent hquiet.sent rfl rfl hquiet.smcLast
  clear := fun _ => nofun
  unwrapped := by
    intro ctx c pdu plain h _ hunwrapped
    cases hunwrapped with
    | plain hprot heq hplain =>
      rw [heq]
      exact h
    | newCtx hprot hsht hlen heq hplain =>
      rw [heq]
      exact h.congr rfl rfl rfl
    | verified hprot hsht hact hmac heq =>
      rw [heq]
      exact h.congr rfl rfl rfl
  challenge := by
    intro ctx ctx' ev h _ _ houtcome
    cases houtcome with
    | ignored hnone heq =>
      rw [heq]
      exact h
    | refused ch hnone hsent hnon hlast => exact h.sent hsent rfl rfl hlast
    | accepted ch hsome hsent hnon hlast => exact h.sent hsent rfl rfl hlast
  command := by
    intro ctx ctx' ev h _ _ houtcome
    cases houtcome with
    | refused heq =>
      rw [heq]
      exact h
    | repeated hdup heq =>
      obtain ⟨hdr, hhdr, hlast⟩ := smcDuplicate_some hdup
      obtain ⟨hactive, hngksi⟩ := h _ hlast
      obtain ⟨hkept, hinUse⟩ := commandInUse_complete hhdr hactive hngksi
      intro last hafter
      rw [heq, hkept] at hafter
      cases hafter
      rw [heq]
      exact hinUse
    | installed target c count0 htarget hdup hverify heq =>
      obtain ⟨hdr, hhdr, -⟩ := verifySmcNewContextMac_some hverify
      obtain ⟨hactive, hngksi, hsame⟩ := smcInstall_inUse ctx target (smcSelection ev) c count0
      obtain ⟨hkept, hinUse⟩ := commandInUse_complete (hsame.trans hhdr) hactive hngksi
      intro last hafter
      rw [heq, hkept] at hafter
      cases hafter
      rw [heq]
      exact hinUse
  unwrap_receiving := fun _ _ h => h
  handle_receiving := fun _ _ h => h

theorem Reachable.commandInUse (h : Reachable ctx) : CommandInUse ctx := by
  obtain ⟨ctx₀, es, ⟨cfg, os, rfl⟩, rfl⟩ := h
  refine commandInUse_invariant.run nofun ?_
  exact Transition.along_of_forall (fun _ _ _ _ => ⟨trivial, fun _ _ _ _ _ => trivial⟩) _ es

/-- In every run the security context fits the command kept, and SNOW 3G is not in use. -/
theorem run_commandInUse (cfg : UeInstanceConfig) (os : OsAnswers) (es : List Step) :
    let ctx := run (ueContextInitFromConfig cfg os) es
    CommandInUse ctx ∧ SourceAlgs ctx.net.nasSec :=
  ⟨Reachable.commandInUse ⟨_, es, ⟨cfg, os, rfl⟩, rfl⟩,
    Reachable.sourceAlgs ⟨_, es, ⟨cfg, os, rfl⟩, rfl⟩⟩

/-- A UE that accepts the command knows it from then on. -/
theorem AcceptsCommand.remembers (h : AcceptsCommand ctx p ev) (hinUse : CommandInUse ctx) :
    Remembers p ev (decodeAndProcessNas ctx p) := by
  obtain ⟨target, htarget, haccepted⟩ := h.accepted
  have hhdr := h.newCtxHdr ctx
  rw [h.handled ctx]
  by_cases hdup : smcDuplicate (commandContext ctx p) (smcSelection ev) = true
  · have hagain : onSecurityModeCommand (commandContext ctx p) ev =
        smcComplete (smcRemember (commandContext ctx p) (smcSelection ev)) := by
      simp only [onSecurityModeCommand, htarget, hdup, if_true]
    obtain ⟨hdr, hhdr', hlast⟩ := smcDuplicate_some hdup
    rw [hhdr] at hhdr'
    cases hhdr'
    obtain ⟨hactive, hngksi⟩ := hinUse _ hlast
    obtain ⟨hkept, hact, hksi⟩ := @commandInUse_complete (commandContext ctx p) (smcSelection ev) _
      hhdr hactive hngksi
    rw [hagain]
    exact ⟨hkept, hact, hksi⟩
  · obtain ⟨⟨c, count0⟩, hverify⟩ :=
      Option.isSome_iff_exists.mp (haccepted.resolve_left hdup)
    have hinstalled : onSecurityModeCommand (commandContext ctx p) ev = smcComplete (smcRemember
        (smcInstall (commandContext ctx p) target (smcSelection ev) c count0)
        (smcSelection ev)) := by
      simp only [onSecurityModeCommand, htarget, hdup, hverify, if_false, Bool.false_eq_true]
    obtain ⟨hactive, hngksi, hsame⟩ :=
      smcInstall_inUse (commandContext ctx p) target (smcSelection ev) c count0
    obtain ⟨hkept, hact, hksi⟩ := commandInUse_complete (hsame.trans hhdr) hactive hngksi
    rw [hinstalled]
    exact ⟨hkept, hact, hksi⟩

/-! ## The second delivery -/

/-- Both contexts are as they were but for the uplink COUNT, and one message went out, with
header type 4. -/
structure AnsweredAgain (snow : Snow3g) (ctx ctx' : UeContext) (nas : Bytes) : Prop where
  current : ctx'.net.nasSec =
    { ctx.net.nasSec with ulCount := ueNasCountIncrement ctx.net.nasSec.ulCount }
  nonCurrent : ctx'.nasSecNonCurrent = ctx.nasSecNonCurrent
  handedOver : ∃ queue, ctx'.net = (engineSendNasUplink
    { ctx.net with ran := { ctx.net.ran with nasQueue := queue } } nas true).1
  sent : ∀ addr, servingAddr ctx.net.ran = some addr →
    ∃ dgram, CarriesNas snow ctx.net.nasSec ctx.net.ran nasShtIntegrityProtectedCipheredNewCtx
        nas dgram ∧ ctx'.net.ran.sent = sentAfter ctx.net.ran addr dgram

/-- A UE that knows the command answers it, whatever its transport. -/
theorem Remembers.handled (hp : AcceptsCommand ctx₀ p ev) (h : Remembers p ev ctx) :
    decodeAndProcessNas ctx p = noteChanges (commandContext ctx p)
      (smcComplete { commandContext ctx p with smcLast := some (commandFingerprint p ev) }) := by
  have hhdr := hp.newCtxHdr ctx
  have htarget : smcTarget (commandContext ctx p) (smcSelection ev).ngksi = some .current :=
    if_pos ⟨h.active, h.ngksi⟩
  have hdup : smcDuplicate (commandContext ctx p) (smcSelection ev) = true := by
    rw [smcDuplicate, hhdr]
    exact decide_eq_true h.last
  rw [hp.handled ctx]
  simp only [onSecurityModeCommand, htarget, hdup, if_true, smcRemember, hhdr]
  rfl

theorem Remembers.answeredAgain (snow : Snow3g) (hp : AcceptsCommand ctx₀ p ev)
    (h : Remembers p ev ctx) (halgs : SourceAlgs ctx.net.nasSec)
    (himsi : ctx.cfg.sim.imsi.length < 32) (hguti : ctx.guti.length ≤ 16) {e : Step}
    (hnas : nasDelivered ctx e = some p) :
    AnsweredAgain snow ctx (step ctx e)
      (completeMessage (registrationRequest ctx false).pdu?) := by
  obtain ⟨queue, count, hstep⟩ := step_of_delivered_queue hnas
  have hremembers : Remembers p ev
      (receiving ctx { ctx.net.ran with nasQueue := queue } count) := h.congr rfl rfl rfl
  obtain ⟨hencoded, hlen⟩ := ueNasEncodeSecurityModeComplete_request himsi hguti
  have hpos : 0 < (completeMessage (registrationRequest ctx false).pdu?).length := by
    simp [completeMessage]
  have hnet : (step ctx e).net = (engineSendNasUplink
      { ctx.net with ran := { ctx.net.ran with nasQueue := queue } }
      (completeMessage (registrationRequest ctx false).pdu?) true).1 := by
    rw [hstep, hremembers.handled hp]
    show sendEncoded { ctx.net with ran := { ctx.net.ran with nasQueue := queue } }
      (ueNasEncodeSecurityModeComplete 64 (registrationRequest ctx false).pdu?) true = _
    rw [hencoded]
    rfl
  have hcurrent : (step ctx e).net.nasSec =
      { ctx.net.nasSec with ulCount := ueNasCountIncrement ctx.net.nasSec.ulCount } := by
    obtain ⟨env, trace, -, -, -, hsend⟩ := @engineSendNasUplink_envelope snow
      { ctx.net with ran := { ctx.net.ran with nasQueue := queue } } _ h.active halgs.intAlg
      halgs.encAlg hpos (by omega) true
    obtain ⟨ran, hframe⟩ := sendInRrc_frame
      { nasSec := { ctx.net.nasSec with ulCount := ueNasCountIncrement ctx.net.nasSec.ulCount }
        ran := { ctx.net.ran with nasQueue := queue }
        trace := trace } env
    rw [hnet, hsend, hframe]
  have hnonCurrent : (step ctx e).nasSecNonCurrent = ctx.nasSecNonCurrent := by
    rw [hstep, hremembers.handled hp]
    rfl
  refine ⟨hcurrent, hnonCurrent, ⟨queue, hnet⟩, fun addr haddr => ?_⟩
  rw [hnet]
  exact @engineSendNasUplink_carried snow
    { ctx.net with ran := { ctx.net.ran with nasQueue := queue } } addr _ h.active halgs.intAlg
    halgs.encAlg haddr hpos (by omega) true

/-! ## As long as it is the last one -/

/-- The event a message is handled as. -/
def handledEvent (ctx : UeContext) (pdu : Bytes) : Option UeNasEvent :=
  ((unwrapNas ctx pdu).map Prod.snd).bind ueNasDecodeEvent

/-- The contexts are not cleared, no other message with header type 3 comes in, and no
Authentication Request is handled. -/
def StaysLast (p : Bytes) (ctx : UeContext) (e : Step) : Prop :=
  resetsContext ctx e = false ∧ ∀ pdu, nasDelivered ctx e = some pdu →
    (isProtected pdu = true → octet pdu 1 = nasShtIntegrityProtectedNewCtx → pdu = p) ∧
      ∀ ev, handledEvent ctx pdu = some ev → ev.type ≠ .authenticationRequest

/-- A Security Mode Command in the clear finds no header of type 3 remembered. -/
def PlainUnheeded (ctx : UeContext) (e : Step) : Prop :=
  ∀ pdu, nasDelivered ctx e = some pdu → isProtected pdu = false →
    (smcIn pdu).isSome = true → newCtxHdr ctx = none

theorem onSecurityModeCommand_unheeded (h : newCtxHdr ctx = none) (ev : UeNasEvent) :
    onSecurityModeCommand ctx ev = ctx := by
  have hdup : smcDuplicate ctx (smcSelection ev) = false := by
    rw [smcDuplicate, h]
  unfold onSecurityModeCommand
  dsimp only
  split
  · rfl
  · rename_i target _
    have hverify : verifySmcNewContextMac ctx (target.sec ctx) (smcSelection ev) = none := by
      rw [verifySmcNewContextMac, h]
    rw [hdup, hverify]
    rfl

/-- Another message leaves the command known. -/
theorem Remembers.message {pdu : Bytes} (h : Remembers p ev ctx)
    (hother : ¬ (isProtected pdu = true ∧ octet pdu 1 = nasShtIntegrityProtectedNewCtx))
    (hauth : ∀ ev, handledEvent ctx pdu = some ev → ev.type ≠ .authenticationRequest)
    (hplain : isProtected pdu = false → (smcIn pdu).isSome = true → newCtxHdr ctx = none) :
    Remembers p ev (decodeAndProcessNas ctx pdu) := by
  unfold decodeAndProcessNas
  cases hunwrap : unwrapNas ctx pdu with
  | none => exact h
  | some r =>
    obtain ⟨c, plain⟩ := r
    have hevent : handledEvent ctx pdu = ueNasDecodeEvent plain := by
      rw [handledEvent, hunwrap]
      rfl
    -- a header of type 3 is not remembered when a command is inside
    have hc : Remembers p ev c ∧ ((smcIn plain).isSome = true → newCtxHdr c = none) := by
      cases unwrapNas_cases hunwrap with
      | plain hprot heq heqPlain =>
        rw [heq, heqPlain]
        exact ⟨h, hplain hprot⟩
      | newCtx hprot hsht hlen heq heqPlain => exact absurd ⟨hprot, hsht⟩ hother
      | verified hprot hsht hact hmac heq =>
        rw [heq]
        refine ⟨h.congr rfl rfl rfl, fun _ => ?_⟩
        rw [newCtxHdr_cacheHdr, if_neg hsht]
    dsimp only
    cases hdecode : ueNasDecodeEvent plain with
    | none => exact hc.1
    | some ev' =>
      have hnotAuth := hauth ev' (hevent.trans hdecode)
      refine Remembers.quiet hc.1 (noteChanges_quiet ?_)
      by_cases hsmc : ev'.type = .securityModeCommand
      · have hsome : (smcIn plain).isSome = true := by
          rw [smcIn, hdecode, Option.filter_some, hsmc]
          rfl
        have hdispatch : dispatchNasEvent c ev' = onSecurityModeCommand c ev' := by
          simp only [dispatchNasEvent, hsmc]
        rw [hdispatch, onSecurityModeCommand_unheeded (hc.2 hsome)]
        exact .refl c
      · exact dispatchNasEvent_quiet c hnotAuth hsmc

/-- So does the command itself. -/
theorem Remembers.again (hp : AcceptsCommand ctx₀ p ev) (h : Remembers p ev ctx) :
    Remembers p ev (decodeAndProcessNas ctx p) := by
  have hkept : Remembers p ev
      { commandContext ctx p with smcLast := some (commandFingerprint p ev) } :=
    ⟨rfl, h.active, h.ngksi⟩
  rw [h.handled hp]
  exact hkept.quiet (noteChanges_quiet ⟨sendEncoded_sent _ _ _, rfl, rfl, rfl, rfl, rfl, rfl⟩)

theorem handledEvent_receiving (ctx : UeContext) (ran : UeRanTransportCtx) (count : UInt32)
    (pdu : Bytes) : handledEvent (receiving ctx ran count) pdu = handledEvent ctx pdu := by
  rw [handledEvent, unwrapNas_receiving, handledEvent, Option.map_map]
  rfl

/-- One step of a run in which the command stays the last one. -/
theorem Remembers.step {e : Step} (hp : AcceptsCommand ctx₀ p ev) (h : Remembers p ev ctx)
    (hlast : StaysLast p ctx e) (hplain : PlainUnheeded ctx e) : Remembers p ev (step ctx e) := by
  rcases step_sec ctx e with hquiet | ⟨hreset, -⟩ | ⟨ran, count, pdu, -, hnas, hnext⟩
  · exact h.quiet hquiet
  · rw [hlast.1] at hreset
    cases hreset
  · have hreceiving : Remembers p ev (receiving ctx ran count) := h.congr rfl rfl rfl
    obtain ⟨honly, hauth⟩ := hlast.2 pdu hnas
    rw [hnext]
    by_cases hnew : isProtected pdu = true ∧ octet pdu 1 = nasShtIntegrityProtectedNewCtx
    · rw [honly hnew.1 hnew.2]
      exact hreceiving.again hp
    · refine hreceiving.message hnew (fun ev' hev' => hauth ev' ?_) (hplain pdu hnas)
      rw [handledEvent_receiving] at hev'
      exact hev'

theorem run_remembers {es : List Step} (hp : AcceptsCommand ctx₀ p ev) (h : Remembers p ev ctx)
    (hlast : Transition.Along step (StaysLast p) ctx es)
    (hplain : Transition.Along step PlainUnheeded ctx es) : Remembers p ev (run ctx es) := by
  induction es generalizing ctx with
  | nil => exact h
  | cons e es ih => exact ih (h.step hp hlast.1 hplain.1) hlast.2 hplain.2

theorem run_cfg (ctx : UeContext) (es : List Step) : (run ctx es).cfg = ctx.cfg := by
  induction es generalizing ctx with
  | nil => rfl
  | cons e es ih => exact (ih (step ctx e)).trans (step_cfg ctx e)

/-- A command that was accepted, delivered again while it is the last one: it is answered
once with header type 4, and both contexts are as they were but for the uplink COUNT. -/
theorem repeatedCommand_answered (snow : Snow3g) {ctx : UeContext} {p : Bytes} {ev : UeNasEvent}
    {first again : Step} {es : List Step} (hreach : Reachable ctx)
    (himsi : ctx.cfg.sim.imsi.length < 32) (hfirst : nasDelivered ctx first = some p)
    (haccepted : AcceptsCommand ctx p ev)
    (hlast : Transition.Along step (StaysLast p) (step ctx first) es)
    (hplain : Transition.Along step PlainUnheeded (step ctx first) es)
    (hagain : nasDelivered (run (step ctx first) es) again = some p) :
    AnsweredAgain snow (run (step ctx first) es) (step (run (step ctx first) es) again)
      (completeMessage (registrationRequest (run (step ctx first) es) false).pdu?) := by
  have hreach' : Reachable (run (step ctx first) es) := by
    obtain ⟨ctx₀, pre, hinit, rfl⟩ := hreach
    refine ⟨ctx₀, pre ++ first :: es, hinit, ?_⟩
    rw [Transition.run_append]
    rfl
  have hknown : Remembers p ev (step ctx first) := by
    obtain ⟨ran, count, hstep⟩ := step_of_delivered hfirst
    have hreceiving : AcceptsCommand (receiving ctx ran count) p ev :=
      ⟨haccepted.isProtected, haccepted.sht, haccepted.len, haccepted.command, haccepted.accepted⟩
    rw [hstep]
    exact hreceiving.remembers (hreach.commandInUse.congr rfl rfl rfl)
  have hcfg : (run (step ctx first) es).cfg = ctx.cfg :=
    (run_cfg (step ctx first) es).trans (step_cfg ctx first)
  exact (run_remembers haccepted hknown hlast hplain).answeredAgain snow haccepted
    hreach'.sourceAlgs (by rw [hcfg]; exact himsi) (reachable_engineInv hreach').short hagain

/-! ## The packaged UE -/

/-- The command of the packaged network. -/
def exampleCommand : Bytes := securityModeCommand (exampleKeys zeroBlock exampleSqn).kamf 1

/-- The datagram that carries it. -/
def exampleCommandRx (nowMs : UInt64) : Step :=
  .rx nowMs [(exampleGnb, rrcDatagram 0 exampleCommand)] false

theorem exampleCommand_length : exampleCommand.length = 12 := by
  rw [exampleCommand, securityModeCommand, protectedPdu_length, smcBody_length]

/-- A datagram in the socket of a camped UE: its message is delivered next. -/
theorem camped_exampleCommandRx {s : SecSide} (h : Camped ctx s) (nowMs : UInt64) :
    HasSide (step ctx (exampleCommandRx nowMs)) s ∧
      nasDelivered (step ctx (exampleCommandRx nowMs)) (.recv nowMs) = some exampleCommand := by
  have hlen : exampleCommand.tail.length < 8192 := by
    rw [List.length_tail, exampleCommand_length]
    omega
  obtain ⟨ran, -, hrx, -, hnas⟩ := step_rx_deliver h.listening h.radioOn nowMs hlen
  have hstep : step ctx (exampleCommandRx nowMs) =
      receiving ctx ran ctx.postSetupPduCount := hrx
  rw [hstep]
  exact ⟨h.toHasSide.receiving ran _, hnas⟩

/-- The packaged UE has answered a challenge, and the command is in its socket. -/
def challengedUe : UeContext :=
  step (run exampleUe ([.setRadio true] ++ deliver exampleGnb 1 0
    (authenticationRequest 1 zeroBlock (autnOf exampleSecrets zeroBlock exampleSqn))))
    (exampleCommandRx 2)

theorem challengedUe_reachable : Reachable challengedUe := by
  have hrun := exampleUe_reachable ([.setRadio true] ++ deliver exampleGnb 1 0
    (authenticationRequest 1 zeroBlock (autnOf exampleSecrets zeroBlock exampleSqn)) ++
    [exampleCommandRx 2])
  rw [run, Transition.run_append, Transition.run_cons, Transition.run_nil] at hrun
  rw [challengedUe, run]
  exact hrun

theorem challengedUe_step : step challengedUe (.recv 2) = securedUe := by
  have hdeliver : deliver exampleGnb 2 0 (securityModeCommand (exampleKeys zeroBlock exampleSqn).kamf 1) =
      [exampleCommandRx 2, .recv 2] := by
    rw [deliver, exampleCommandRx, exampleCommand]
  rw [securedUe, secureRun, challengedUe, run, run, hdeliver]
  generalize [Step.setRadio true] ++ deliver exampleGnb 1 0
    (authenticationRequest 1 zeroBlock (autnOf exampleSecrets zeroBlock exampleSqn)) = start
  rw [Transition.run_append, Transition.run_cons, Transition.run_cons, Transition.run_nil]

theorem challengedUe_side : HasSide challengedUe
      (SecSide.authenticated { nasSec := nasSecNone } 1 zeroBlock exampleSqn) ∧
    nasDelivered challengedUe (.recv 2) = some exampleCommand :=
  camped_exampleCommandRx (camped_authenticated zeroBlock exampleSqn) 2

/-- The fields of the command, whatever context takes it apart. -/
theorem exampleCommand_parts (ctx : UeContext) :
    newCtxHdr (commandContext ctx exampleCommand) = some ⟨nasShtIntegrityProtectedNewCtx,
        smcMacOf (exampleKeys zeroBlock exampleSqn).kamf 1, 0⟩ ∧
      (commandContext ctx exampleCommand).smcLastPayload = smcBody 0x02 1 := by
  have hsht : octet exampleCommand 1 = nasShtIntegrityProtectedNewCtx :=
    octet_one_protectedPdu _ _ _ _
  have hcache := newCtxHdr_cacheHdr ctx exampleCommand
  have hheader : secHeaderOf exampleCommand = ⟨nasEpd5gmm, nasShtIntegrityProtectedNewCtx,
      smcMacOf (exampleKeys zeroBlock exampleSqn).kamf 1, 0⟩ := secHeaderOf_protectedPdu _ _ _ _
  rw [if_pos hsht, hsht, hheader] at hcache
  refine ⟨hcache, ?_⟩
  have hlen := exampleCommand_length
  show cachedPayload exampleCommand = smcBody 0x02 1
  rw [cachedPayload, if_pos (by omega)]
  exact protectedPdu_drop_seven _ _ _ _

/-- It verifies at COUNT zero under the KAMF it was made with. -/
theorem exampleCommand_verified {base : UeNasSecurityCtx}
    (hkamf : base.keys.kamf = (exampleKeys zeroBlock exampleSqn).kamf)
    (hcount : base.dlCount = ⟨0, 0⟩) :
    verifySmcNewContextMac (commandContext ctx exampleCommand) base (exampleSelection 1) =
      some (⟨0, 0⟩, false) := by
  obtain ⟨hhdr, hpayload⟩ := exampleCommand_parts ctx
  have hmac : smcMac (smcKeys base (exampleSelection 1)) (exampleSelection 1) ⟨0, 0⟩
      (0 :: smcBody 0x02 1) = smcMacOf (exampleKeys zeroBlock exampleSqn).kamf 1 := by
    rw [smcKeys, hkamf]
    rfl
  unfold verifySmcNewContextMac
  rw [hhdr]
  dsimp only
  rw [hpayload, if_neg (by rw [smcBody_length]; omega), hcount, if_pos hmac]

theorem exampleCommand_smcIn : smcIn (exampleCommand.drop 7) = some (smcEvent 0x02 1) := by
  have hdrop : exampleCommand.drop 7 = smcBody 0x02 1 := protectedPdu_drop_seven _ _ _ _
  rw [hdrop, smcIn, ueNasDecodeEvent_smcBody]
  rfl

theorem challengedUe_accepts : AcceptsCommand challengedUe exampleCommand (smcEvent 0x02 1) where
  isProtected := isProtected_protectedPdu (by decide) _ _ _
  sht := octet_one_protectedPdu _ _ _ _
  len := by
    rw [exampleCommand_length]
    omega
  command := exampleCommand_smcIn
  accepted := by
    have hside := challengedUe_side.1
    have hsel : smcSelection (smcEvent 0x02 1) = exampleSelection 1 :=
      smcSelection_smcEvent (by decide)
    have hauth : SecSide.authenticated { nasSec := nasSecNone } 1 zeroBlock exampleSqn =
        { nasSec := challenged nasSecNone zeroBlock exampleSqn
          nonCurrent := some (newSecurityContext (challenged nasSecNone zeroBlock exampleSqn) 1)
          authSqnMs := some exampleSqn } := by
      rw [SecSide.authenticated, SecSide.answered, if_neg (by decide)]
      rfl
    rw [hauth] at hside
    refine ⟨.nonCurrent (newSecurityContext (challenged nasSecNone zeroBlock exampleSqn) 1), ?_,
      .inr ?_⟩
    · rw [hsel, smcTarget_commandContext, smcTarget, hside.nasSec, if_neg (by rintro ⟨⟨⟩⟩), hside.nonCurrent]
      rfl
    · rw [hsel, SmcTarget.sec, exampleCommand_verified rfl rfl]
      rfl

/-- The secured UE answers the command again. -/
theorem repeatedCommand_securedUe :
    AnsweredAgain noSnow3g (step securedUe (exampleCommandRx 3))
      (step (step securedUe (exampleCommandRx 3)) (.recv 3))
      (completeMessage (registrationRequest (step securedUe (exampleCommandRx 3)) false).pdu?) := by
  have hrx := (camped_exampleCommandRx securedUe_camped 3).2
  rw [← challengedUe_step] at hrx ⊢
  refine @repeatedCommand_answered noSnow3g challengedUe exampleCommand (smcEvent 0x02 1) (.recv 2)
    (.recv 3) [exampleCommandRx 3] challengedUe_reachable ?_ challengedUe_side.2
    challengedUe_accepts ⟨⟨rfl, nofun⟩, trivial⟩ ⟨nofun, trivial⟩ hrx
  rw [challengedUe_side.1.cfg]
  decide

/-- A command for the current context is installed, and its answer has not gone out yet. -/
def SecSide.reinstalled (s : SecSide) (mac : UInt32) (sel : SmcSelection) : SecSide :=
  { s with
    nasSec := smcInstalled s.nasSec sel false
    smcLast := some ⟨mac, 0, sel.algs, sel.ngksi⟩
    trace := .dlVerified ⟨knasIntOf s.nasSec.keys.kamf sel.intAlg.toUInt8, ⟨0, 0⟩, 1, mac,
      0 :: s.payload⟩ :: s.trace }

/-- The plain command after the first one: checked against the octets of that one. -/
theorem camped_plainSmc {c : UeContext} {s : SecSide} {kamf : Key256} (h : Camped c s)
    (hact : s.nasSec.active = true) (hngksi : s.nasSec.ngksi = 1) (hkamf : s.nasSec.keys.kamf = kamf)
    (hdl : s.nasSec.dlCount = ⟨0, 0⟩)
    (hhdr : s.dlSecHdr = some ⟨nasShtIntegrityProtectedNewCtx, smcMacOf kamf 1, 0⟩)
    (hpayload : s.payload = smcBody 0x02 1) (hlast : s.smcLast = some ⟨smcMacOf kamf 1, 0, 2, 1⟩) :
    Camped (decodeAndProcessNas c plainSmc)
      (s.reinstalled (smcMacOf kamf 1) cipheredSelection).answered := by
  have hdlHdr := h.dlSecHdr.trans hhdr
  have hnew : newCtxHdr c = some ⟨nasShtIntegrityProtectedNewCtx, smcMacOf kamf 1, 0⟩ := by
    rw [newCtxHdr, hdlHdr]
    rfl
  have hbefore : Camped (smcRemember (smcInstall c .current cipheredSelection ⟨0, 0⟩ false)
      cipheredSelection) (s.reinstalled (smcMacOf kamf 1) cipheredSelection) := by
    have hkept : newCtxHdr (smcInstall c .current cipheredSelection ⟨0, 0⟩ false) =
        some ⟨nasShtIntegrityProtectedNewCtx, smcMacOf kamf 1, 0⟩ := hnew
    unfold smcRemember
    rw [hkept]
    refine ⟨⟨h.cfg, ?_, h.nonCurrent, h.authSqnMs, rfl, h.dlSecHdr, h.payload, ?_⟩, h.radioOn,
      h.listening, h.mm, h.guti, h.t3512⟩
    · simp only [smcInstall, SmcTarget.sec, h.nasSec, SecSide.reinstalled]
    · simp only [smcInstall, SmcTarget.sec, h.nasSec, hnew, h.payload, h.trace, logVerified,
        SecSide.reinstalled]
      rfl
  obtain ⟨hok, hpos, hmax⟩ := hbefore.smcComplete_ok
  have hafter := hbefore.answer hok hpos hmax true
  rw [plainSmc_installed h.nasSec hact hngksi hkamf hdl hdlHdr (h.payload.trans hpayload)
    (h.smcLast.trans hlast)]
  exact hafter.noted

/-- After that, the first command is not known any more, and switches ciphering off again. -/
theorem exampleCommand_reinstalled {c : UeContext} (hact : c.net.nasSec.active = true)
    (hngksi : c.net.nasSec.ngksi = 1)
    (hkamf : c.net.nasSec.keys.kamf = (exampleKeys zeroBlock exampleSqn).kamf)
    (hdl : c.net.nasSec.dlCount = ⟨0, 0⟩) (hnea2 : c.net.nasSec.encAlg = .nea2)
    (hlast : c.smcLast = some ⟨smcMacOf (exampleKeys zeroBlock exampleSqn).kamf 1, 0,
      cipheredSelection.algs, 1⟩) :
    currentView (decodeAndProcessNas c exampleCommand).net.nasSec ≠ currentView c.net.nasSec := by
  have hsel : smcSelection (smcEvent 0x02 1) = exampleSelection 1 :=
    smcSelection_smcEvent (by decide)
  have htarget : smcTarget (commandContext c exampleCommand) (exampleSelection 1).ngksi =
      some .current := by
    rw [smcTarget_commandContext, smcTarget]
    exact if_pos ⟨hact, hngksi⟩
  have hdup : smcDuplicate (commandContext c exampleCommand) (exampleSelection 1) = false := by
    have hkept : (commandContext c exampleCommand).smcLast = c.smcLast := rfl
    have halgs : cipheredSelection.algs ≠ (exampleSelection 1).algs := by decide
    rw [smcDuplicate, (exampleCommand_parts c).1, hkept, hlast]
    simp [smcFingerprint, halgs]
  have hverify : verifySmcNewContextMac (commandContext c exampleCommand)
      (SmcTarget.sec (commandContext c exampleCommand) .current) (exampleSelection 1) =
        some (⟨0, 0⟩, false) := exampleCommand_verified hkamf hdl
  have hinstalled : onSecurityModeCommand (commandContext c exampleCommand) (smcEvent 0x02 1) =
      smcComplete (smcRemember (smcInstall (commandContext c exampleCommand) .current
        (exampleSelection 1) ⟨0, 0⟩ false) (exampleSelection 1)) := by
    unfold onSecurityModeCommand
    rw [hsel]
    simp only [htarget, hdup, hverify, Bool.false_eq_true, if_false]
  have hview : currentView (decodeAndProcessNas c exampleCommand).net.nasSec =
      currentView (smcInstalled c.net.nasSec (exampleSelection 1) false) := by
    rw [challengedUe_accepts.handled c, hinstalled]
    exact (smcComplete_view _ _).trans (smcInstall_view _ _ _ _ _)
  rw [hview]
  intro heq
  have henc := congrArg (fun v => v.2.2.1) heq
  simp only [currentView, smcInstalled, hnea2] at henc
  cases henc

/-- The security side of the secured UE after the plain command. -/
def reinstalledSide : SecSide :=
  ((securedSide zeroBlock exampleSqn).reinstalled
    (smcMacOf (exampleKeys zeroBlock exampleSqn).kamf 1) cipheredSelection).answered

/-- The secured UE after the plain command. -/
def afterPlain : UeContext := run securedUe (deliver exampleGnb 3 0 plainSmc)

theorem camped_afterPlain : Camped afterPlain reinstalledSide := by
  refine camped_deliver securedUe_camped 3 rfl (by decide) fun c hc => ?_
  have hplain := @camped_plainSmc c _ (exampleKeys zeroBlock exampleSqn).kamf hc
  rw [securedSide_nasSec] at hplain
  exact hplain rfl rfl rfl rfl rfl rfl rfl

theorem SecSide.answered_kept (s : SecSide) :
    (∃ ul, s.answered.nasSec = { s.nasSec with ulCount := ul }) ∧
      s.answered.smcLast = s.smcLast := by
  unfold SecSide.answered
  split
  · exact ⟨⟨_, rfl⟩, rfl⟩
  · exact ⟨⟨_, rfl⟩, rfl⟩

theorem reinstalledSide_nasSec :
    reinstalledSide.nasSec.active = true ∧ reinstalledSide.nasSec.ngksi = 1 ∧
      reinstalledSide.nasSec.keys.kamf = (exampleKeys zeroBlock exampleSqn).kamf ∧
      reinstalledSide.nasSec.dlCount = ⟨0, 0⟩ ∧ reinstalledSide.nasSec.encAlg = .nea2 ∧
      reinstalledSide.smcLast = some ⟨smcMacOf (exampleKeys zeroBlock exampleSqn).kamf 1, 0,
        cipheredSelection.algs, 1⟩ := by
  obtain ⟨⟨ul, hul⟩, hlast⟩ := SecSide.answered_kept ((securedSide zeroBlock exampleSqn).reinstalled
    (smcMacOf (exampleKeys zeroBlock exampleSqn).kamf 1) cipheredSelection)
  rw [SecSide.reinstalled, securedSide_nasSec] at hul
  rw [reinstalledSide, hlast, SecSide.reinstalled, securedSide_nasSec, hul]
  exact ⟨rfl, rfl, rfl, rfl, rfl, rfl⟩

theorem challengedUe_run : run (step challengedUe (.recv 2))
    (deliver exampleGnb 3 0 plainSmc ++ [exampleCommandRx 4]) =
      step afterPlain (exampleCommandRx 4) := by
  rw [challengedUe_step, run, Transition.run_append]
  rfl

/-- The plain command is no message with header type 3 and no challenge. -/
theorem plainSmc_staysLast :
    Transition.Along step (StaysLast exampleCommand) (step challengedUe (.recv 2))
      (deliver exampleGnb 3 0 plainSmc ++ [exampleCommandRx 4]) := by
  have hplain : ∀ c, (isProtected plainSmc = true →
      octet plainSmc 1 = nasShtIntegrityProtectedNewCtx → plainSmc = exampleCommand) ∧
      ∀ ev, handledEvent c plainSmc = some ev → ev.type ≠ .authenticationRequest := by
    intro c
    have hevent : handledEvent c plainSmc = some (smcEvent 0x22 1) := rfl
    refine ⟨fun hprot => absurd hprot (by decide), fun ev hev => ?_⟩
    rw [hevent] at hev
    cases hev
    exact nofun
  have hdeliver := camped_along_deliver (P := fun c pdu => (isProtected pdu = true →
    octet pdu 1 = nasShtIntegrityProtectedNewCtx → pdu = exampleCommand) ∧
    ∀ ev, handledEvent c pdu = some ev → ev.type ≠ .authenticationRequest) securedUe_camped 3
    (show plainSmc = nasEpd5gmm :: plainSmc.tail from rfl) (by decide) fun c _ => hplain c
  rw [challengedUe_step, Transition.along_append]
  exact ⟨⟨⟨rfl, hdeliver.1⟩, ⟨rfl, hdeliver.2.1⟩, trivial⟩, ⟨rfl, nofun⟩, trivial⟩

/-- A plain Security Mode Command between the two deliveries: the second one is not known any
more, is installed again and changes the ciphering algorithm. -/
theorem repeatedCommand_reinstalled :
    ¬ ∀ ctx p ev first again es, Reachable ctx → ctx.cfg.sim.imsi.length < 32 →
      nasDelivered ctx first = some p → AcceptsCommand ctx p ev →
      Transition.Along step (StaysLast p) (step ctx first) es →
      nasDelivered (run (step ctx first) es) again = some p →
      currentView (step (run (step ctx first) es) again).net.nasSec =
        currentView (run (step ctx first) es).net.nasSec := by
  intro h
  have hclaim := h challengedUe exampleCommand (smcEvent 0x02 1) (.recv 2) (.recv 4)
    (deliver exampleGnb 3 0 plainSmc ++ [exampleCommandRx 4]) challengedUe_reachable
    (by rw [challengedUe_side.1.cfg]; decide) challengedUe_side.2 challengedUe_accepts
    plainSmc_staysLast
  obtain ⟨hside, hnas⟩ := camped_exampleCommandRx camped_afterPlain 4
  obtain ⟨ran, count, hstep⟩ := step_of_delivered hnas
  rw [challengedUe_run] at hclaim
  have hview := hclaim hnas
  have hkept := hside.receiving ran count
  have hsame : ∀ c : UeContext, (receiving c ran count).net.nasSec = c.net.nasSec := fun _ => rfl
  obtain ⟨hact, hngksi, hkamf, hdl, hnea2, hlast⟩ := reinstalledSide_nasSec
  rw [← hkept.nasSec] at hact hngksi hkamf hdl hnea2
  rw [← hkept.smcLast] at hlast
  have hnot := exampleCommand_reinstalled hact hngksi hkamf hdl hnea2 hlast
  rw [← hstep, hsame] at hnot
  exact hnot hview

end VirtualLte.Engine
