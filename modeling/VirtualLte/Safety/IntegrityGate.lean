import VirtualLte.Engine.Network
import VirtualLte.Safety.SessionMessages

/-!
# Messages without integrity

Once a security context is active, a message that was not verified should change
nothing: not registration, not the sessions, not the identity.  Two kinds reach the
event switch unverified, plain messages and those with header type 3.

* `uncheckedEvent` is the event such a message is handled as, and
  `decodeAndProcessNas_unchecked` says so.
* `Unaffected` is the frame; `nothingToActOn` says of a state and an event that there
  is nothing the event could change.
* `integrityGate_iff`: an unverified message is without effect exactly when there is
  nothing to act on.  The switch never asks how a message came.
-/

namespace VirtualLte.Engine

open Crypto Nas Ran Mm Sm Up Rrc

/-- The event of a message that is not verified. -/
def uncheckedEvent (pdu : Bytes) : Option UeNasEvent :=
  if isProtected pdu then
    (ueNasSecurityUnwrapParseOnly pdu).bind fun r => ueNasDecodeEvent r.2
  else ueNasDecodeEvent pdu

/-- A plain message, or one of header type 3 that is no Security Mode Command. -/
def Unverified (pdu : Bytes) : Prop :=
  isProtected pdu = false ∨
    (octet pdu 1 = nasShtIntegrityProtectedNewCtx ∧
      ∀ ev, uncheckedEvent pdu = some ev → ev.type ≠ .securityModeCommand)

/-- One of the plain messages that a UE acts on without integrity. -/
def actedOnPlain (pdu : Bytes) : Bool :=
  !isProtected pdu &&
    match uncheckedEvent pdu with
    | some ev =>
      ev.type = .identityRequest || ev.type = .authenticationRequest ||
        ev.type = .registrationReject
    | none => false

/-- Registration, sessions and identity are as before. -/
structure Unaffected (a b : UeContext) : Prop where
  mm : b.mm = a.mm
  sm : b.sm = a.sm
  up : b.up = a.up
  ims : imsView b = imsView a
  guti : b.guti = a.guti
  t3512 : b.t3512Seconds = a.t3512Seconds

/-- The event finds nothing in this state that it could change. -/
def nothingToActOn (ctx : UeContext) (ev : UeNasEvent) : Prop :=
  match ev.type with
  | .registrationAccept =>
    ctx.mm.expectsResponse = false ∧ (∀ g, storableGuti ev = some g → g = ctx.guti) ∧
      ∀ t, ev.t3512Seconds = some t → t = ctx.t3512Seconds
  | .registrationReject => ctx.mm.expectsResponse = false
  | .pduSessionEstAccept => imsMatch ctx ev = false ∧ ctx.sm.state ≠ .establishing
  | .pduSessionEstReject => imsMatch ctx ev = false ∧ ctx.sm.state ≠ .establishing
  | .pduSessionReleaseCmd =>
    imsOn ctx ev.psi = false ∧ ctx.sm.holdsSession = false ∧ ctx.up.hasSession = false
  | _ => True

/-! ## One event -/

theorem onRegistrationAccept_unaffected_iff {ctx : UeContext} (hinv : ContextInv ctx)
    (ev : UeNasEvent) :
    Unaffected ctx (onRegistrationAccept ctx ev) ↔
      ctx.mm.expectsResponse = false ∧ (∀ g, storableGuti ev = some g → g = ctx.guti) ∧
        ∀ t, ev.t3512Seconds = some t → t = ctx.t3512Seconds := by
  have ht : (onRegistrationAccept ctx ev).t3512Seconds =
      ev.t3512Seconds.getD ctx.t3512Seconds := by
    unfold onRegistrationAccept
    dsimp only
    split
    · rfl
    · rfl
  have htimer : (onRegistrationAccept ctx ev).t3512Seconds = ctx.t3512Seconds ↔
      ∀ t, ev.t3512Seconds = some t → t = ctx.t3512Seconds := by
    rw [ht]
    cases ev.t3512Seconds with
    | none => simp
    | some t => simp
  obtain ⟨_, _, _, _, hframe⟩ := onRegistrationAccept_frame ctx ev
  have hstate : (onRegistrationAccept ctx ev).mm.state = (ueMmOnRegistrationAccept ctx.mm).state := by
    rw [hframe]
  have hguti : ∀ g, storableGuti ev = some g → (onRegistrationAccept ctx ev).guti = g := by
    intro g hg
    unfold onRegistrationAccept
    simp only [hg]
    rfl
  constructor
  · intro h
    refine ⟨?_, ?_, htimer.mp h.t3512⟩
    · rw [h.mm] at hstate
      by_contra hexpects
      have hexpects' : ctx.mm.expectsResponse = true := by simpa using hexpects
      rw [registering_of_expectsResponse hexpects', ueMmOnRegistrationAccept,
        if_pos hexpects'] at hstate
      cases hstate
    · intro g hg
      rw [← h.guti, hguti g hg]
  · rintro ⟨hexpects, hsame, hkept⟩
    have hmm := (ueMmOnRegistrationAccept_eq_iff ctx.mm).mpr hexpects
    refine ⟨?_, ?_, ?_, ?_, ?_, htimer.mpr hkept⟩
    · -- the stored GUTI is already the one whose text is kept
      unfold onRegistrationAccept
      dsimp only
      split
      · rename_i g hg
        rw [hsame g hg]
        unfold storeGuti
        dsimp only
        rw [hmm, ← hinv.guti]
      · exact hmm
    · rw [hframe]
    · rw [hframe]
    · rw [hframe]
      rfl
    · cases hg : storableGuti ev with
      | some g => rw [hguti g hg, hsame g hg]
      | none =>
        unfold onRegistrationAccept
        simp only [hg]

theorem onRegistrationReject_unaffected_iff (ctx : UeContext) (ev : UeNasEvent) :
    Unaffected ctx (onRegistrationReject ctx ev) ↔ ctx.mm.expectsResponse = false := by
  rw [← ueMmOnRegistrationReject_eq_iff ctx.mm (regRejectCauseOf ev.mmCause)]
  exact ⟨fun h => h.mm, fun h => ⟨h, rfl, rfl, rfl, rfl, rfl⟩⟩

/-- The shape both responses share; `a` and `b` are what the two sides make of it. -/
theorem response_unaffected_iff {ctx a b : UeContext} {ev : UeNasEvent}
    (ha : imsMatch ctx ev = true → ¬ Unaffected ctx a)
    (hb : ctx.sm.state = .establishing → ¬ Unaffected ctx b) :
    Unaffected ctx
        (if imsMatch ctx ev then a
        else if ctx.sm.state ≠ .establishing then sendIncompatState ctx ev
        else b) ↔
      imsMatch ctx ev = false ∧ ctx.sm.state ≠ .establishing := by
  cases hmatch : imsMatch ctx ev with
  | true => exact iff_of_false (by rw [if_pos rfl]; exact ha hmatch) (by simp)
  | false =>
    rw [if_neg (by simp)]
    by_cases hstate : ctx.sm.state = .establishing
    · rw [if_neg (not_not.mpr hstate)]
      exact iff_of_false (hb hstate) fun h => h.2 hstate
    · rw [if_pos hstate]
      exact iff_of_true ⟨rfl, rfl, rfl, rfl, rfl, rfl⟩ ⟨rfl, hstate⟩

/-- An answer to the IMS request ends the wait for it. -/
theorem not_unaffected_of_imsMatch {ctx a : UeContext} {ev : UeNasEvent}
    (hmatch : imsMatch ctx ev = true) (ha : a.imsPduEstablishing = false) :
    ¬ Unaffected ctx a := by
  intro h
  have hwaiting : ctx.imsPduEstablishing = true := by
    simp only [imsMatch, Bool.and_eq_true] at hmatch
    exact hmatch.1.1
  have hsame : a.imsPduEstablishing = ctx.imsPduEstablishing :=
    congrArg (fun v => v.2.1) h.ims
  rw [ha, hwaiting] at hsame
  cases hsame

theorem onPduSessionReleaseCmd_unaffected_iff {ctx : UeContext} (hinv : ContextInv ctx)
    (ev : UeNasEvent) :
    Unaffected ctx (onPduSessionReleaseCmd ctx ev) ↔
      imsOn ctx ev.psi = false ∧ ctx.sm.holdsSession = false ∧ ctx.up.hasSession = false := by
  unfold onPduSessionReleaseCmd
  dsimp only
  split
  · rename_i hims
    refine iff_of_false ?_ (by simp [imsOn, hims])
    intro h
    have hsame : false = ctx.imsPduActive := congrArg (fun v => v.2.2.1) h.ims
    rw [hims.1] at hsame
    cases hsame
  · rename_i hims
    rw [← ueSmOnPduSessionReleased_eq_iff]
    constructor
    · intro h
      refine ⟨by simpa [imsOn] using hims, h.sm, ?_⟩
      rw [← h.up]
      rfl
    · rintro ⟨-, hsm, hhas⟩
      obtain ⟨hsession, hpsi, hstate⟩ := hinv.up.unbound hhas
      refine ⟨rfl, hsm, ?_, rfl, rfl, rfl⟩
      -- there is no session of the host's to clear
      unfold ueUpUnbindSession
      rw [if_neg (by omega), clearHost, ← hsession, ← hhas, ← hpsi, ← hstate]

/-- An event is without effect exactly when there is nothing for it to act on. -/
theorem dispatchNasEvent_unaffected_iff {ctx : UeContext} (hinv : ContextInv ctx)
    (ev : UeNasEvent) : Unaffected ctx (dispatchNasEvent ctx ev) ↔ nothingToActOn ctx ev := by
  unfold dispatchNasEvent nothingToActOn
  cases ev.type with
  | registrationAccept => exact onRegistrationAccept_unaffected_iff hinv ev
  | registrationReject => exact onRegistrationReject_unaffected_iff ctx ev
  | pduSessionEstAccept =>
    refine response_unaffected_iff (fun hmatch => not_unaffected_of_imsMatch hmatch rfl) ?_
    intro hstate h
    exact (onHostAccept_views ev hstate).1.mpr trivial
      (by rw [hostView, h.sm, h.up]; rfl)
  | pduSessionEstReject =>
    refine response_unaffected_iff (fun hmatch => not_unaffected_of_imsMatch hmatch rfl) ?_
    intro hstate h
    exact (onHostReject_views ev hstate).1.mpr (hinv.sm hstate).2
      (by rw [hostView, h.sm, h.up]; rfl)
  | pduSessionReleaseCmd => exact onPduSessionReleaseCmd_unaffected_iff hinv ev
  | authenticationRequest =>
    obtain ⟨_, _, _, _, heq⟩ := onAuthenticationRequest_frame ctx ev
    exact iff_of_true (by rw [heq]; exact ⟨rfl, rfl, rfl, rfl, rfl, rfl⟩) trivial
  | securityModeCommand =>
    obtain ⟨_, _, _, heq⟩ := onSecurityModeCommand_frame ctx ev
    exact iff_of_true (by rw [heq]; exact ⟨rfl, rfl, rfl, rfl, rfl, rfl⟩) trivial
  | identityRequest => exact iff_of_true ⟨rfl, rfl, rfl, rfl, rfl, rfl⟩ trivial
  | configUpdateCommand =>
    refine iff_of_true ?_ trivial
    simp only [onConfigUpdateCommand]
    split
    · exact ⟨rfl, rfl, rfl, rfl, rfl, rfl⟩
    · exact ⟨rfl, rfl, rfl, rfl, rfl, rfl⟩
  | dlNasTransport => exact iff_of_true ⟨rfl, rfl, rfl, rfl, rfl, rfl⟩ trivial

/-! ## One message -/

/-- An unverified message is handled as the event it decodes to, whatever its header says. -/
theorem decodeAndProcessNas_unchecked (ctx : UeContext) {pdu : Bytes} (h : Unverified pdu) :
    ∃ hdr payload, decodeAndProcessNas ctx pdu =
      match uncheckedEvent pdu with
      | none => { ctx with dlSecHdr := hdr, smcLastPayload := payload }
      | some ev =>
        engineProcessNasEvent { ctx with dlSecHdr := hdr, smcLastPayload := payload } ev := by
  unfold decodeAndProcessNas unwrapNas uncheckedEvent
  cases hprot : isProtected pdu with
  | false => exact ⟨ctx.dlSecHdr, ctx.smcLastPayload, rfl⟩
  | true =>
    have hsht : octet pdu 1 = nasShtIntegrityProtectedNewCtx := by
      rcases h with hplain | ⟨hsht, -⟩
      · rw [hprot] at hplain
        cases hplain
      · exact hsht
    rw [if_neg (by simp), if_pos hsht, if_pos rfl, unwrapNewCtx]
    cases ueNasSecurityUnwrapParseOnly pdu with
    | none => exact ⟨ctx.dlSecHdr, ctx.smcLastPayload, rfl⟩
    | some r => exact ⟨_, _, rfl⟩

theorem unverified_unaffected_iff {ctx : UeContext} (hinv : ContextInv ctx) {pdu : Bytes}
    (h : Unverified pdu) :
    Unaffected ctx (decodeAndProcessNas ctx pdu) ↔
      ∀ ev, uncheckedEvent pdu = some ev → nothingToActOn ctx ev := by
  obtain ⟨hdr, payload, heq⟩ := decodeAndProcessNas_unchecked ctx h
  rw [heq]
  cases uncheckedEvent pdu with
  | none =>
    refine iff_of_true ⟨rfl, rfl, rfl, rfl, rfl, rfl⟩ ?_
    intro ev hev
    cases hev
  | some ev =>
    have hkept : ContextInv { ctx with dlSecHdr := hdr, smcLastPayload := payload } :=
      ⟨hinv.sm, hinv.up, hinv.guti⟩
    have hevent := dispatchNasEvent_unaffected_iff hkept ev
    constructor
    · intro hun ev' hev
      cases hev
      exact hevent.mp ⟨hun.mm, hun.sm, hun.up, hun.ims, hun.guti, hun.t3512⟩
    · intro hnothing
      have hun := hevent.mpr (hnothing ev rfl)
      exact ⟨hun.mm, hun.sm, hun.up, hun.ims, hun.guti, hun.t3512⟩

/-- In a reachable state, an unverified message that is none of those a UE acts on without
integrity changes nothing if and only if there is nothing it could act on. -/
theorem integrityGate_iff (ctx : UeContext) (hreach : Reachable ctx) (pdu : Bytes)
    (hunverified : Unverified pdu) :
    (actedOnPlain pdu = true ∨ Unaffected ctx (decodeAndProcessNas ctx pdu)) ↔
      (actedOnPlain pdu = true ∨ ∀ ev, uncheckedEvent pdu = some ev → nothingToActOn ctx ev) :=
  or_congr_right (unverified_unaffected_iff (reachable_engineInv hreach).toContextInv hunverified)

/-- A Registration Accept without a GUTI or a timer, to a UE that is searching. -/
theorem integrityGate_bare_accept :
    (securedUe.net.nasSec.active = true ∧ securedUe.net.nasSec.intAlg = .nia2) ∧
      Unaffected securedUe (decodeAndProcessNas securedUe plainRegistrationAccept) := by
  refine ⟨securedUe_secured, ?_⟩
  have hgate := (integrityGate_iff securedUe securedUe_reachable plainRegistrationAccept
    (.inl (by decide))).mpr (.inr ?_)
  · exact hgate.resolve_left (by decide)
  · intro ev hev
    have hdecode : uncheckedEvent plainRegistrationAccept =
        some { type := .registrationAccept } := by decide
    rw [hdecode] at hev
    cases hev
    refine ⟨?_, nofun, nofun⟩
    rw [securedUe_camped.mm]
    decide +kernel

/-- A plain Registration Accept with a timer value of one hour. -/
def plainAcceptWithTimer : Bytes := plainRegistrationAccept ++ [0x5E, 0x01, 0x21]

/-- A plain Registration Accept does set the timer of a UE with an active context. -/
theorem integrityGate_fails :
    ¬ ∀ ctx pdu, Reachable ctx → ctx.net.nasSec.active = true → ctx.net.nasSec.intAlg = .nia2 →
      Unverified pdu → actedOnPlain pdu = true ∨ Unaffected ctx (decodeAndProcessNas ctx pdu) := by
  intro h
  have hreach := securedUe_reachable
  have hunverified : Unverified plainAcceptWithTimer := .inl (by decide)
  have hun := (h securedUe plainAcceptWithTimer hreach securedUe_secured.1 securedUe_secured.2
    hunverified).resolve_left (by decide)
  have hdecode : uncheckedEvent plainAcceptWithTimer =
      some { type := .registrationAccept, t3512Seconds := some 3600 } := by decide
  have hnothing := (unverified_unaffected_iff (reachable_engineInv hreach).toContextInv hunverified).mp hun _
    hdecode
  have htimer := hnothing.2.2 3600 rfl
  rw [securedUe_camped.t3512] at htimer
  cases htimer

end VirtualLte.Engine
