import VirtualLte.Engine.Sessions
import VirtualLte.Up.Routing

/-!
# Whose session a message is about

A UE can have two sessions under way, the host's and the one for IMS.  A response or a
release command should touch only the one it names.

* `ResponseMatched` for accepts and rejects.  `responseMatched_of_expected`: the IMS side
  compares both identities, but may bind its session over the host's; the host's side
  compares neither, so the response must happen to carry those of the request, or no one
  may be waiting.
* `ReleaseIsolated` for release commands.  `releaseIsolated_iff`: the IMS session is
  looked up by identity; every other command ends the host's session.
-/

namespace VirtualLte.Engine

open Nas Ran Mm Sm Up Rrc

/-! ## Responses -/

/-- Session management and the session the host sees, with its slot in the table. -/
def hostView (ctx : UeContext) : UeSmCtx × UeUpSession × Bool × Nat × UeUpSession :=
  (ctx.sm, ctx.up.session, ctx.up.hasSession, ctx.up.hostPsi, ctx.up.slot ctx.up.hostPsi)

/-- The state of the IMS session. -/
def imsView (ctx : UeContext) :
    Bool × Bool × Bool × UInt8 × UInt8 × Option Ipv4 × UeEngineRuntimeIp :=
  (ctx.imsPduRequested, ctx.imsPduEstablishing, ctx.imsPduActive, ctx.imsPsi, ctx.imsPti,
    ctx.imsPcscfIpv4, ctx.imsIp)

/-- The identities of the host's establishment request that waits for an answer: those of the
last one, if it went out. -/
def outstandingHostRequest (ctx : UeContext) : Option (UInt8 × UInt8) :=
  if ctx.sm.procStep = .waitEstablishResponse then
    (ctx.net.trace.findSome? fun o =>
      match o with
      | .estRequest sent => some sent
      | _ => none).join
  else none

/-- The identities of the IMS request that waits for an answer. -/
def outstandingImsRequest (ctx : UeContext) : Option (UInt8 × UInt8) :=
  if ctx.imsPduEstablishing then some (ctx.imsPsi, ctx.imsPti) else none

/-- A response changes the side that asked for it, and no other. -/
structure ResponseMatched (ctx : UeContext) (ev : UeNasEvent) : Prop where
  host : hostView (engineProcessNasEvent ctx ev) ≠ hostView ctx →
    ctx.sm.state = .establishing ∧ outstandingHostRequest ctx = some (ev.psi, ev.pti)
  ims : imsView (engineProcessNasEvent ctx ev) ≠ imsView ctx →
    outstandingImsRequest ctx = some (ev.psi, ev.pti)

theorem imsMatch_iff (ctx : UeContext) (ev : UeNasEvent) :
    imsMatch ctx ev = true ↔ outstandingImsRequest ctx = some (ev.psi, ev.pti) := by
  unfold imsMatch outstandingImsRequest
  cases ctx.imsPduEstablishing with
  | true =>
    simp only [Bool.true_and, Bool.and_eq_true, decide_eq_true_eq, if_true, Option.some.injEq,
      Prod.mk.injEq]
    exact and_congr eq_comm eq_comm
  | false => simp

/-- A response to the IMS request is not an accept for the host's session identity.  Any other
response finds session management not waiting, or carries the identities of the host's
request. -/
def responseExpected (ctx : UeContext) (ev : UeNasEvent) : Prop :=
  if outstandingImsRequest ctx = some (ev.psi, ev.pti) then
    ev.type = .pduSessionEstReject ∨ ev.psi.toNat ≠ ctx.up.hostPsi
  else
    ctx.sm.state ≠ .establishing ∨
      (ev.type = .pduSessionEstReject ∧ ctx.sm.procStep ≠ .waitEstablishResponse) ∨
      outstandingHostRequest ctx = some (ev.psi, ev.pti)

instance (ctx : UeContext) (ev : UeNasEvent) : Decidable (responseExpected ctx ev) := by
  unfold responseExpected
  infer_instance

/-- The IMS side of an accept does not reach the host's, unless it names the host's identity. -/
theorem onImsAccept_hostView {ctx : UeContext} {ev : UeNasEvent}
    (h : ev.psi.toNat ≠ ctx.up.hostPsi) : hostView (onImsAccept ctx ev) = hostView ctx := by
  obtain ⟨hsession, hhas, hpsi⟩ := ueUpBindSessionEx_host ctx.up ev.psi.toNat imsDnn imsPduType
    (onImsAccept ctx ev).imsIp (ueRanTransportIsConnected ctx.net.ran)
  have hslot := ueUpBindSessionEx_slot_of_ne ctx.up imsDnn imsPduType (onImsAccept ctx ev).imsIp
    false (ueRanTransportIsConnected ctx.net.ran) h.symm
  have hup : (onImsAccept ctx ev).up = ueUpBindSessionEx ctx.up ev.psi.toNat imsDnn imsPduType
      (onImsAccept ctx ev).imsIp false (ueRanTransportIsConnected ctx.net.ran) := rfl
  unfold hostView
  rw [hup, hsession, hhas, hpsi, hslot]
  rfl

/-- The host's accept always shows, and stays on the host's side. -/
theorem onHostAccept_views {ctx : UeContext} (ev : UeNasEvent)
    (hstate : ctx.sm.state = .establishing) :
    (hostView (onHostAccept ctx ev) ≠ hostView ctx ↔ True) ∧
      imsView (onHostAccept ctx ev) = imsView ctx := by
  refine ⟨iff_of_true ?_ trivial, rfl⟩
  intro heq
  have hactive : (onHostAccept ctx ev).sm.state = .active := by
    simp [onHostAccept, ueSmOnPduSessionEstablished, hstate]
  have hsame : (onHostAccept ctx ev).sm = ctx.sm := congrArg Prod.fst heq
  rw [hsame, hstate] at hactive
  cases hactive

/-- The host's reject shows exactly when session management waits for an answer. -/
theorem onHostReject_views {ctx : UeContext} (ev : UeNasEvent)
    (hstate : ctx.sm.state = .establishing) :
    (hostView (onHostReject ctx ev) ≠ hostView ctx ↔
        ctx.sm.procStep = .waitEstablishResponse) ∧
      imsView (onHostReject ctx ev) = imsView ctx := by
  refine ⟨⟨?_, ?_⟩, rfl⟩
  · intro hne
    by_contra hstep
    apply hne
    unfold onHostReject ueSmOnPduSessionReject
    rw [if_neg (fun h => hstep h.2)]
  · intro hstep heq
    exact ueSmOnPduSessionReject_ne smNetwork hstate hstep _ ctx.net (congrArg Prod.fst heq)

/-- The shape both responses share: one branch for IMS, one for a response no one waits for,
and one for the host, which shows when `changes` holds. -/
theorem responseMatched_of_branches {ctx a b : UeContext} {ev : UeNasEvent} {changes : Prop}
    (hdispatch : dispatchNasEvent ctx ev =
      if imsMatch ctx ev then a
      else if ctx.sm.state ≠ .establishing then sendIncompatState ctx ev
      else b)
    (ha : outstandingImsRequest ctx = some (ev.psi, ev.pti) → hostView a = hostView ctx)
    (hb : ctx.sm.state = .establishing →
      (hostView b ≠ hostView ctx ↔ changes) ∧ imsView b = imsView ctx)
    (h : outstandingImsRequest ctx ≠ some (ev.psi, ev.pti) → ctx.sm.state ≠ .establishing ∨
      ¬ changes ∨ outstandingHostRequest ctx = some (ev.psi, ev.pti)) :
    ResponseMatched ctx ev := by
  have hhost : hostView (engineProcessNasEvent ctx ev) = hostView (dispatchNasEvent ctx ev) := rfl
  have hims : imsView (engineProcessNasEvent ctx ev) = imsView (dispatchNasEvent ctx ev) := rfl
  rw [hdispatch] at hhost hims
  by_cases hmatch : imsMatch ctx ev = true
  · have hout := (imsMatch_iff ctx ev).mp hmatch
    rw [if_pos hmatch, ha hout] at hhost
    exact ⟨fun hne => absurd hhost hne, fun _ => hout⟩
  rw [if_neg hmatch] at hhost hims
  have hexpected := h (mt (imsMatch_iff ctx ev).mpr hmatch)
  by_cases hstate : ctx.sm.state = .establishing
  · rw [if_neg (not_not.mpr hstate)] at hhost hims
    obtain ⟨hchanges, hsame⟩ := hb hstate
    rw [← hhost] at hchanges
    refine ⟨fun hne => ⟨hstate, ?_⟩, fun hne => absurd (hims.trans hsame) hne⟩
    exact (hexpected.resolve_left (not_not_intro hstate)).resolve_left
      (not_not_intro (hchanges.mp hne))
  · rw [if_pos hstate] at hhost hims
    exact ⟨fun hne => absurd hhost hne, fun hne => absurd hims hne⟩

/-- The host's session is bound on `psi`. -/
def hostOn (ctx : UeContext) (psi : Nat) : Bool := ctx.up.hasSession && ctx.up.hostPsi = psi

/-- The IMS session is bound on `psi`. -/
def imsOn (ctx : UeContext) (psi : UInt8) : Bool := ctx.imsPduActive && psi = ctx.imsPsi

/-- A release command ends the session on the identity it names, and no other. -/
structure ReleaseIsolated (ctx : UeContext) (ev : UeNasEvent) : Prop where
  slots : ∀ q, q ≠ ev.psi.toNat →
    (engineProcessNasEvent ctx ev).up.slot q = ctx.up.slot q
  session : ctx.up.hostPsi ≠ ev.psi.toNat →
    (engineProcessNasEvent ctx ev).up.session = ctx.up.session ∧
      (engineProcessNasEvent ctx ev).up.hasSession = ctx.up.hasSession ∧
      (engineProcessNasEvent ctx ev).up.hostPsi = ctx.up.hostPsi
  sm : hostOn ctx ev.psi.toNat = false → (engineProcessNasEvent ctx ev).sm = ctx.sm
  ims : imsOn ctx ev.psi = false →
    (engineProcessNasEvent ctx ev).imsPduRequested = ctx.imsPduRequested ∧
      (engineProcessNasEvent ctx ev).imsPduEstablishing = ctx.imsPduEstablishing ∧
      (engineProcessNasEvent ctx ev).imsPduActive = ctx.imsPduActive
  unbound : ((engineProcessNasEvent ctx ev).up.slot ev.psi.toNat).used = false

/-- The command names the IMS session, or the host's, or neither exists. -/
def releaseNamesSession (ctx : UeContext) (psi : UInt8) : Prop :=
  if imsOn ctx psi then
    (1 ≤ psi.toNat ∧ psi.toNat ≤ 15) ∨ (ctx.up.slot psi.toNat).used = false
  else
    (ctx.up.hostPsi = psi.toNat ∨
        (ctx.up.session = {} ∧ ctx.up.hasSession = false ∧ ctx.up.hostPsi = 0)) ∧
      (hostOn ctx psi.toNat = true ∨ ctx.sm.holdsSession = false) ∧
      ((ctx.up.hostPsi = psi.toNat ∧ 1 ≤ psi.toNat ∧ psi.toNat ≤ 15) ∨
        (ctx.up.slot psi.toNat).used = false)

instance (ctx : UeContext) (psi : UInt8) : Decidable (releaseNamesSession ctx psi) := by
  unfold releaseNamesSession
  infer_instance

theorem engineProcessNasEvent_release {ctx : UeContext} {ev : UeNasEvent}
    (htype : ev.type = .pduSessionReleaseCmd) :
    ∃ net flags, engineProcessNasEvent ctx ev =
      if imsOn ctx ev.psi then
        { ctx with
          net := net
          changedFlags := flags
          imsPduActive := false
          imsPduRequested := false
          imsPduEstablishing := false
          up := ueUpUnbindSessionPsi ctx.up ev.psi.toNat }
      else
        { ctx with
          net := net
          changedFlags := flags
          up := ueUpUnbindSession ctx.up
          sm := ueSmOnPduSessionReleased ctx.sm } := by
  have hdispatch : dispatchNasEvent ctx ev = onPduSessionReleaseCmd ctx ev := by
    simp only [dispatchNasEvent, htype]
  unfold engineProcessNasEvent
  rw [hdispatch, onPduSessionReleaseCmd]
  dsimp only
  by_cases hims : ctx.imsPduActive = true ∧ ev.psi = ctx.imsPsi
  · have hon : imsOn ctx ev.psi = true := by simp [imsOn, hims]
    rw [if_pos hims]
    simp only [hon, if_true, ← hims.2]
    exact ⟨_, _, rfl⟩
  · have hon : ¬ imsOn ctx ev.psi = true := by simpa [imsOn] using hims
    rw [if_neg hims]
    simp only [hon]
    exact ⟨_, _, rfl⟩

/-- A command for the IMS session unbinds its identity and leaves the rest alone. -/
theorem releaseIsolated_ims_iff {ctx : UeContext} {ev : UeNasEvent}
    (htype : ev.type = .pduSessionReleaseCmd) (hims : imsOn ctx ev.psi = true) :
    ReleaseIsolated ctx ev ↔
      (1 ≤ ev.psi.toNat ∧ ev.psi.toNat ≤ 15) ∨ (ctx.up.slot ev.psi.toNat).used = false := by
  obtain ⟨net, flags, heq⟩ := @engineProcessNasEvent_release ctx ev htype
  rw [if_pos hims] at heq
  have hup : (engineProcessNasEvent ctx ev).up = ueUpUnbindSessionPsi ctx.up ev.psi.toNat := by
    rw [heq]
  rw [← ueUpUnbindSessionPsi_slot_self ctx.up ev.psi.toNat, ← hup]
  refine ⟨fun h => h.unbound, fun hunbound => ?_⟩
  refine ⟨?_, ?_, ?_, ?_, hunbound⟩
  · intro q hq
    rw [hup]
    exact ueUpUnbindSessionPsi_slot_of_ne ctx.up hq
  · intro hpsi
    rw [hup]
    exact ueUpUnbindSessionPsi_host hpsi
  · intro _
    rw [heq]
  · intro hnot
    rw [hims] at hnot
    cases hnot

/-- Any other command ends the host's session, whatever identity it names. -/
theorem releaseIsolated_host_iff {ctx : UeContext} {ev : UeNasEvent}
    (htype : ev.type = .pduSessionReleaseCmd) (hims : imsOn ctx ev.psi = false) :
    ReleaseIsolated ctx ev ↔
      (ctx.up.hostPsi = ev.psi.toNat ∨
          (ctx.up.session = {} ∧ ctx.up.hasSession = false ∧ ctx.up.hostPsi = 0)) ∧
        (hostOn ctx ev.psi.toNat = true ∨ ctx.sm.holdsSession = false) ∧
        ((ctx.up.hostPsi = ev.psi.toNat ∧ 1 ≤ ev.psi.toNat ∧ ev.psi.toNat ≤ 15) ∨
          (ctx.up.slot ev.psi.toNat).used = false) := by
  obtain ⟨net, flags, heq⟩ := @engineProcessNasEvent_release ctx ev htype
  rw [if_neg (by simp [hims])] at heq
  have hup : (engineProcessNasEvent ctx ev).up = ueUpUnbindSession ctx.up := by rw [heq]
  have hsm : (engineProcessNasEvent ctx ev).sm = ueSmOnPduSessionReleased ctx.sm := by rw [heq]
  generalize hp : ev.psi.toNat = p
  constructor
  · intro h
    have hsession := h.session
    have hsmKept := h.sm
    have hunbound := h.unbound
    rw [hp, hup] at hsession hunbound
    rw [hp, hsm, ueSmOnPduSessionReleased_eq_iff] at hsmKept
    refine ⟨?_, ?_, ?_⟩
    · by_cases hpsi : ctx.up.hostPsi = p
      · exact .inl hpsi
      · obtain ⟨hs, hhas, hzero⟩ := hsession hpsi
        exact .inr ⟨hs.symm, hhas.symm, hzero.symm⟩
    · cases hon : hostOn ctx p with
      | true => exact .inl rfl
      | false => exact .inr (hsmKept hon)
    · rw [ueUpUnbindSession_slot] at hunbound
      split at hunbound
      · rename_i hcleared
        exact .inl ⟨hcleared.2.2.symm, by omega, by omega⟩
      · exact .inr hunbound
  · rintro ⟨hhost, hheld, hslot⟩
    refine ⟨?_, ?_, ?_, ?_, ?_⟩
    · intro q hq
      rw [hup, ueUpUnbindSession_slot, if_neg]
      rcases hhost with hpsi | ⟨-, -, hzero⟩
      · omega
      · omega
    · intro hpsi
      obtain ⟨hs, hhas, hzero⟩ := hhost.resolve_left (by omega)
      rw [hup, hs, hhas, hzero]
      exact ⟨rfl, rfl, rfl⟩
    · intro hon
      rw [hsm, ueSmOnPduSessionReleased_eq_iff]
      rw [hp] at hon
      exact hheld.resolve_left (by simp [hon])
    · intro _
      rw [heq]
      exact ⟨rfl, rfl, rfl⟩
    · rw [hup, hp, ueUpUnbindSession_slot]
      rcases hslot with ⟨hpsi, hlow, hhigh⟩ | hunused
      · rw [if_pos ⟨by omega, by omega, hpsi.symm⟩]
      · split
        · rfl
        · exact hunused

/-- A release command is isolated exactly when it names a session that exists, or there is
nothing to release. -/
theorem releaseIsolated_iff (ctx : UeContext) (ev : UeNasEvent)
    (htype : ev.type = .pduSessionReleaseCmd) :
    ReleaseIsolated ctx ev ↔ releaseNamesSession ctx ev.psi := by
  unfold releaseNamesSession
  cases hims : imsOn ctx ev.psi with
  | true => exact releaseIsolated_ims_iff htype hims
  | false => exact releaseIsolated_host_iff htype hims

/-- A command for the host's identity is isolated. -/
theorem releaseIsolated_session :
    ReleaseIsolated (run exampleUe sessionRun) { type := .pduSessionReleaseCmd, psi := 1 } :=
  (releaseIsolated_iff (run exampleUe sessionRun) { type := .pduSessionReleaseCmd, psi := 1 }
    rfl).mpr (by decide +kernel)

/-- A command for an identity no session has ends the host's session on another one. -/
theorem releaseIsolated_fails :
    ¬ ∀ ctx ev, Reachable ctx → ev.type = .pduSessionReleaseCmd → ReleaseIsolated ctx ev := by
  intro h
  have hisolated := h (run exampleUe sessionRun) { type := .pduSessionReleaseCmd, psi := 7 }
    (exampleUe_reachable _) rfl
  obtain ⟨hon, hended⟩ : hostOn (run exampleUe sessionRun) 7 = false ∧
      (engineProcessNasEvent (run exampleUe sessionRun)
        { type := .pduSessionReleaseCmd, psi := 7 }).sm ≠ (run exampleUe sessionRun).sm := by
    decide +kernel
  exact hended (hisolated.sm hon)

end VirtualLte.Engine
