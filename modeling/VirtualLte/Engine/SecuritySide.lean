import VirtualLte.Engine.Frame

/-!
# Properties of the security side

What a run can do to the security contexts and to the log, brought down to five
cases: sending, clearing, taking a message apart, a challenge and a command.

* `acceptedChallenge` and `AuthOutcome` say what becomes of an Authentication Request.
* `SecurityInvariant` is a property that each of the five keeps, the last three under a
  guard on the message; `SecurityInvariant.run` says that a run of guarded messages
  then keeps it.
-/

namespace VirtualLte.Engine

open Crypto Nas Ran Mm Sm Up

/-! ## Challenges -/

/-- The challenge of an event that the UE accepts in this state. -/
def acceptedChallenge (ctx : UeContext) (ev : UeNasEvent) : Option AuthChallenge :=
  match challengeOf ctx.cfg ev with
  | some (_, ch) => if authVerdict ctx.authSqnMs ch = .accepted then some ch else none
  | none => none

/-- The current context once `ch` was accepted in it. -/
def acceptedSec (ctx : UeContext) (ch : AuthChallenge) : UeNasSecurityCtx :=
  { recordChallenge ctx.net.nasSec ch with keys := authKeys ctx.cfg ch }

/-- What becomes of an Authentication Request: it is ignored, refused with an answer, or its
keys are put into both contexts. -/
inductive AuthOutcome (ctx : UeContext) (ev : UeNasEvent) (ctx' : UeContext) : Prop
  | ignored (hnone : acceptedChallenge ctx ev = none) (heq : ctx' = ctx)
  | refused (ch : AuthChallenge) (hnone : acceptedChallenge ctx ev = none)
      (hsent : SentFrom { ctx.net with nasSec := recordChallenge ctx.net.nasSec ch } ctx'.net)
      (hnon : ctx'.nasSecNonCurrent = ctx.nasSecNonCurrent) (hlast : ctx'.smcLast = ctx.smcLast)
  | accepted (ch : AuthChallenge) (hsome : acceptedChallenge ctx ev = some ch)
      (hsent : SentFrom { ctx.net with nasSec := acceptedSec ctx ch } ctx'.net)
      (hnon : ctx'.nasSecNonCurrent =
        some (newSecurityContext (acceptedSec ctx ch) (ev.ngksi.getD 0)))
      (hlast : ctx'.smcLast = ctx.smcLast)

theorem acceptChallenge_net (ctx : UeContext) (ev : UeNasEvent) (ch : AuthChallenge) :
    (acceptChallenge ctx ev ch).net =
      sendEncoded { ctx.net with nasSec := { ctx.net.nasSec with keys := authKeys ctx.cfg ch } }
        (ueNasEncodeAuthResponse 64 (authKeys ctx.cfg ch).resStar.toList) false := by
  simp only [acceptChallenge]

theorem onAuthenticationRequest_outcome (ctx : UeContext) (ev : UeNasEvent) :
    AuthOutcome ctx ev (onAuthenticationRequest ctx ev) := by
  unfold onAuthenticationRequest
  cases hchallenge : challengeOf ctx.cfg ev with
  | none => exact .ignored (by rw [acceptedChallenge, hchallenge]) rfl
  | some r =>
    obtain ⟨secrets, ch⟩ := r
    have haccepted : acceptedChallenge ctx ev =
        if authVerdict ctx.authSqnMs ch = .accepted then some ch else none := by
      rw [acceptedChallenge, hchallenge]
    have hsent : ∀ sec e, SentFrom { ctx.net with nasSec := sec }
        (sendEncoded { ctx.net with nasSec := sec } e false) :=
      fun sec e => sendEncoded_sent { ctx.net with nasSec := sec } e false
    dsimp only
    cases hverdict : authVerdict ctx.authSqnMs ch with
    | macFailure =>
      rw [hverdict] at haccepted
      exact .refused ch haccepted (hsent _ (ueNasEncodeAuthFailure 16 0x14 [])) rfl rfl
    | synchFailure =>
      rw [hverdict] at haccepted
      exact .refused ch haccepted (hsent _ (ueNasEncodeAuthFailure 32 0x15
        (autsOf secrets ch (ctx.authSqnMs.getD (Vector.replicate 6 0))))) rfl rfl
    | accepted =>
      rw [hverdict, if_pos rfl] at haccepted
      have hanswer := hsent (acceptedSec ctx ch)
        (ueNasEncodeAuthResponse 64 (authKeys ctx.cfg ch).resStar.toList)
      refine .accepted ch haccepted ?_ rfl ?_
      · dsimp only
        rw [acceptChallenge_net]
        exact hanswer
      · simp only [acceptChallenge]

/-! ## Commands -/

/-- The integrity algorithms a command can select. -/
theorem smcSelection_intAlg (ev : UeNasEvent) :
    (smcSelection ev).intAlg = .nia0 ∨ (smcSelection ev).intAlg = .nia2 := by
  unfold smcSelection
  cases ev.secAlgs with
  | none => exact .inr rfl
  | some a =>
    simp only [Option.map_some, Option.getD_some, clampIntAlg]
    split
    · exact .inl rfl
    · exact .inr rfl

theorem smcTarget_nonCurrent {ctx : UeContext} {ngksi : UInt8} {sec : UeNasSecurityCtx}
    (h : smcTarget ctx ngksi = some (.nonCurrent sec)) : ctx.nasSecNonCurrent = some sec := by
  unfold smcTarget at h
  split at h
  · cases h
  split at h
  · rename_i sec' hnon
    split at h
    · cases h
      exact hnon
    · cases h
  · cases h

/-! ## Messages -/

/-- Taking a message apart does not look at the transport. -/
theorem unwrapNas_receiving (ctx : UeContext) (ran : UeRanTransportCtx) (count : UInt32)
    (pdu : Bytes) :
    unwrapNas (receiving ctx ran count) pdu =
      (unwrapNas ctx pdu).map fun r => (receiving r.1 ran count, r.2) := by
  have hsec : (receiving ctx ran count).net.nasSec = ctx.net.nasSec := rfl
  unfold unwrapNas unwrapNewCtx unwrapProtected
  rw [hsec]
  split
  · rfl
  split
  · cases ueNasSecurityUnwrapParseOnly pdu with
    | none => rfl
    | some r => rfl
  split
  · cases ueNasSecurityUnprotect ctx.net.nasSec pdu with
    | none => rfl
    | some r => rfl
  · rfl

/-- `unwrap` holds of the message, and `handle` of the event it carries, once unwrapped. -/
def MessageGuard (unwrap : UeContext → Bytes → Prop) (handle : UeContext → UeNasEvent → Prop)
    (ctx : UeContext) (pdu : Bytes) : Prop :=
  unwrap ctx pdu ∧ ∀ c plain ev, unwrapNas ctx pdu = some (c, plain) →
    ueNasDecodeEvent plain = some ev → handle c ev

theorem messageGuard_of {unwrap : UeContext → Bytes → Prop} {handle : UeContext → UeNasEvent → Prop}
    {ctx c : UeContext} {pdu plain : Bytes} {ev : UeNasEvent} (hguard : unwrap ctx pdu)
    (hunwrap : unwrapNas ctx pdu = some (c, plain)) (hdecode : ueNasDecodeEvent plain = some ev)
    (hhandle : handle c ev) : MessageGuard unwrap handle ctx pdu := by
  refine ⟨hguard, ?_⟩
  intro c' plain' ev' hunwrap' hdecode'
  rw [hunwrap] at hunwrap'
  cases hunwrap'
  rw [hdecode] at hdecode'
  cases hdecode'
  exact hhandle

/-- Every message the run delivers meets the guard. -/
def Guarded (unwrap : UeContext → Bytes → Prop) (handle : UeContext → UeNasEvent → Prop)
    (ctx : UeContext) (es : List Step) : Prop :=
  Transition.Along step (fun c e => ∀ pdu, nasDelivered c e = some pdu →
    MessageGuard unwrap handle c pdu) ctx es

/-- A property of the security side that guarded messages keep.  The guards do not look at
the transport. -/
structure SecurityInvariant (I : UeContext → Prop) (unwrap : UeContext → Bytes → Prop)
    (handle : UeContext → UeNasEvent → Prop) : Prop where
  quiet : ∀ {a b}, Quiet a b → I a → I b
  clear : ∀ {ctx}, I ctx → I (engineClearNasIdentityContext ctx)
  unwrapped : ∀ {ctx c pdu plain}, I ctx → unwrap ctx pdu → Unwrapped ctx pdu c plain → I c
  challenge : ∀ {ctx ctx' ev}, I ctx → handle ctx ev → ev.type = .authenticationRequest →
    AuthOutcome ctx ev ctx' → I ctx'
  command : ∀ {ctx ctx' ev}, I ctx → handle ctx ev → ev.type = .securityModeCommand →
    SmcOutcome ctx (smcSelection ev) ctx' → I ctx'
  unwrap_receiving : ∀ {ctx pdu} ran count, unwrap ctx pdu → unwrap (receiving ctx ran count) pdu
  handle_receiving : ∀ {ctx ev} ran count, handle ctx ev → handle (receiving ctx ran count) ev

namespace SecurityInvariant

variable {I : UeContext → Prop} {unwrap : UeContext → Bytes → Prop}
  {handle : UeContext → UeNasEvent → Prop}

theorem event (h : SecurityInvariant I unwrap handle) {ctx : UeContext} {ev : UeNasEvent}
    (hctx : I ctx) (hev : handle ctx ev) : I (engineProcessNasEvent ctx ev) := by
  have hnote : ∀ c, I c → I (noteChanges ctx c) :=
    fun c hc => h.quiet (noteChanges_quiet (.refl c)) hc
  refine hnote _ ?_
  by_cases hauth : ev.type = .authenticationRequest
  · have hdispatch : dispatchNasEvent ctx ev = onAuthenticationRequest ctx ev := by
      simp only [dispatchNasEvent, hauth]
    rw [hdispatch]
    exact h.challenge hctx hev hauth (onAuthenticationRequest_outcome ctx ev)
  by_cases hsmc : ev.type = .securityModeCommand
  · have hdispatch : dispatchNasEvent ctx ev = onSecurityModeCommand ctx ev := by
      simp only [dispatchNasEvent, hsmc]
    rw [hdispatch]
    exact h.command hctx hev hsmc (onSecurityModeCommand_outcome ctx ev)
  · exact h.quiet (dispatchNasEvent_quiet ctx hauth hsmc) hctx

theorem message (h : SecurityInvariant I unwrap handle) {ctx : UeContext} {pdu : Bytes}
    (hctx : I ctx) (hguard : MessageGuard unwrap handle ctx pdu) :
    I (decodeAndProcessNas ctx pdu) := by
  unfold decodeAndProcessNas
  split
  · exact hctx
  · rename_i c plain hunwrap
    have hc := h.unwrapped hctx hguard.1 (unwrapNas_cases hunwrap)
    split
    · exact hc
    · rename_i ev hdecode
      exact h.event hc (hguard.2 c plain ev hunwrap hdecode)

theorem guard_receiving (h : SecurityInvariant I unwrap handle) {ctx : UeContext} {pdu : Bytes}
    (ran : UeRanTransportCtx) (count : UInt32) (hguard : MessageGuard unwrap handle ctx pdu) :
    MessageGuard unwrap handle (receiving ctx ran count) pdu := by
  refine ⟨h.unwrap_receiving ran count hguard.1, ?_⟩
  intro c plain ev hunwrap hdecode
  rw [unwrapNas_receiving] at hunwrap
  obtain ⟨r, hr, hc⟩ := Option.map_eq_some_iff.mp hunwrap
  cases hc
  exact h.handle_receiving ran count (hguard.2 r.1 r.2 ev hr hdecode)

theorem step (h : SecurityInvariant I unwrap handle) (ctx : UeContext) (e : Step) (hctx : I ctx)
    (hguard : ∀ pdu, nasDelivered ctx e = some pdu → MessageGuard unwrap handle ctx pdu) :
    I (Engine.step ctx e) := by
  rcases step_sec ctx e with hquiet | ⟨-, mid, hmid, hnext⟩ | ⟨ran, count, pdu, htake, hnas, hnext⟩
  · exact h.quiet hquiet hctx
  · exact h.quiet hnext (h.clear (h.quiet hmid hctx))
  · rw [hnext]
    exact h.message (h.quiet htake hctx) (h.guard_receiving ran count (hguard pdu hnas))

/-- A run of guarded messages keeps the property. -/
theorem run (h : SecurityInvariant I unwrap handle) {ctx : UeContext} {es : List Step}
    (hctx : I ctx) (hguard : Guarded unwrap handle ctx es) : I (Engine.run ctx es) :=
  Transition.run_invariant h.step hctx hguard

end SecurityInvariant

/-! ## Transport and log -/

/-- Whatever happens, the transport makes steps of its own, and the log grows. -/
theorem netMoves_invariant (net : UeNet) :
    SecurityInvariant (fun ctx => NetMoves net ctx.net) (fun _ _ => True) (fun _ _ => True) where
  quiet hquiet h := h.trans hquiet.sent.moves
  clear h := h.trans ⟨⟨[], rfl⟩, List.suffix_rfl⟩
  unwrapped {ctx c pdu plain} h _ hunwrapped := by
    refine h.trans ?_
    cases hunwrapped with
    | plain hprot heq hplain => exact heq ▸ .refl _
    | newCtx hprot hsht hlen heq hplain => exact heq ▸ .refl _
    | verified hprot hsht hact hmac heq => exact heq ▸ ⟨⟨[], rfl⟩, logVerified_suffix _ _ _⟩
  challenge {ctx ctx' ev} h _ _ houtcome := by
    refine h.trans ?_
    cases houtcome with
    | ignored hnone heq => exact heq ▸ .refl _
    | refused ch hnone hsent hnon hlast => exact ⟨hsent.moves.ran, hsent.moves.trace⟩
    | accepted ch hsome hsent hnon hlast => exact ⟨hsent.moves.ran, hsent.moves.trace⟩
  command {ctx ctx' ev} h _ _ houtcome := by
    refine h.trans ?_
    cases houtcome with
    | refused heq => exact heq ▸ .refl _
    | repeated hdup heq => exact heq ▸ (smcComplete_sent ctx _).moves
    | installed target c count0 htarget hdup hverify heq =>
      have hinstall : NetMoves ctx.net (smcInstall ctx target (smcSelection ev) c count0).net := by
        cases target with
        | current => exact ⟨⟨[], rfl⟩, logVerified_suffix _ _ _⟩
        | nonCurrent sec => exact ⟨⟨[], rfl⟩, logVerified_suffix _ _ _⟩
      exact heq ▸ hinstall.trans (smcComplete_sent _ _).moves
  unwrap_receiving _ _ _ := trivial
  handle_receiving _ _ _ := trivial

theorem decodeAndProcessNas_moves (ctx : UeContext) (pdu : Bytes) :
    NetMoves ctx.net (decodeAndProcessNas ctx pdu).net :=
  (netMoves_invariant ctx.net).message (.refl _) ⟨trivial, fun _ _ _ _ _ => trivial⟩

theorem run_moves (ctx : UeContext) (es : List Step) : NetMoves ctx.net (run ctx es).net :=
  (netMoves_invariant ctx.net).run (.refl _) (Transition.along_of_forall
    (fun _ _ _ _ => ⟨trivial, fun _ _ _ _ _ => trivial⟩) ctx es)

end VirtualLte.Engine
