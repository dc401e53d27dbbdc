import VirtualLte.Engine.Link
import VirtualLte.Mm.Attempts

/-!
# Sessions and identity in every reachable state

What ties the fields of a context to each other, whatever has happened so far.

* `ContextInv`: an establishing session waits for its answer, the host's session is
  in the user-plane table, and the text copy of the 5G-GUTI is that of the stored
  one.
* `EngineInv` adds that the stored identity fits its field and that the registration machine
  keeps its own invariant; every reachable context has it (`reachable_engineInv`).
-/

namespace VirtualLte.Engine

open Nas Ran Mm Sm Up Rrc

variable {ctx : UeContext} (ev : UeNasEvent) (nowMs : UInt64)

structure ContextInv (ctx : UeContext) : Prop where
  sm : ctx.sm.Wf
  up : ctx.up.Wf
  guti : ctx.mm.lastAssignedGuti = hexText (ctx.guti.take 15)

structure EngineInv (ctx : UeContext) : Prop extends ContextInv ctx where
  short : ctx.guti.length ≤ 16
  mm : MmInv ctx.mm

/-- The invariant reads four fields. -/
theorem EngineInv.congr {a b : UeContext} (h : EngineInv a) (hsm : b.sm = a.sm)
    (hup : b.up = a.up) (hmm : b.mm = a.mm) (hguti : b.guti = a.guti) : EngineInv b where
  sm := hsm ▸ h.sm
  up := hup ▸ h.up
  guti := by
    rw [hmm, hguti]
    exact h.guti
  short := hguti ▸ h.short
  mm := hmm ▸ h.mm

/-- What a part of the engine does that reaches registration only. -/
theorem EngineInv.registration {ctx : UeContext} (h : EngineInv ctx) {mm : UeMmCtx}
    (hmm : MmInv mm) (hlast : mm.lastAssignedGuti = ctx.mm.lastAssignedGuti) :
    EngineInv { ctx with mm := mm } :=
  ⟨⟨h.sm, h.up, hlast.trans h.guti⟩, h.short, hmm⟩

theorem EngineInv.request {ctx : UeContext} (h : EngineInv ctx) (type : UeMmRegType)
    (trigger : UeMmRegTrigger) : EngineInv { ctx with mm := mmRequest ctx.mm type trigger } :=
  h.registration (mmRequest_inv h.mm _ _).1 (mmRequest_lastAssignedGuti _ _ _)

/-! ## Downlink messages -/

theorem mmInv_guti {mm : UeMmCtx} (h : MmInv mm) (assigned : Bytes) :
    MmInv { mm with lastAssignedGuti := assigned } := by
  have hpays : MmPays mm 0 { mm with lastAssignedGuti := assigned } :=
    h.pays_of_eq rfl rfl rfl rfl rfl rfl rfl
  exact hpays.inv

theorem onRegistrationAccept_engineInv (h : EngineInv ctx) :
    EngineInv (onRegistrationAccept ctx ev) := by
  have hmm := (ueMmOnRegistrationAccept_pays h.mm).inv
  unfold onRegistrationAccept
  dsimp only
  split
  · rename_i g hg
    have hfits := (Option.filter_eq_some_iff.mp hg).2
    simp only [Bool.and_eq_true, decide_eq_true_eq] at hfits
    exact ⟨⟨h.sm, h.up, rfl⟩, hfits.2, mmInv_guti hmm _⟩
  · exact (h.registration hmm (ueMmOnRegistrationAccept_lastAssignedGuti ctx.mm)).congr rfl rfl rfl rfl

theorem onPduSessionEstAccept_engineInv (h : EngineInv ctx) :
    EngineInv (onPduSessionEstAccept ctx ev) := by
  unfold onPduSessionEstAccept
  split
  · exact ⟨⟨h.sm, ueUpBindSessionEx_wf h.up _ _ _ _ _ _, h.guti⟩, h.short, h.mm⟩
  split
  · exact h.congr rfl rfl rfl rfl
  · refine ⟨⟨ueSmOnPduSessionEstablished_wf h.sm, ?_, h.guti⟩, h.short, h.mm⟩
    unfold onHostAccept
    dsimp only
    split
    · exact ueUpBindSessionEx_wf h.up _ _ _ _ _ _
    · exact h.up

theorem onPduSessionEstReject_engineInv (h : EngineInv ctx) :
    EngineInv (onPduSessionEstReject ctx ev) := by
  unfold onPduSessionEstReject
  split
  · exact h.congr rfl rfl rfl rfl
  split
  · exact h.congr rfl rfl rfl rfl
  · exact ⟨⟨ueSmOnPduSessionReject_wf smNetwork h.sm _ _, h.up, h.guti⟩, h.short, h.mm⟩

theorem onPduSessionReleaseCmd_engineInv (h : EngineInv ctx) :
    EngineInv (onPduSessionReleaseCmd ctx ev) := by
  unfold onPduSessionReleaseCmd
  dsimp only
  split
  · exact ⟨⟨h.sm, ueUpUnbindSessionPsi_wf h.up _, h.guti⟩, h.short, h.mm⟩
  · exact ⟨⟨ueSmOnPduSessionReleased_wf h.sm, ueUpUnbindSession_wf _, h.guti⟩, h.short, h.mm⟩

theorem dispatchNasEvent_engineInv (ctx : UeContext) (ev : UeNasEvent) (h : EngineInv ctx) :
    EngineInv (dispatchNasEvent ctx ev) := by
  unfold dispatchNasEvent
  split
  · exact onRegistrationAccept_engineInv ev h
  · exact (h.registration (ueMmOnRegistrationReject_pays h.mm _).inv
      (ueMmOnRegistrationReject_lastAssignedGuti _ _)).congr rfl rfl rfl rfl
  · exact onPduSessionEstAccept_engineInv ev h
  · exact onPduSessionEstReject_engineInv ev h
  · exact onPduSessionReleaseCmd_engineInv ev h
  · obtain ⟨_, _, _, _, heq⟩ := onAuthenticationRequest_frame ctx ev
    rw [heq]
    exact h.congr rfl rfl rfl rfl
  · obtain ⟨_, _, _, heq⟩ := onSecurityModeCommand_frame ctx ev
    rw [heq]
    exact h.congr rfl rfl rfl rfl
  · exact h.congr rfl rfl rfl rfl
  · unfold onConfigUpdateCommand
    split
    · exact h.congr rfl rfl rfl rfl
    · exact h
  · exact h

theorem decodeAndProcessNas_engineInv (pdu : Bytes) (h : EngineInv ctx) :
    EngineInv (decodeAndProcessNas ctx pdu) :=
  decodeAndProcessNas_invariant (fun _ _ _ _ _ hc => hc.congr rfl rfl rfl rfl)
    dispatchNasEvent_engineInv (fun _ _ hc => hc.congr rfl rfl rfl rfl) pdu h

/-! ## Ticks, radio and requests -/

theorem engineForgetNetworkContext_engineInv (h : EngineInv ctx) :
    EngineInv (engineForgetNetworkContext ctx) :=
  ⟨⟨h.sm, ueUpUnbindSessionPsi_wf h.up _, rfl⟩, Nat.zero_le 16, mmInv_guti h.mm _⟩

/-- The radio goes on or off for registration and sessions. -/
theorem EngineInv.radio {ctx : UeContext} (h : EngineInv ctx) (on : Bool) :
    EngineInv { ctx with mm := ueMmOnRadio ctx.mm on, sm := ueSmOnRadio ctx.sm on } :=
  ⟨⟨ueSmOnRadio_wf h.sm on, h.up, (ueMmOnRadio_lastAssignedGuti _ _).trans h.guti⟩, h.short,
    (ueMmOnRadio_pays h.mm on).inv⟩

theorem ranLossRecovery_engineInv (h : EngineInv ctx) : EngineInv (ranLossRecovery ctx) := by
  unfold ranLossRecovery
  split
  · have hoff := (engineForgetNetworkContext_engineInv h).radio false
    exact ((hoff.registration (ueMmOnRadio_pays hoff.mm true).inv
      (ueMmOnRadio_lastAssignedGuti _ true)).request _ _).congr rfl rfl rfl rfl
  · exact h

theorem mmSmTick_engineInv (h : EngineInv ctx) : EngineInv (mmSmTick ctx nowMs) := by
  refine ⟨⟨ueSmTick_wf smNetwork h.sm nowMs _ _, h.up, ?_⟩, h.short, ?_⟩
  · rw [mmSmTick, ← h.guti]
    dsimp only
    split
    · rfl
    · exact ueMmTick_lastAssignedGuti ctx.mm nowMs
  · dsimp only [mmSmTick]
    split
    · exact h.mm
    · exact (ueMmTick_pays h.mm nowMs).inv

theorem userPlaneTick_engineInv (h : EngineInv ctx) : EngineInv (userPlaneTick ctx) :=
  ⟨⟨h.sm, ueUpTick_wf h.up _, h.guti⟩, h.short, h.mm⟩

theorem tickHead_engineInv (h : EngineInv ctx) : EngineInv (tickHead ctx nowMs) := by
  unfold tickHead
  split
  · exact userPlaneTick_engineInv (h.congr rfl rfl rfl rfl)
  · exact mmSmTick_engineInv nowMs (ranLossRecovery_engineInv h)

theorem TailKept.engineInv {a b : UeContext} (hab : TailKept a b) (h : EngineInv a) :
    EngineInv b := by
  obtain ⟨requested, hsm⟩ := hab.sm
  have hmid : EngineInv { a with sm := { a.sm with connectRequested := requested } } :=
    ⟨⟨h.sm, h.up, h.guti⟩, h.short, h.mm⟩
  rcases hab.mm with hmm | ⟨hsearching, hmm⟩
  · exact hmid.congr hsm hab.up hmm hab.guti
  · have hfound := (ueMmTransitionToRegistering_pays h.mm hsearching).inv
    exact (hmid.registration hfound rfl).congr hsm hab.up hmm hab.guti

theorem tickTail_engineInv (h : EngineInv ctx) : EngineInv (tickTail ctx nowMs) := by
  rcases tickTail_kept ctx nowMs with heq | ⟨mid, hkept, heq⟩
  · rw [heq]
    exact h
  · rw [heq]
    exact userPlaneTick_engineInv (hkept.engineInv h)

theorem recvStep_engineInv (h : EngineInv ctx) : EngineInv (recvStep ctx nowMs) := by
  obtain ⟨queue, count, -, hrecv⟩ := recvStep_eq ctx nowMs
  have htake : EngineInv (receiving ctx { ctx.net.ran with nasQueue := queue } count) :=
    h.congr rfl rfl rfl rfl
  rw [hrecv]
  cases recvAction ctx with
  | rrcSetup txId =>
    obtain ⟨net, hsend⟩ := sendSetupComplete_frame
      (receiving ctx { ctx.net.ran with nasQueue := queue } count) txId
    rw [performDl, engineHandleRrcSetup, hsend]
    exact htake.congr rfl rfl rfl rfl
  | nas pdu => exact decodeAndProcessNas_engineInv pdu htake
  | ignore => exact htake

theorem radioOffStop_sessions (ctx : UeContext) :
    ∃ net, radioOffStop ctx = engineForgetNetworkContext { ctx with radioOn := false, net := net } := by
  unfold radioOffStop sendDetach
  dsimp only
  repeat' split
  all_goals exact ⟨_, rfl⟩

theorem radioOnStart_engineInv (h : EngineInv ctx) : EngineInv (radioOnStart ctx) := by
  obtain ⟨rs, hstart⟩ := radioOnStart_frame ctx
  rw [hstart]
  split
  · exact h.congr rfl rfl rfl rfl
  · have hon : EngineInv { ctx with radioOn := true } := h.congr rfl rfl rfl rfl
    exact (engineForgetNetworkContext_engineInv hon).congr rfl rfl rfl rfl

theorem ueEngineSetRadio_engineInv (on : Bool) (h : EngineInv ctx) :
    EngineInv (ueEngineSetRadio ctx on) := by
  have hstart : EngineInv (if on then radioOnStart ctx else radioOffStop ctx) := by
    split
    · exact radioOnStart_engineInv h
    · obtain ⟨net, heq⟩ := radioOffStop_sessions ctx
      rw [heq]
      exact engineForgetNetworkContext_engineInv (h.congr rfl rfl rfl rfl)
  unfold ueEngineSetRadio
  dsimp only
  generalize (if on = true then radioOnStart ctx else radioOffStop ctx) = c at hstart ⊢
  have hradio := hstart.radio on
  split
  · exact (hradio.request _ _).congr rfl rfl rfl rfl
  · exact hradio.congr rfl rfl rfl rfl

/-! ## Whole runs -/

theorem step_engineInv (ctx : UeContext) (e : Step) (h : EngineInv ctx) :
    EngineInv (step ctx e) := by
  cases e with
  | tickHead nowMs => exact tickHead_engineInv nowMs h
  | recv nowMs => exact recvStep_engineInv nowMs h
  | tickTail nowMs => exact tickTail_engineInv nowMs h
  | setRadio on => exact ueEngineSetRadio_engineInv on h
  | requestRegister | requestPeriodicUpdate | requestMobilityUpdate =>
    exact (h.request _ _).congr rfl rfl rfl rfl
  | requestConnect _ | requestDisconnect => exact ⟨⟨h.sm, h.up, h.guti⟩, h.short, h.mm⟩
  | requestImsPdu =>
    obtain ⟨_, _, _, _, _, heq⟩ := ueEngineRequestImsPdu_frame ctx
    rw [step, heq]
    exact h.congr rfl rfl rfl rfl
  | rx nowMs dgrams recvError => exact h.congr rfl rfl rfl rfl
  | os answers => exact h.congr rfl rfl rfl rfl

theorem engineInv_init (cfg : UeInstanceConfig) (os : OsAnswers) :
    EngineInv (ueContextInitFromConfig cfg os) where
  sm := nofun
  up := ⟨nofun, fun _ => ⟨rfl, rfl, rfl⟩⟩
  guti := by
    simp only [ueContextInitFromConfig, ueMmInit]
    split
    · rfl
    split
    · rfl
    · rfl
  short := Nat.zero_le 16
  mm := ueMmInit_inv true cfg.sim.simPresent

theorem reachable_engineInv (h : Reachable ctx) : EngineInv ctx := by
  refine h.invariant ?_ step_engineInv
  rintro _ ⟨cfg, os, rfl⟩
  exact engineInv_init cfg os

/-- In every run the state of registration fits procedure and step, and the retries stay within
their number. -/
theorem run_mmConsistent (cfg : UeInstanceConfig) (os : OsAnswers) (es : List Step) :
    MmConsistent (run (ueContextInitFromConfig cfg os) es).mm := by
  have hinv := (reachable_engineInv ⟨_, es, ⟨cfg, os, rfl⟩, rfl⟩).mm
  exact hinv.phase.consistent hinv.retries

/-- In every run sessions, user plane and stored identity fit together. -/
theorem run_contextInv (cfg : UeInstanceConfig) (os : OsAnswers) (es : List Step) :
    let ctx := run (ueContextInitFromConfig cfg os) es
    ContextInv ctx ∧ ctx.guti.length ≤ 16 :=
  have hinv := reachable_engineInv ⟨_, es, ⟨cfg, os, rfl⟩, rfl⟩
  ⟨hinv.toContextInv, hinv.short⟩

end VirtualLte.Engine
