import VirtualLte.Engine.Network
import VirtualLte.Lib.FreshLog

/-!
# Uplink COUNTs are not reused

Two messages protected under one key must not carry the same COUNT.  Engine and
network adapter protect with the one COUNT of the current context, so what matters is
where it stands when the context gets new keys.

* `UlInv` is the invariant of one kind of key: no reuse so far, and every use of the
  key in use was below the COUNT in use.
* `KeysStart` is the guard: an accepted challenge in an active context and an accepted
  command install keys that were not used at or above the COUNT they start at.
* `uplinkFresh`: under the guard no (key, COUNT) pair is used twice.
-/

namespace VirtualLte.Engine

open Crypto Nas Ran Mm Sm Up
open FreshLog

/-- The messages protected so far, the last one first. -/
def ulLog (trace : List Obs) : List UlProtected :=
  trace.filterMap fun o =>
    match o with
    | .ulProtected p => some p
    | _ => none

/-- The two keys that protect a message. -/
inductive NasKeyKind where
  | integrity
  | ciphering
  deriving DecidableEq, Repr

/-- The key of this kind. -/
def NasKeyKind.of : NasKeyKind → UeNasKeys → Block
  | .integrity, keys => keys.knasInt
  | .ciphering, keys => keys.knasEnc

/-- The key of this kind that a message was protected with. -/
def NasKeyKind.used : NasKeyKind → UlProtected → Block
  | .integrity, p => p.knasInt
  | .ciphering, p => p.knasEnc

/-- The COUNT a message was protected at. -/
def UlProtected.number (p : UlProtected) : Nat := p.count.toNat

/-- No two messages were protected with one key at one COUNT. -/
def UplinkFresh (trace : List Obs) : Prop :=
  ∀ k : NasKeyKind, Fresh k.used UlProtected.number (ulLog trace)

/-- So far no reuse, and every use of the key in use was below the COUNT in use. -/
structure UlInv (k : NasKeyKind) (net : UeNet) : Prop where
  fresh : Fresh k.used UlProtected.number (ulLog net.trace)
  below : net.nasSec.active = true →
    Below k.used UlProtected.number (ulLog net.trace) (k.of net.nasSec.keys)
      net.nasSec.ulCount.toNat
  /-- The COUNT has not wrapped. -/
  count_le : net.nasSec.ulCount.toNat ≤ (ulLog net.trace).length

/-- Keys start at a COUNT that all their uses are below. -/
def KeysStart (trace : List Obs) (keys : UeNasKeys) (start : UeNasCount) : Prop :=
  ∀ k : NasKeyKind, Below k.used UlProtected.number (ulLog trace) (k.of keys) start.toNat

/-- The uplink COUNT that a command's context starts with. -/
def SmcTarget.ulStart (ctx : UeContext) : SmcTarget → UeNasCount
  | .current => ctx.net.nasSec.ulCount
  | .nonCurrent _ => UeNasCount.zero

/-- An event that installs keys lets them start above their uses. -/
structure UplinkGuard (ctx : UeContext) (ev : UeNasEvent) : Prop where
  challenge : ev.type = .authenticationRequest → ∀ ch, acceptedChallenge ctx ev = some ch →
    ctx.net.nasSec.active = true →
      KeysStart ctx.net.trace (authKeys ctx.cfg ch) ctx.net.nasSec.ulCount
  command : ev.type = .securityModeCommand → ∀ target,
    smcTarget ctx (smcSelection ev).ngksi = some target →
    smcDuplicate ctx (smcSelection ev) = false →
    (verifySmcNewContextMac ctx (target.sec ctx) (smcSelection ev)).isSome = true →
      KeysStart ctx.net.trace (smcKeys (target.sec ctx) (smcSelection ev)) (target.ulStart ctx)

/-! ## One step -/

/-- The invariant, as long as fewer than `2^24` messages were protected. -/
def UlSafe (net : UeNet) : Prop := (ulLog net.trace).length < 2 ^ 24 → ∀ k, UlInv k net

theorem ulLog_logVerified (alg : UeNasIntegrityAlg) (v : DlVerified) (trace : List Obs) :
    ulLog (logVerified alg v trace) = ulLog trace := by
  unfold logVerified
  split
  · rfl
  · rfl

theorem ulLog_request {o : Obs} (h : o.isRequest = true) (trace : List Obs) :
    ulLog (o :: trace) = ulLog trace := by
  cases o with
  | estRequest sent => rfl
  | regRequest attemptId => rfl
  | dlVerified v => cases h
  | ulProtected p => cases h

theorem ulInv_protect {k : NasKeyKind} {net : UeNet} (h : UlInv k net)
    (hact : net.nasSec.active = true) (hlen : (ulLog net.trace).length + 1 < 2 ^ 24)
    (ran : UeRanTransportCtx) : UlInv k { net.protectedOnce with ran := ran } := by
  have hcount := h.count_le
  have hnext := ueNasCountIncrement_toNat (show net.nasSec.ulCount.toNat + 1 < 2 ^ 24 by omega)
  have hused : k.used ⟨net.nasSec.keys.knasInt, net.nasSec.keys.knasEnc, net.nasSec.ulCount⟩ =
      k.of net.nasSec.keys := by
    cases k with
    | integrity => rfl
    | ciphering => rfl
  have hbelow := h.below hact
  refine ⟨h.fresh.cons (by rw [hused]; exact hbelow), ?_, ?_⟩
  · intro _
    simp only [hnext]
    exact (hbelow.mono (by omega)).cons fun _ => Nat.lt_succ_self _
  · simp only [hnext]
    exact Nat.succ_le_succ hcount

theorem ulSafe_sent {net net' : UeNet} (h : SentFrom net net') (hsafe : UlSafe net) :
    UlSafe net' := by
  refine h.invariant ?_ hsafe
  intro a b hstep ha hlen
  cases hstep with
  | transport rs => exact fun k => ⟨(ha hlen k).fresh, (ha hlen k).below, (ha hlen k).count_le⟩
  | protect hact =>
    have hlen' : (ulLog a.trace).length + 1 < 2 ^ 24 := hlen
    exact fun k => ulInv_protect (ha (by omega) k) hact hlen' a.ran
  | request ho =>
    have hlog := ulLog_request ho a.trace
    simp only [hlog] at hlen
    intro k
    refine ⟨?_, ?_, ?_⟩
    · rw [hlog]
      exact (ha hlen k).fresh
    · rw [hlog]
      exact (ha hlen k).below
    · rw [hlog]
      exact (ha hlen k).count_le

/-- New keys keep the invariant when they start above their uses. -/
theorem ulSafe_install {net : UeNet} (h : UlSafe net) {sec : UeNasSecurityCtx} {trace : List Obs}
    (hlog : ulLog trace = ulLog net.trace)
    (hstart : (∀ k, UlInv k net) → sec.active = true →
      KeysStart net.trace sec.keys sec.ulCount)
    (hcount : sec.ulCount.toNat ≤ net.nasSec.ulCount.toNat) :
    UlSafe { net with nasSec := sec, trace := trace } := by
  intro hlen k
  simp only [hlog] at hlen
  have hinv := h hlen
  refine ⟨?_, ?_, ?_⟩
  · simp only [hlog]
    exact (hinv k).fresh
  · intro hact
    simp only [hlog]
    exact hstart hinv hact k
  · simp only [hlog]
    exact Nat.le_trans hcount (hinv k).count_le

theorem ulSafe_smcInstall {ctx : UeContext} (h : UlSafe ctx.net) {target : SmcTarget}
    {sel : SmcSelection}
    (hstart : KeysStart ctx.net.trace (smcKeys (target.sec ctx) sel) (target.ulStart ctx))
    (c : UeNasCount) (count0 : Bool) : UlSafe (smcInstall ctx target sel c count0).net := by
  have hlog := ulLog_logVerified sel.intAlg
    ⟨(smcKeys (target.sec ctx) sel).knasInt, c, 1, ((newCtxHdr ctx).getD ⟨0, 0, 0⟩).mac,
      ((newCtxHdr ctx).getD ⟨0, 0, 0⟩).sqn :: ctx.smcLastPayload⟩ ctx.net.trace
  cases target with
  | current => exact ulSafe_install h hlog (fun _ _ => hstart) (Nat.le_refl _)
  | nonCurrent sec => exact ulSafe_install h hlog (fun _ _ => hstart) (UeNasCount.zero_toNat_le _)

theorem ulSafe_invariant :
    SecurityInvariant (fun ctx => UlSafe ctx.net) (fun _ _ => True) UplinkGuard where
  quiet := fun hquiet h => ulSafe_sent hquiet.sent h
  clear := fun h => ulSafe_install h rfl nofun (UeNasCount.zero_toNat_le _)
  unwrapped := by
    intro ctx c pdu plain h _ hunwrap
    cases hunwrap with
    | plain hprot heq hplain =>
      rw [heq]
      exact h
    | newCtx hprot hsht hlen heq hplain =>
      rw [heq]
      exact h
    | verified hprot hsht hact hmac heq =>
      rw [heq]
      exact ulSafe_install h (ulLog_logVerified _ _ _) (fun hinv hact k => (hinv k).below hact)
        (Nat.le_refl _)
  challenge := by
    intro ctx ctx' ev h hguard htype houtcome
    cases houtcome with
    | ignored hnone heq =>
      rw [heq]
      exact h
    | refused ch hnone hsent hnon hlast =>
      exact ulSafe_sent hsent (ulSafe_install h rfl (fun hinv hact k => (hinv k).below hact)
        (Nat.le_refl _))
    | accepted ch hsome hsent hnon hlast =>
      exact ulSafe_sent hsent (ulSafe_install h rfl
        (fun _ hact => hguard.challenge htype ch hsome hact) (Nat.le_refl _))
  command := by
    intro ctx ctx' ev h hguard htype houtcome
    cases houtcome with
    | refused heq =>
      rw [heq]
      exact h
    | repeated hdup heq =>
      rw [heq]
      exact ulSafe_sent (smcComplete_sent ctx _) h
    | installed target c count0 htarget hdup hverify heq =>
      rw [heq]
      have hstart := hguard.command htype target htarget hdup (by rw [hverify]; rfl)
      exact ulSafe_sent (smcComplete_sent _ _) (ulSafe_smcInstall h hstart c count0)
  unwrap_receiving := fun _ _ _ => trivial
  handle_receiving := by
    intro ctx ev ran count hguard
    refine ⟨hguard.challenge, ?_⟩
    intro htype target htarget hdup hverify
    cases target with
    | current => exact hguard.command htype .current htarget hdup hverify
    | nonCurrent sec => exact hguard.command htype (.nonCurrent sec) htarget hdup hverify

/-! ## Whole runs -/

theorem ulSafe_init (cfg : UeInstanceConfig) (os : OsAnswers) :
    UlSafe (ueContextInitFromConfig cfg os).net :=
  fun _ _ => ⟨fresh_nil, nofun, UeNasCount.zero_toNat_le _⟩

/-- A run that protects fewer than `2^24` messages, and installs keys only above their uses,
never uses a key twice at one COUNT. -/
theorem uplinkFresh (cfg : UeInstanceConfig) (os : OsAnswers) (es : List Step)
    (hguard : Guarded (fun _ _ => True) UplinkGuard (ueContextInitFromConfig cfg os) es)
    (hlen : (ulLog (run (ueContextInitFromConfig cfg os) es).net.trace).length < 2 ^ 24) :
    UplinkFresh (run (ueContextInitFromConfig cfg os) es).net.trace :=
  fun k => (ulSafe_invariant.run (ulSafe_init cfg os) hguard hlen k).fresh

/-- A first authentication and security mode procedure installs unused keys. -/
theorem uplinkGuarded_identifiedRun :
    Guarded (fun _ _ => True) UplinkGuard exampleUe identifiedRun := by
  refine guarded_identifiedRun (fun _ _ _ => trivial) ?_ (fun _ _ => trivial) ?_
    (fun _ _ => trivial) ?_
  · intro c hc
    refine ⟨?_, nofun⟩
    intro _ ch _ hact
    rw [hc.nasSec] at hact
    cases hact
  · intro c hc
    refine ⟨nofun, ?_⟩
    intro _ target _ _ _ k
    rw [hc.trace]
    exact below_nil
  · exact fun c => ⟨nofun, nofun⟩

/-- Two messages under the first context. -/
theorem uplinkFresh_identifiedRun :
    (ulLog (run exampleUe identifiedRun).net.trace).length = 2 ∧
      UplinkFresh (run exampleUe identifiedRun).net.trace := by
  have hlen : (ulLog (run exampleUe identifiedRun).net.trace).length = 2 := by
    rw [camped_identifiedRun.trace]
    rfl
  exact ⟨hlen, uplinkFresh exampleCfg exampleOs identifiedRun uplinkGuarded_identifiedRun
    (Nat.lt_of_le_of_lt (Nat.le_of_eq hlen) (by decide))⟩

/-- The RAND and sequence number of a second challenge. -/
def secondRand : Block := Vector.replicate 16 1

def secondSqn : Vector UInt8 6 := #v[0, 0, 0, 0, 0, 6]

/-- The security side after a second challenge, for key set 2. -/
def rechallengedSide : SecSide :=
  (securedSide zeroBlock exampleSqn).authenticated 2 secondRand secondSqn

/-- After its Security Mode Command. -/
def resecuredSide : SecSide :=
  rechallengedSide.secured (newSecurityContext (challenged securedSec secondRand secondSqn) 2) 2

/-- A second challenge while a context is in use, its Security Mode Command, and a protected
Identity Request. -/
def reuseRun : List Step :=
  secureRun zeroBlock exampleSqn ++
    deliver exampleGnb 3 0
      (authenticationRequest 2 secondRand (autnOf exampleSecrets secondRand secondSqn)) ++
    deliver exampleGnb 4 0 (securityModeCommand (exampleKeys secondRand secondSqn).kamf 2) ++
    deliver exampleGnb 5 0 (protectedIdentityRequest resecuredSide.nasSec 1)

theorem camped_reuseRun : Camped (run exampleUe reuseRun) (resecuredSide.identified 1) := by
  have hauth : Camped _ rechallengedSide :=
    @camped_then_authenticate _ _ _ (camped_secureRun zeroBlock exampleSqn) 3 2 secondRand secondSqn
      rfl
  have hsecure : Camped _ resecuredSide :=
    @camped_then_secure _ _ _ (newSecurityContext (challenged securedSec secondRand secondSqn) 2) 2
      hauth 4 (by decide) rfl rfl rfl (by rintro - ⟨⟩) (by rintro _ ⟨⟩ ⟨⟩)
  exact camped_then_identify hsecure 5 rfl rfl rfl 1

/-- The keys of the second challenge. -/
def secondKeys : UeNasKeys := exampleKeys secondRand secondSqn

/-- The answer to the second challenge and the one to the Identity Request. -/
theorem ulLog_reuseRun :
    ∃ p q, ulLog (resecuredSide.identified 1).trace =
      [⟨secondKeys.knasInt, secondKeys.knasEnc, ⟨0, 1⟩⟩, p,
        ⟨secondKeys.knasInt, secondKeys.knasEnc, ⟨0, 1⟩⟩, q] :=
  ⟨_, _, rfl⟩

/-- The keys of a challenge answered while a context is in use are used at COUNT 1 for the
answer, and at COUNT 1 again once they have been taken into use. -/
theorem uplinkFresh_reused :
    ¬ ∀ cfg os es, (ulLog (run (ueContextInitFromConfig cfg os) es).net.trace).length < 2 ^ 24 →
      UplinkFresh (run (ueContextInitFromConfig cfg os) es).net.trace := by
  intro h
  have htrace : (run (ueContextInitFromConfig exampleCfg exampleOs) reuseRun).net.trace =
      (resecuredSide.identified 1).trace := camped_reuseRun.trace
  obtain ⟨p, q, hlog⟩ := ulLog_reuseRun
  have hreuse := h exampleCfg exampleOs reuseRun
  rw [htrace] at hreuse
  have hfresh := hreuse (by decide) .integrity
  rw [hlog] at hfresh
  exact (List.rel_of_pairwise_cons hfresh (by simp)) rfl rfl

end VirtualLte.Engine
