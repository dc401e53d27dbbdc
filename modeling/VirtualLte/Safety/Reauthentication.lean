import VirtualLte.Engine.Network

/-!
# A challenge while a context is in use

A new challenge prepares a new context.  Until a Security Mode Command takes it into
use, the current one should go on as it is, so that the network can still protect
messages with it.

* `Isolated` says that a challenge leaves the current context alone.
* `reauthentication_iff`: it does, exactly when the challenge is not accepted or
  derives the very keys in use.  An accepted challenge is worked out *in* the current
  context.
-/

namespace VirtualLte.Engine

open Crypto Nas Ran Mm Sm Up

/-- The keys that protect messages, and the one they come from. -/
def nasKeysOf (keys : UeNasKeys) : Block × Block × Key256 :=
  (keys.knasInt, keys.knasEnc, keys.kamf)

/-- A challenge leaves the current context as it was. -/
structure Isolated (ctx : UeContext) (ev : UeNasEvent) : Prop where
  keys : nasKeysOf (engineProcessNasEvent ctx ev).net.nasSec.keys = nasKeysOf ctx.net.nasSec.keys
  intAlg : (engineProcessNasEvent ctx ev).net.nasSec.intAlg = ctx.net.nasSec.intAlg
  encAlg : (engineProcessNasEvent ctx ev).net.nasSec.encAlg = ctx.net.nasSec.encAlg
  ngksi : (engineProcessNasEvent ctx ev).net.nasSec.ngksi = ctx.net.nasSec.ngksi
  dlCount : (engineProcessNasEvent ctx ev).net.nasSec.dlCount = ctx.net.nasSec.dlCount
  /-- The new keys are in the non-current context. -/
  derived : ∀ ch, acceptedChallenge ctx ev = some ch →
    (engineProcessNasEvent ctx ev).nasSecNonCurrent.map (·.keys) = some (authKeys ctx.cfg ch)
  /-- Every message still reads as it did. -/
  reads : ∀ data,
    (ueNasSecurityUnprotect (engineProcessNasEvent ctx ev).net.nasSec data).map Prod.fst =
      (ueNasSecurityUnprotect ctx.net.nasSec data).map Prod.fst

/-- What a challenge does to the current context: it is recorded, the keys change if it is
accepted, and the answer moves the uplink COUNT. -/
theorem onAuthenticationRequest_nasSec (ctx : UeContext) (ev : UeNasEvent) :
    ∃ milenage rand sqnXorAk abba ul,
      (onAuthenticationRequest ctx ev).net.nasSec = { ctx.net.nasSec with
        milenage := milenage
        rand := rand
        sqnXorAk := sqnXorAk
        abba := abba
        ulCount := ul
        keys :=
          match acceptedChallenge ctx ev with
          | some ch => authKeys ctx.cfg ch
          | none => ctx.net.nasSec.keys } := by
  cases onAuthenticationRequest_outcome ctx ev with
  | ignored hnone heq =>
    rw [heq, hnone]
    exact ⟨_, _, _, _, _, rfl⟩
  | refused ch hnone hsent hnon hlast =>
    obtain ⟨ul, hul⟩ := hsent.nasSec
    rw [hul, hnone]
    exact ⟨_, _, _, _, ul, rfl⟩
  | accepted ch hsome hsent hnon hlast =>
    obtain ⟨ul, hul⟩ := hsent.nasSec
    rw [hul, hsome]
    exact ⟨_, _, _, _, ul, rfl⟩

/-- An accepted challenge leaves its keys in the non-current context. -/
theorem onAuthenticationRequest_derived {ctx : UeContext} {ev : UeNasEvent} {ch : AuthChallenge}
    (h : acceptedChallenge ctx ev = some ch) :
    (onAuthenticationRequest ctx ev).nasSecNonCurrent.map (·.keys) =
      some (authKeys ctx.cfg ch) := by
  cases onAuthenticationRequest_outcome ctx ev with
  | ignored hnone heq =>
    rw [hnone] at h
    cases h
  | refused ch' hnone hsent hnon hlast =>
    rw [hnone] at h
    cases h
  | accepted ch' hsome hsent hnon hlast =>
    rw [hsome] at h
    cases h
    rw [hnon]
    rfl

theorem engineProcessNasEvent_authentication (ctx : UeContext) {ev : UeNasEvent}
    (htype : ev.type = .authenticationRequest) :
    (engineProcessNasEvent ctx ev).net = (onAuthenticationRequest ctx ev).net ∧
      (engineProcessNasEvent ctx ev).nasSecNonCurrent =
        (onAuthenticationRequest ctx ev).nasSecNonCurrent := by
  have hdispatch : dispatchNasEvent ctx ev = onAuthenticationRequest ctx ev := by
    simp only [dispatchNasEvent, htype]
  rw [engineProcessNasEvent, hdispatch]
  exact ⟨rfl, rfl⟩

/-- A challenge leaves the current context alone exactly when it is not accepted, or when it
derives the keys that are in use already. -/
theorem reauthentication_iff (ctx : UeContext) (ev : UeNasEvent)
    (htype : ev.type = .authenticationRequest) :
    Isolated ctx ev ↔
      ∀ ch, acceptedChallenge ctx ev = some ch →
        nasKeysOf (authKeys ctx.cfg ch) = nasKeysOf ctx.net.nasSec.keys := by
  obtain ⟨hnet, hnon⟩ := engineProcessNasEvent_authentication ctx htype
  have hsec := congrArg UeNet.nasSec hnet
  obtain ⟨milenage, rand, sqnXorAk, abba, ul, hwork⟩ := onAuthenticationRequest_nasSec ctx ev
  rw [hwork] at hsec
  constructor
  · intro h ch hch
    have hkeys := h.keys
    rw [hsec, hch] at hkeys
    exact hkeys
  · intro h
    have hkeys : nasKeysOf (engineProcessNasEvent ctx ev).net.nasSec.keys =
        nasKeysOf ctx.net.nasSec.keys := by
      rw [hsec]
      cases hch : acceptedChallenge ctx ev with
      | none => rfl
      | some ch => exact h ch hch
    have hint := congrArg Prod.fst hkeys
    have henc := congrArg (fun k => k.2.1) hkeys
    refine ⟨hkeys, by rw [hsec], by rw [hsec], by rw [hsec], by rw [hsec], ?_, ?_⟩
    · intro ch hch
      rw [hnon]
      exact onAuthenticationRequest_derived hch
    · exact ueNasSecurityUnprotect_congr (by rw [hsec]) hint henc (by rw [hsec]) (by rw [hsec])
        (by rw [hsec]) (by rw [hsec])

theorem acceptedChallenge_genuine {ctx : UeContext} {secrets : SimSecrets}
    (hsecrets : simSecrets ctx.cfg = some secrets) (ngksi : UInt8) (rand : Block)
    (sqn : Vector UInt8 6) :
    acceptedChallenge ctx (authEvent ngksi rand (autnOf secrets rand sqn)) =
      if sqnBehind ctx.authSqnMs sqn then none
      else some (genuineChallenge secrets rand sqn [0, 0]) := by
  unfold acceptedChallenge
  rw [challengeOf_genuine hsecrets]
  simp only [authVerdict_genuine]
  cases sqnBehind ctx.authSqnMs sqn with
  | true => rfl
  | false => rfl

/-- A genuine challenge of the packaged subscriber, with key set 2 and a zero RAND. -/
def exampleChallenge (sqn : Vector UInt8 6) : UeNasEvent :=
  authEvent 2 zeroBlock (autnOf exampleSecrets zeroBlock sqn)

/-- A challenge with an old sequence number is answered with a synch failure, and leaves the
context alone. -/
theorem reauthentication_synchFailure : Isolated securedUe (exampleChallenge #v[0, 0, 0, 0, 0, 4]) := by
  have hsecrets : simSecrets securedUe.cfg = some exampleSecrets := by
    rw [securedUe_camped.cfg]
    exact simSecrets_exampleCfg
  have hbehind : sqnBehind securedUe.authSqnMs #v[0, 0, 0, 0, 0, 4] = true := by
    rw [securedUe_authSqnMs]
    decide
  refine (reauthentication_iff securedUe _ rfl).mpr ?_
  intro ch hch
  rw [exampleChallenge, acceptedChallenge_genuine hsecrets, hbehind] at hch
  cases hch

/-- A context, had its KAMF been `kamf`. -/
def withKamf (ctx : UeContext) (kamf : Key256) : UeContext :=
  { ctx with net := { ctx.net with nasSec := { ctx.net.nasSec with
    keys := { ctx.net.nasSec.keys with kamf := kamf } } } }

theorem withKamf_frame (ctx : UeContext) (kamf : Key256) :
    (withKamf ctx kamf).cfg = ctx.cfg ∧ (withKamf ctx kamf).authSqnMs = ctx.authSqnMs ∧
      (withKamf ctx kamf).net.nasSec.active = ctx.net.nasSec.active ∧
      (withKamf ctx kamf).net.nasSec.keys.kamf = kamf :=
  ⟨rfl, rfl, rfl, rfl⟩

/-- If an accepted challenge left the current context alone, its KAMF was there before. -/
theorem kamf_of_isolated {ctx : UeContext} (hcfg : ctx.cfg = exampleCfg)
    (hsqn : ctx.authSqnMs = some exampleSqn)
    (h : Isolated ctx (exampleChallenge exampleSqn)) :
    (exampleKeys zeroBlock exampleSqn).kamf = ctx.net.nasSec.keys.kamf := by
  have hsecrets : simSecrets ctx.cfg = some exampleSecrets := by
    rw [hcfg]
    exact simSecrets_exampleCfg
  have hbehind : sqnBehind (some exampleSqn) exampleSqn = false := by decide
  have haccepted : acceptedChallenge ctx (exampleChallenge exampleSqn) =
      some (genuineChallenge exampleSecrets zeroBlock exampleSqn [0, 0]) := by
    rw [exampleChallenge, acceptedChallenge_genuine hsecrets, hsqn, hbehind]
    rfl
  obtain ⟨hnet, -⟩ := engineProcessNasEvent_authentication ctx
    (show (exampleChallenge exampleSqn).type = .authenticationRequest from rfl)
  obtain ⟨milenage, rand, sqnXorAk, abba, ul, hwork⟩ :=
    onAuthenticationRequest_nasSec ctx (exampleChallenge exampleSqn)
  have hkeys := h.keys
  rw [hnet, hwork, haccepted, hcfg] at hkeys
  exact congrArg (fun k => k.2.2) hkeys

/-- An accepted challenge puts the same KAMF into the current context whatever was there. -/
theorem reauthentication_fails :
    ¬ ∀ ctx ev, ctx.net.nasSec.active = true → ev.type = .authenticationRequest →
      Isolated ctx ev := by
  intro h
  have hkamf : ∀ kamf, (exampleKeys zeroBlock exampleSqn).kamf = kamf := by
    intro kamf
    obtain ⟨hcfg, hsqn, hact, hkept⟩ := withKamf_frame securedUe kamf
    have hisolated := h (withKamf securedUe kamf) (exampleChallenge exampleSqn)
      (hact.trans securedUe_secured.1) rfl
    exact (kamf_of_isolated (hcfg.trans securedUe_camped.cfg) (hsqn.trans securedUe_authSqnMs)
      hisolated).trans hkept
  have hzero := hkamf (Vector.replicate 32 0)
  have hone := hkamf (Vector.replicate 32 1)
  rw [hzero] at hone
  exact absurd hone (by decide)

end VirtualLte.Engine
