import VirtualLte.Engine.Network

/-!
# Accepting a challenge

An Authentication Request is answered with an Authentication Response if the code it
carries is genuine and its sequence number is not behind, and with an Authentication
Failure otherwise.

* `Genuine` is the code check: f1 of TS 35.206 over the recovered sequence number,
  RAND and the *configured* AMF.  The AMF field of AUTN is not looked at.
* `akaStep` is a run of the engine together with the sequence numbers accepted since
  the context was last reset; the highest of them is the stored one (`SqnTracked`).
* `akaAcceptance` says what becomes of every challenge after every run.
-/

namespace VirtualLte.Engine

open Crypto Nas Ran Mm Sm Up

/-! ## Sequence numbers -/

/-- The number a sequence number stands for. -/
def sqnValue (sqn : Vector UInt8 6) : Nat := beNat sqn.toList

/-- `memcmp` on strings of one length compares the numbers they stand for. -/
theorem memcmpLt_iff {a b : Bytes} (h : a.length = b.length) :
    memcmpLt a b = true ↔ beNat a < beNat b := by
  induction a generalizing b with
  | nil =>
    cases b with
    | nil => simp [memcmpLt, beNat]
    | cons y ys => cases h
  | cons x xs ih =>
    cases b with
    | nil => cases h
    | cons y ys =>
      have hlen : xs.length = ys.length := Nat.succ.inj h
      have hxs := beNat_lt xs
      have hys := beNat_lt ys
      rw [hlen] at hxs
      simp only [memcmpLt, beNat, hlen]
      split
      · rename_i heq
        rw [ih hlen, heq]
        omega
      · rename_i hne
        have hne' : x.toNat ≠ y.toNat := fun heq => hne (UInt8.toNat_inj.mp heq)
        rw [decide_eq_true_eq, UInt8.lt_iff_toNat_lt]
        -- the first octet that differs outweighs all that follow
        have hmul : ∀ m n, m < n → m * 256 ^ ys.length + 256 ^ ys.length ≤ n * 256 ^ ys.length := by
          intro m n hlt
          rw [← Nat.succ_mul]
          exact Nat.mul_le_mul_right _ hlt
        rcases Nat.lt_or_gt_of_ne hne' with hlt | hgt
        · have := hmul _ _ hlt
          omega
        · have := hmul _ _ hgt
          omega

theorem sqnBehind_some_iff (ms sqn : Vector UInt8 6) :
    sqnBehind (some ms) sqn = true ↔ sqnValue sqn < sqnValue ms :=
  memcmpLt_iff (by simp)

/-! ## The check -/

/-- The sequence number hidden in AUTN. -/
def recoveredSqn (secrets : SimSecrets) (rand autn : Block) : Vector UInt8 6 :=
  Vector.zipWith (· ^^^ ·) (vecOf 6 autn.toList)
    (milenageF5 (ueAes128EcbEncrypt secrets.k) secrets.opc rand)

/-- The code in AUTN is f1 over the recovered sequence number and `amf`. -/
def Genuine (secrets : SimSecrets) (rand autn : Block) (amf : Vector UInt8 2) : Prop :=
  milenageF1 (ueAes128EcbEncrypt secrets.k) secrets.opc rand (recoveredSqn secrets rand autn) amf =
    vecOf 8 (autn.toList.drop 8)

/-- The two passes of Milenage recover the sequence number and check the code. -/
theorem authChallenge_spec (secrets : SimSecrets) (rand autn : Block) (abba : Bytes) :
    (authChallenge secrets rand autn abba).sqn = recoveredSqn secrets rand autn ∧
      ((authChallenge secrets rand autn abba).milenage.macA =
        (authChallenge secrets rand autn abba).mac ↔ Genuine secrets rand autn secrets.amf) := by
  have hsqn : (authChallenge secrets rand autn abba).sqn = recoveredSqn secrets rand autn := by
    simp only [authChallenge, recoveredSqn, ueMilenageCompute_ak]
  refine ⟨hsqn, ?_⟩
  have hmac : (authChallenge secrets rand autn abba).milenage.macA =
      milenageF1 (ueAes128EcbEncrypt secrets.k) secrets.opc rand
        (authChallenge secrets rand autn abba).sqn secrets.amf := by
    simp only [authChallenge, ueMilenageCompute_macA]
  rw [hmac, hsqn]
  rfl

/-! ## The numbers accepted along a run -/

/-- The sequence number of the challenge a step accepts. -/
def acceptedSqn (ctx : UeContext) (e : Step) : Option (Vector UInt8 6) :=
  (nasDelivered ctx e).bind fun pdu =>
    (unwrapNas ctx pdu).bind fun r =>
      (ueNasDecodeEvent r.2).bind fun ev =>
        if ev.type = .authenticationRequest then (acceptedChallenge r.1 ev).map (·.sqn) else none

/-- A step of the engine, with the numbers accepted since the last reset, newest first. -/
def akaStep (s : UeContext × List (Vector UInt8 6)) (e : Step) :
    UeContext × List (Vector UInt8 6) :=
  (step s.1 e,
    if resetsContext s.1 e then []
    else
      match acceptedSqn s.1 e with
      | some sqn => sqn :: s.2
      | none => s.2)

/-- The stored number is the last accepted one, and no number was accepted after a higher one. -/
def SqnTracked (s : UeContext × List (Vector UInt8 6)) : Prop :=
  s.1.authSqnMs = s.2.head? ∧ s.2.Pairwise fun a b => sqnValue b ≤ sqnValue a

theorem SqnTracked.behind_iff {ctx : UeContext} {accepted : List (Vector UInt8 6)}
    (h : SqnTracked (ctx, accepted)) (sqn : Vector UInt8 6) :
    sqnBehind ctx.authSqnMs sqn = false ↔ ∀ s ∈ accepted, sqnValue s ≤ sqnValue sqn := by
  obtain ⟨hhead, hsorted⟩ := h
  dsimp only at hhead hsorted
  rw [hhead]
  cases accepted with
  | nil => simp [sqnBehind]
  | cons ms rest =>
    rw [List.head?_cons, ← Bool.not_eq_true, sqnBehind_some_iff, Nat.not_lt, List.forall_mem_cons]
    refine ⟨fun hle => ⟨hle, fun s hs => ?_⟩, fun hall => hall.1⟩
    exact Nat.le_trans (List.rel_of_pairwise_cons hsorted hs) hle

theorem onAuthenticationRequest_authSqnMs (ctx : UeContext) (ev : UeNasEvent) :
    (onAuthenticationRequest ctx ev).authSqnMs =
      match acceptedChallenge ctx ev with
      | some ch => some ch.sqn
      | none => ctx.authSqnMs := by
  unfold onAuthenticationRequest acceptedChallenge
  cases challengeOf ctx.cfg ev with
  | none => rfl
  | some r =>
    dsimp only
    cases authVerdict ctx.authSqnMs r.2 with
    | macFailure => rfl
    | synchFailure => rfl
    | accepted => simp [acceptChallenge]

theorem dispatchNasEvent_authSqnMs (ctx : UeContext) (ev : UeNasEvent) :
    (dispatchNasEvent ctx ev).authSqnMs =
      match (if ev.type = .authenticationRequest then (acceptedChallenge ctx ev).map (·.sqn)
        else none) with
      | some sqn => some sqn
      | none => ctx.authSqnMs := by
  by_cases hauth : ev.type = .authenticationRequest
  · simp only [dispatchNasEvent, hauth, if_true, onAuthenticationRequest_authSqnMs]
    cases acceptedChallenge ctx ev with
    | none => rfl
    | some ch => rfl
  · rw [if_neg hauth]
    by_cases hsmc : ev.type = .securityModeCommand
    · obtain ⟨_, _, _, heq⟩ := onSecurityModeCommand_frame ctx ev
      simp only [dispatchNasEvent, hsmc, heq]
    · exact (dispatchNasEvent_quiet ctx hauth hsmc).authSqnMs

theorem recvStep_authSqnMs (ctx : UeContext) (nowMs : UInt64) :
    (recvStep ctx nowMs).authSqnMs = (acceptedSqn ctx (.recv nowMs)).or ctx.authSqnMs := by
  obtain ⟨queue, count, -, hrecv⟩ := recvStep_eq ctx nowMs
  generalize { ctx.net.ran with nasQueue := queue } = ran at hrecv
  rw [hrecv]
  unfold acceptedSqn
  cases haction : recvAction ctx with
  | rrcSetup txId =>
    simp only [nasDelivered, haction, performDl]
    exact (engineHandleRrcSetup_quiet _ txId nowMs).authSqnMs
  | ignore =>
    simp only [nasDelivered, haction, performDl, receiving, Option.bind_none, Option.none_or]
  | nas pdu =>
    simp only [nasDelivered, haction, performDl, Option.bind_some]
    rw [decodeAndProcessNas, unwrapNas_receiving]
    cases hc : unwrapNas ctx pdu with
    | none => rfl
    | some r =>
      obtain ⟨sec, trace, hdr, payload, hr⟩ := unwrapNas_frame hc
      have hsqn : r.1.authSqnMs = ctx.authSqnMs := by rw [hr]
      simp only [Option.map_some, Option.bind_some]
      cases ueNasDecodeEvent r.2 with
      | none => exact hsqn
      | some ev =>
        refine (dispatchNasEvent_authSqnMs (receiving r.1 ran count) ev).trans ?_
        have haccepted : acceptedChallenge (receiving r.1 ran count) ev = acceptedChallenge r.1 ev := rfl
        rw [haccepted, Option.bind_some]
        cases (if ev.type = .authenticationRequest then (acceptedChallenge r.1 ev).map (·.sqn)
          else none) with
        | none => exact hsqn
        | some sqn => rfl

/-- What a step does to the stored number. -/
theorem step_authSqnMs (ctx : UeContext) (e : Step) :
    (step ctx e).authSqnMs =
      if resetsContext ctx e then none else (acceptedSqn ctx e).or ctx.authSqnMs := by
  cases e with
  | recv nowMs => exact recvStep_authSqnMs ctx nowMs
  | tickHead nowMs =>
    have haccepted : acceptedSqn ctx (.tickHead nowMs) = none := rfl
    rw [haccepted, Option.none_or]
    simp only [step, tickHead]
    split
    · rename_i hoff
      have hreset : resetsContext ctx (.tickHead nowMs) = false := by simp [resetsContext, hoff]
      rw [hreset]
      rfl
    · rename_i hon
      rw [(mmSmTick_quiet (ranLossRecovery ctx) nowMs).authSqnMs, ranLossRecovery]
      split
      · rename_i hlost
        have hreset : resetsContext ctx (.tickHead nowMs) = true := by
          simpa [resetsContext, hon] using hlost
        rw [hreset]
        rfl
      · rename_i hlost
        have hreset : resetsContext ctx (.tickHead nowMs) = false := by
          simpa [resetsContext, hon] using hlost
        rw [hreset]
        rfl
  | setRadio on =>
    simp only [step, ueEngineSetRadio, resetsContext, acceptedSqn, nasDelivered, Option.bind_none,
      Option.none_or]
    cases on with
    | false => rfl
    | true =>
      obtain ⟨ran, hstart⟩ := radioOnStart_frame ctx
      simp only [if_true, true_and, hstart, Bool.not_true, Bool.false_or]
      cases ctx.radioOn with
      | true =>
        simp only [if_true, Bool.not_true, Bool.false_eq_true, if_false, noteChanges]
        split
        · rfl
        · rfl
      | false =>
        simp only [Bool.false_eq_true, if_false, Bool.not_false, if_true, noteChanges]
        split
        · rfl
        · rfl
  | tickTail nowMs => exact (tickTail_quiet ctx nowMs).authSqnMs
  | requestImsPdu => exact (ueEngineRequestImsPdu_quiet ctx).authSqnMs
  | requestRegister => rfl
  | requestPeriodicUpdate => rfl
  | requestMobilityUpdate => rfl
  | requestConnect dnn => rfl
  | requestDisconnect => rfl
  | rx nowMs dgrams recvError => rfl
  | os answers => rfl

theorem acceptedChallenge_not_behind {ctx : UeContext} {ev : UeNasEvent} {ch : AuthChallenge}
    (h : acceptedChallenge ctx ev = some ch) : sqnBehind ctx.authSqnMs ch.sqn = false := by
  unfold acceptedChallenge at h
  split at h
  · split at h
    · rename_i hverdict
      cases h
      unfold authVerdict at hverdict
      split at hverdict
      · cases hverdict
      split at hverdict
      · cases hverdict
      · rename_i hbehind
        exact Bool.not_eq_true _ ▸ hbehind
    · cases h
  · cases h

/-- A step accepts no number behind the stored one. -/
theorem acceptedSqn_not_behind {ctx : UeContext} {e : Step} {sqn : Vector UInt8 6}
    (h : acceptedSqn ctx e = some sqn) : sqnBehind ctx.authSqnMs sqn = false := by
  simp only [acceptedSqn, Option.bind_eq_some_iff] at h
  obtain ⟨pdu, -, r, hunwrap, ev, -, h⟩ := h
  obtain ⟨_, _, _, _, hr⟩ := unwrapNas_frame hunwrap
  split at h
  · obtain ⟨ch, hch, rfl⟩ := Option.map_eq_some_iff.mp h
    have hbehind := acceptedChallenge_not_behind hch
    rw [hr] at hbehind
    exact hbehind
  · cases h

theorem akaStep_tracked (s : UeContext × List (Vector UInt8 6)) (e : Step) (h : SqnTracked s) :
    SqnTracked (akaStep s e) := by
  unfold akaStep SqnTracked
  dsimp only
  rw [step_authSqnMs]
  cases resetsContext s.1 e with
  | true => exact ⟨rfl, List.Pairwise.nil⟩
  | false =>
    simp only [Bool.false_eq_true, if_false]
    cases hsqn : acceptedSqn s.1 e with
    | none => exact h
    | some sqn =>
      refine ⟨rfl, List.Pairwise.cons ?_ h.2⟩
      exact (h.behind_iff sqn).mp (acceptedSqn_not_behind hsqn)

/-- A run from `ctx`, of which the stored number is all that is remembered. -/
def akaRun (ctx : UeContext) (es : List Step) : UeContext × List (Vector UInt8 6) :=
  Transition.run akaStep (ctx, ctx.authSqnMs.toList) es

theorem akaRun_tracked (ctx : UeContext) (es : List Step) : SqnTracked (akaRun ctx es) := by
  have hinit : SqnTracked (ctx, ctx.authSqnMs.toList) := by
    unfold SqnTracked
    cases ctx.authSqnMs with
    | none => exact ⟨rfl, List.Pairwise.nil⟩
    | some ms => exact ⟨rfl, List.pairwise_singleton _ _⟩
  exact Transition.run_invariant (G := fun _ _ => True) (fun s e h _ => akaStep_tracked s e h) hinit
    (Transition.along_of_forall (fun _ _ => trivial) _ es)

/-! ## Answers -/

/-- One message is handed to the uplink path, and the transport is used for nothing else. -/
def HandsOver (ctx ctx' : UeContext) (nas : Bytes) : Prop :=
  ∃ sec, ctx'.net = (engineSendNasUplink { ctx.net with nasSec := sec } nas false).1

/-- What a refused challenge leaves alone. -/
def KeepsAuthentication (ctx ctx' : UeContext) : Prop :=
  ctx'.authSqnMs = ctx.authSqnMs ∧ ctx'.regNgksi = ctx.regNgksi ∧
    ctx'.nasSecNonCurrent = ctx.nasSecNonCurrent

/-- `nas` is the answer to a challenge, given the numbers accepted before. -/
structure AkaAnswer (secrets : SimSecrets) (rand autn : Block) (accepted : List (Vector UInt8 6))
    (ctx ctx' : UeContext) (nas : Bytes) : Prop where
  sent : HandsOver ctx ctx' nas
  response : octet nas 2 = nasMsgAuthenticationResponse ∧
      ctx'.authSqnMs = some (recoveredSqn secrets rand autn) ↔
    Genuine secrets rand autn secrets.amf ∧
      ∀ s ∈ accepted, sqnValue s ≤ sqnValue (recoveredSqn secrets rand autn)
  /-- Cause 20. -/
  macFailure : ¬ Genuine secrets rand autn secrets.amf →
    nas = [nasEpd5gmm, nasShtNotProtected, nasMsgAuthenticationFailure, 0x14] ∧
      KeepsAuthentication ctx ctx'
  /-- Cause 21, with the token for a resynchronisation. -/
  synchFailure : Genuine secrets rand autn secrets.amf →
    (∃ s ∈ accepted, sqnValue (recoveredSqn secrets rand autn) < sqnValue s) →
    (∃ auts : Vector UInt8 14, nas = [nasEpd5gmm, nasShtNotProtected, nasMsgAuthenticationFailure,
      0x15, 0x30, 14] ++ auts.toList) ∧ KeepsAuthentication ctx ctx'

/-- The three messages, each of which fits its buffer. -/
theorem sendEncoded_authResponse (net : UeNet) (resStar : Block) :
    sendEncoded net (ueNasEncodeAuthResponse 64 resStar.toList) false =
      (engineSendNasUplink net ([nasEpd5gmm, nasShtNotProtected, nasMsgAuthenticationResponse,
        0x2D, 16] ++ resStar.toList) false).1 := by
  have henc : (ueNasEncodeAuthResponse 64 resStar.toList).pdu? =
      some ([nasEpd5gmm, nasShtNotProtected, nasMsgAuthenticationResponse, 0x2D, 16] ++
        resStar.toList) := by
    simp [ueNasEncodeAuthResponse, Encoded.pdu?, Encoded.done]
  simp only [sendEncoded, henc]

theorem sendEncoded_macFailure (net : UeNet) :
    sendEncoded net (ueNasEncodeAuthFailure 16 0x14 []) false =
      (engineSendNasUplink net [nasEpd5gmm, nasShtNotProtected, nasMsgAuthenticationFailure, 0x14]
        false).1 := rfl

theorem sendEncoded_synchFailure (net : UeNet) (auts : Vector UInt8 14) :
    sendEncoded net (ueNasEncodeAuthFailure 32 0x15 auts.toList) false =
      (engineSendNasUplink net ([nasEpd5gmm, nasShtNotProtected, nasMsgAuthenticationFailure, 0x15,
        0x30, 14] ++ auts.toList) false).1 := by
  have henc : (ueNasEncodeAuthFailure 32 0x15 auts.toList).pdu? =
      some ([nasEpd5gmm, nasShtNotProtected, nasMsgAuthenticationFailure, 0x15, 0x30, 14] ++
        auts.toList) := by
    simp [ueNasEncodeAuthFailure, Encoded.pdu?, Encoded.done]
  simp only [sendEncoded, henc]

theorem autsOf_toList (secrets : SimSecrets) (ch : AuthChallenge) (sqnMs : Vector UInt8 6) :
    ∃ auts : Vector UInt8 14, autsOf secrets ch sqnMs = auts.toList :=
  ⟨⟨(autsOf secrets ch sqnMs).toArray, by simp [autsOf]⟩, by simp⟩

/-- A challenge is answered according to its verdict. -/
theorem onAuthenticationRequest_answer {ctx : UeContext} {ev : UeNasEvent} {secrets : SimSecrets}
    {ch : AuthChallenge} (h : challengeOf ctx.cfg ev = some (secrets, ch)) :
    match authVerdict ctx.authSqnMs ch with
    | .macFailure =>
      HandsOver ctx (onAuthenticationRequest ctx ev)
          [nasEpd5gmm, nasShtNotProtected, nasMsgAuthenticationFailure, 0x14] ∧
        KeepsAuthentication ctx (onAuthenticationRequest ctx ev)
    | .synchFailure =>
      (∃ auts : Vector UInt8 14, HandsOver ctx (onAuthenticationRequest ctx ev)
          ([nasEpd5gmm, nasShtNotProtected, nasMsgAuthenticationFailure, 0x15, 0x30, 14] ++
            auts.toList)) ∧
        KeepsAuthentication ctx (onAuthenticationRequest ctx ev)
    | .accepted =>
      (∃ resStar : Block, HandsOver ctx (onAuthenticationRequest ctx ev)
          ([nasEpd5gmm, nasShtNotProtected, nasMsgAuthenticationResponse, 0x2D, 16] ++
            resStar.toList)) ∧
        (onAuthenticationRequest ctx ev).authSqnMs = some ch.sqn := by
  unfold onAuthenticationRequest
  rw [h]
  dsimp only
  cases authVerdict ctx.authSqnMs ch with
  | macFailure =>
    exact ⟨⟨recordChallenge ctx.net.nasSec ch, sendEncoded_macFailure _⟩, rfl, rfl, rfl⟩
  | synchFailure =>
    obtain ⟨auts, hauts⟩ := autsOf_toList secrets ch (ctx.authSqnMs.getD (Vector.replicate 6 0))
    refine ⟨⟨auts, recordChallenge ctx.net.nasSec ch, ?_⟩, rfl, rfl, rfl⟩
    dsimp only
    rw [hauts]
    exact sendEncoded_synchFailure _ auts
  | accepted =>
    refine ⟨⟨(authKeys ctx.cfg ch).resStar, acceptedSec ctx ch, ?_⟩, ?_⟩
    · dsimp only
      rw [acceptChallenge_net]
      exact sendEncoded_authResponse _ _
    · simp only [acceptChallenge]

/-- After every run, a challenge is answered with a response, and its number recorded, if and
only if its code is genuine under the configured AMF and no higher number was accepted since
the last reset; a failure is one message with its cause and leaves the stored number, the
advertised ngKSI and the non-current context alone. -/
theorem akaAcceptance (ctx₀ : UeContext) (es : List Step) {ev : UeNasEvent} {rand autn : Block}
    {secrets : SimSecrets} (htype : ev.type = .authenticationRequest)
    (hrand : ev.authRand = some rand) (hautn : ev.authAutn = some autn)
    (hsecrets : simSecrets (akaRun ctx₀ es).1.cfg = some secrets) :
    ∃ nas, AkaAnswer secrets rand autn (akaRun ctx₀ es).2 (akaRun ctx₀ es).1
      (engineProcessNasEvent (akaRun ctx₀ es).1 ev) nas := by
  have htracked := akaRun_tracked ctx₀ es
  generalize akaRun ctx₀ es = s at hsecrets htracked ⊢
  obtain ⟨ctx, accepted⟩ := s
  dsimp only at hsecrets ⊢
  have hchallenge : challengeOf ctx.cfg ev =
      some (secrets, authChallenge secrets rand autn (abbaOf ev)) := by
    simp only [challengeOf, hrand, hautn, hsecrets]
  have hanswer := onAuthenticationRequest_answer hchallenge
  obtain ⟨hsqn, hgenuine⟩ := authChallenge_spec secrets rand autn (abbaOf ev)
  have hbehind := htracked.behind_iff (recoveredSqn secrets rand autn)
  have hprocess : engineProcessNasEvent ctx ev =
      noteChanges ctx (onAuthenticationRequest ctx ev) := by
    simp only [engineProcessNasEvent, dispatchNasEvent, htype]
  have hfailure : nasMsgAuthenticationFailure ≠ nasMsgAuthenticationResponse := by decide
  rw [hprocess]
  unfold authVerdict at hanswer
  rw [hsqn] at hanswer
  by_cases hmac : Genuine secrets rand autn secrets.amf
  · rw [if_neg (not_not_intro (hgenuine.mpr hmac))] at hanswer
    cases hlate : sqnBehind ctx.authSqnMs (recoveredSqn secrets rand autn) with
    | true =>
      rw [hlate, if_pos rfl] at hanswer
      obtain ⟨⟨auts, hsent⟩, hkeep⟩ := hanswer
      refine ⟨_, hsent, ?_, fun h => absurd hmac h, fun _ _ => ⟨⟨auts, rfl⟩, hkeep⟩⟩
      refine iff_of_false (fun h => hfailure h.1) fun h => ?_
      rw [hbehind.mpr h.2] at hlate
      cases hlate
    | false =>
      rw [hlate, if_neg Bool.false_ne_true] at hanswer
      obtain ⟨⟨resStar, hsent⟩, hstored⟩ := hanswer
      have hnone := hbehind.mp hlate
      refine ⟨_, hsent, iff_of_true ⟨rfl, hstored⟩ ⟨hmac, hnone⟩, fun h => absurd hmac h, ?_⟩
      rintro - ⟨s, hs, hlt⟩
      exact absurd (hnone s hs) (Nat.not_le.mpr hlt)
  · rw [if_pos fun h => hmac (hgenuine.mp h)] at hanswer
    obtain ⟨hsent, hkeep⟩ := hanswer
    refine ⟨_, hsent, ?_, fun _ => ⟨rfl, hkeep⟩, fun h => absurd h hmac⟩
    exact iff_of_false (fun h => hfailure h.1) fun h => hmac h.1

theorem akaRun_fst (ctx : UeContext) (es : List Step) : (akaRun ctx es).1 = run ctx es := by
  unfold akaRun
  generalize ctx.authSqnMs.toList = accepted
  induction es generalizing ctx accepted with
  | nil => rfl
  | cons e es ih => exact ih _ _

/-- The challenge of the packaged network, sent again to a UE that has accepted it. -/
theorem akaAcceptance_packaged :
    (akaRun exampleUe (secureRun zeroBlock exampleSqn)).1.authSqnMs = some exampleSqn ∧
      ∃ nas, AkaAnswer exampleSecrets zeroBlock (autnOf exampleSecrets zeroBlock exampleSqn)
        (akaRun exampleUe (secureRun zeroBlock exampleSqn)).2
        (akaRun exampleUe (secureRun zeroBlock exampleSqn)).1
        (engineProcessNasEvent (akaRun exampleUe (secureRun zeroBlock exampleSqn)).1
          firstChallenge) nas := by
  have hend : (akaRun exampleUe (secureRun zeroBlock exampleSqn)).1 = securedUe := akaRun_fst _ _
  have hcfg : simSecrets (akaRun exampleUe (secureRun zeroBlock exampleSqn)).1.cfg =
      some exampleSecrets := by
    rw [hend, securedUe_camped.cfg]
    exact simSecrets_exampleCfg
  refine ⟨?_, akaAcceptance exampleUe (secureRun zeroBlock exampleSqn) rfl rfl rfl hcfg⟩
  rw [hend]
  exact securedUe_authSqnMs

/-- A UE that has accepted a challenge accepts it a second time. -/
theorem firstChallenge_again {ctx : UeContext} (hcfg : ctx.cfg = exampleCfg)
    (hsqn : ctx.authSqnMs = some exampleSqn) :
    ∃ ch, acceptedChallenge ctx firstChallenge = some ch ∧ ch.sqn = exampleSqn := by
  have hchallenge : challengeOf ctx.cfg firstChallenge =
      some (exampleSecrets, genuineChallenge exampleSecrets zeroBlock exampleSqn [0, 0]) := by
    rw [hcfg]
    exact challengeOf_genuine simSecrets_exampleCfg _ _ _
  have hverdict : authVerdict ctx.authSqnMs
      (genuineChallenge exampleSecrets zeroBlock exampleSqn [0, 0]) = .accepted := by
    rw [authVerdict_genuine, hsqn]
    decide
  exact ⟨_, by rw [acceptedChallenge, hchallenge]; exact if_pos hverdict, rfl⟩

/-- The AMF field of AUTN. -/
def autnAmf (autn : Block) : Vector UInt8 2 := vecOf 2 (autn.toList.drop 6)

/-- The AUTN of the packaged network with the separation bit of its AMF cleared, and its code
as it was. -/
def clearedAmfAutn : Block := (autnOf exampleSecrets zeroBlock exampleSqn).setIfInBounds 6 0

/-- Acceptance does not take a number above all accepted ones: equal to the highest is enough.
Nor does it take a code over the AMF that AUTN carries. -/
theorem akaAcceptance_repeats :
    (¬ ∀ ctx ev ch, Reachable ctx → acceptedChallenge ctx ev = some ch →
      ∀ ms, ctx.authSqnMs = some ms → sqnValue ms < sqnValue ch.sqn) ∧
    ¬ ∀ ctx ev ch rand autn secrets, Reachable ctx → ev.authRand = some rand →
      ev.authAutn = some autn → simSecrets ctx.cfg = some secrets →
      acceptedChallenge ctx ev = some ch → Genuine secrets rand autn (autnAmf autn) := by
  refine ⟨fun h => ?_, fun h => ?_⟩
  · obtain ⟨ch, hch, hsqn⟩ := firstChallenge_again securedUe_camped.cfg securedUe_authSqnMs
    have hlt := h securedUe firstChallenge ch securedUe_reachable hch exampleSqn securedUe_authSqnMs
    rw [hsqn] at hlt
    exact Nat.lt_irrefl _ hlt
  · obtain ⟨ch, hch⟩ : ∃ ch,
        acceptedChallenge exampleUe (authEvent 1 zeroBlock clearedAmfAutn) = some ch :=
      Option.isSome_iff_exists.mp (by decide +kernel)
    have hgenuine := h exampleUe _ ch zeroBlock clearedAmfAutn exampleSecrets
      (exampleUe_reachable []) rfl rfl simSecrets_exampleCfg hch
    exact absurd hgenuine (by unfold Genuine; decide +kernel)

end VirtualLte.Engine
