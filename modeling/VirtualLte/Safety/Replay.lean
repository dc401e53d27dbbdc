import VirtualLte.Lib.FreshLog
import VirtualLte.Safety.SecurityMode

/-!
# Replayed downlink messages

A message is verified at a COUNT, and two messages verified under one key should not
share one: else the second may be the first again.

* `ReplayProtected` says that no key verified twice at one COUNT, and that each
  verification was one at its COUNT.
* `acceptedPdus` are the protected messages a run accepts, a repeated command included.
* `DlInv` is the invariant behind it: the key in use has verified nothing above the
  stored COUNT.
* `VerifyGuard` and `InstallGuard` name what keeps it.  The stored COUNT is the one of
  the last message and not the next one, so a message must not repeat its sequence
  number; a command's COUNT is not stored, so the messages after it must be above it; and
  a command that is repeated is answered again.
* `replayProtected` is the result for runs: no COUNT is used twice, and no message
  accepted twice.
-/

namespace VirtualLte.Engine

open Crypto Nas Ran Mm Sm Up
open FreshLog

/-- The messages verified so far, the last one first. -/
def dlLog (trace : List Obs) : List DlVerified :=
  trace.filterMap fun o =>
    match o with
    | .dlVerified v => some v
    | _ => none

/-- The COUNT a message was verified at. -/
def DlVerified.number (v : DlVerified) : Nat := v.count.toNat

/-- The MAC is right at the COUNT of the verification. -/
def DlVerified.Genuine (v : DlVerified) : Prop :=
  v.mac = ueNasComputeMac .nia2 (ueNasCountValue v.count) v.bearer dirDownlink v.knasInt v.msg

/-- No key verified twice at one COUNT, and every verification was genuine. -/
structure ReplayProtected (log : List DlVerified) : Prop where
  fresh : Fresh DlVerified.knasInt DlVerified.number log
  genuine : ∀ v ∈ log, v.Genuine

/-- The sequence number of the last accepted command. -/
def commandNumber (ctx : UeContext) : Nat := (ctx.smcLast.map fun l => l.sqn.toNat).getD 0

/-- The key of `sec` has verified nothing above the stored COUNT and `command`. -/
def KeyBounded (sec : UeNasSecurityCtx) (command : Nat) (log : List DlVerified) : Prop :=
  sec.active = true → sec.intAlg ≠ .nia0 →
    Below DlVerified.knasInt DlVerified.number log sec.keys.knasInt
      (max sec.dlCount.toNat command + 1)

structure DlInv (ctx : UeContext) : Prop where
  replay : ReplayProtected (dlLog ctx.net.trace)
  bounded : KeyBounded ctx.net.nasSec (commandNumber ctx) (dlLog ctx.net.trace)
  /-- NIA1 is never selected. -/
  intAlg : ctx.net.nasSec.intAlg ≠ .nia1
  /-- A context not yet in use starts at COUNT zero. -/
  start : ∀ sec, ctx.nasSecNonCurrent = some sec → sec.dlCount = UeNasCount.zero

/-- A message that is verified under the current context carries another sequence number than
the last one and comes after the last command, and one that wraps the sequence number does
not wrap the overflow.  Its MAC was not right already under another key or at another
COUNT. -/
def VerifyGuard (ctx : UeContext) (pdu : Bytes) : Prop :=
  isProtected pdu = true → octet pdu 1 ≠ nasShtIntegrityProtectedNewCtx →
    ctx.net.nasSec.active = true → ctx.net.nasSec.intAlg ≠ .nia0 →
    macAccepted ctx.net.nasSec (unprotectCount ctx.net.nasSec pdu) pdu = true →
      octet pdu 6 ≠ ctx.net.nasSec.dlCount.sqn ∧
        commandNumber ctx < (dlCountEstimate ctx.net.nasSec.dlCount (octet pdu 6)).toNat ∧
        (octet pdu 6 < ctx.net.nasSec.dlCount.sqn → ctx.net.nasSec.dlCount.overflow ≠ 0xFFFF) ∧
        ∀ v ∈ dlLog ctx.net.trace, v.mac = (secHeaderOf pdu).mac → v.msg = pdu.drop 6 →
          v.knasInt = ctx.net.nasSec.keys.knasInt ∧
            v.number = (unprotectCount ctx.net.nasSec pdu).toNat

/-- An accepted challenge in an active context derives a key that has verified nothing above
what the context stores.  No command repeats the last one.  An accepted command is one for the
context not yet in use, its key has verified nothing, and its MAC was not right already under
another key. -/
structure InstallGuard (ctx : UeContext) (ev : UeNasEvent) : Prop where
  challenge : ev.type = .authenticationRequest → ∀ ch, acceptedChallenge ctx ev = some ch →
    KeyBounded { ctx.net.nasSec with keys := authKeys ctx.cfg ch } (commandNumber ctx)
      (dlLog ctx.net.trace)
  command : ev.type = .securityModeCommand → ∀ target,
    smcTarget ctx (smcSelection ev).ngksi = some target →
    smcDuplicate ctx (smcSelection ev) = false ∧
      ((verifySmcNewContextMac ctx (target.sec ctx) (smcSelection ev)).isSome = true →
        target ≠ .current ∧
          ((smcSelection ev).intAlg ≠ .nia0 → ∀ v ∈ dlLog ctx.net.trace,
            v.knasInt ≠ (smcKeys (target.sec ctx) (smcSelection ev)).knasInt ∧
              ∀ hdr, newCtxHdr ctx = some hdr → v.mac = hdr.mac →
                v.msg ≠ hdr.sqn :: ctx.smcLastPayload))

/-- A command is taken for verified: it repeats the last one, or has a right MAC. -/
def acceptsCommand (ctx : UeContext) (sel : SmcSelection) : Bool :=
  sel.intAlg ≠ .nia0 &&
    (smcTarget ctx sel.ngksi).any fun target =>
      smcDuplicate ctx sel || (verifySmcNewContextMac ctx (target.sec ctx) sel).isSome

/-- A protected message is taken for verified, under the current context or as a Security
Mode Command. -/
def accepts (ctx : UeContext) (pdu : Bytes) : Bool :=
  isProtected pdu &&
    (unwrapNas ctx pdu).any fun r =>
      if octet pdu 1 = nasShtIntegrityProtectedNewCtx then
        (smcIn r.2).any fun ev => acceptsCommand r.1 (smcSelection ev)
      else ctx.net.nasSec.intAlg ≠ .nia0

/-- The protected messages that a run accepts. -/
def acceptedPdus : UeContext → List Step → List Bytes
  | _, [] => []
  | ctx, e :: es =>
    ((nasDelivered ctx e).filter (accepts ctx)).toList ++ acceptedPdus (step ctx e) es

/-! ## One step -/

theorem dlLog_logVerified (alg : UeNasIntegrityAlg) (v : DlVerified) (trace : List Obs) :
    dlLog (logVerified alg v trace) = if alg = .nia0 then dlLog trace else v :: dlLog trace := by
  unfold logVerified
  split
  · rfl
  · rfl

/-- Sending adds nothing to the messages verified. -/
theorem dlLog_sent {net net' : UeNet} (h : SentFrom net net') :
    dlLog net'.trace = dlLog net.trace := by
  refine h.invariant (I := fun n => dlLog n.trace = dlLog net.trace) ?_ rfl
  intro a b hstep ha
  cases hstep with
  | transport rs => exact ha
  | protect hact => exact ha
  | @request o ho =>
    cases o with
    | estRequest sent => exact ha
    | regRequest attemptId => exact ha
    | dlVerified v => cases ho
    | ulProtected p => cases ho

/-- A verification above everything the key has verified. -/
theorem ReplayProtected.cons {log : List DlVerified} (h : ReplayProtected log) {v : DlVerified}
    (hbelow : Below DlVerified.knasInt DlVerified.number log v.knasInt v.number)
    (hgenuine : v.Genuine) : ReplayProtected (v :: log) where
  fresh := h.fresh.cons hbelow
  genuine := by
    intro w hw
    cases hw with
    | head => exact hgenuine
    | tail _ hw => exact h.genuine w hw

/-- The uplink COUNT and the record of a challenge do not matter. -/
theorem KeyBounded.congr {a b : UeNasSecurityCtx} {command : Nat} {log : List DlVerified}
    (h : KeyBounded a command log) (hact : b.active = a.active) (hint : b.intAlg = a.intAlg)
    (hkey : b.keys.knasInt = a.keys.knasInt) (hdl : b.dlCount = a.dlCount) :
    KeyBounded b command log := by
  unfold KeyBounded
  rw [hact, hint, hkey, hdl]
  exact h

theorem dlInv_sent {ctx ctx' : UeContext} {sec : UeNasSecurityCtx}
    (hsent : SentFrom { ctx.net with nasSec := sec } ctx'.net)
    (hreplay : ReplayProtected (dlLog ctx.net.trace))
    (hbounded : KeyBounded sec (commandNumber ctx') (dlLog ctx.net.trace))
    (hint : sec.intAlg ≠ .nia1)
    (hstart : ∀ s, ctx'.nasSecNonCurrent = some s → s.dlCount = UeNasCount.zero) :
    DlInv ctx' := by
  obtain ⟨ul, hul⟩ := hsent.nasSec
  have hlog := dlLog_sent hsent
  dsimp only at hlog
  refine ⟨?_, ?_, ?_, hstart⟩
  · rw [hlog]
    exact hreplay
  · rw [hlog, hul]
    exact hbounded.congr rfl rfl rfl rfl
  · rw [hul]
    exact hint

/-- A verified message: the estimate lies above the stored COUNT, and is stored. -/
theorem dlInv_verified {ctx : UeContext} (h : DlInv ctx) {pdu : Bytes}
    (hguard : VerifyGuard ctx pdu) (hprot : isProtected pdu = true)
    (hsht : octet pdu 1 ≠ nasShtIntegrityProtectedNewCtx) (hact : ctx.net.nasSec.active = true)
    (hmac : macAccepted ctx.net.nasSec (unprotectCount ctx.net.nasSec pdu) pdu = true) :
    DlInv (verifiedAt ctx (unprotectCount ctx.net.nasSec pdu) pdu) := by
  have hlog : dlLog (verifiedAt ctx (unprotectCount ctx.net.nasSec pdu) pdu).net.trace = _ :=
    dlLog_logVerified _ _ _
  by_cases hnull : ctx.net.nasSec.intAlg = .nia0
  · rw [if_pos hnull] at hlog
    refine ⟨?_, fun _ hne => absurd hnull hne, h.intAlg, h.start⟩
    rw [hlog]
    exact h.replay
  · rw [if_neg hnull] at hlog
    obtain ⟨hne, hcommand, hwrap, -⟩ := hguard hprot hsht hact hnull hmac
    have hlt := lt_dlCountEstimate hne hwrap
    have hbelow := (h.bounded hact hnull).mono (Nat.succ_le_of_lt (Nat.max_lt.mpr ⟨hlt, hcommand⟩))
    have hgenuine : (secHeaderOf pdu).mac = ueNasComputeMac .nia2
        (ueNasCountValue (unprotectCount ctx.net.nasSec pdu)) ctx.net.nasSec.bearer dirDownlink
        ctx.net.nasSec.keys.knasInt (pdu.drop 6) := by
      have hnia2 : ctx.net.nasSec.intAlg = .nia2 := by
        cases halg : ctx.net.nasSec.intAlg with
        | nia0 => exact absurd halg hnull
        | nia1 => exact absurd halg h.intAlg
        | nia2 => rfl
      simpa [macAccepted, hnia2] using hmac
    refine ⟨?_, ?_, h.intAlg, h.start⟩
    · rw [hlog]
      exact h.replay.cons hbelow hgenuine
    · intro _ _
      rw [hlog]
      have hroom := Nat.lt_succ_of_le (Nat.le_max_left
        (unprotectCount ctx.net.nasSec pdu).toNat (commandNumber ctx))
      exact (hbelow.mono (Nat.le_of_lt hroom)).cons fun _ => hroom

/-- A command that is taken into use is logged. -/
theorem dlLog_smcInstall {ctx : UeContext} {hdr : DlSecHdr} (hhdr : newCtxHdr ctx = some hdr)
    (target : SmcTarget) (sel : SmcSelection) (c : UeNasCount) (count0 : Bool) :
    dlLog (smcInstall ctx target sel c count0).net.trace =
      if sel.intAlg = .nia0 then dlLog ctx.net.trace
      else ⟨(smcKeys (target.sec ctx) sel).knasInt, c, 1, hdr.mac, hdr.sqn :: ctx.smcLastPayload⟩ ::
        dlLog ctx.net.trace := by
  cases target <;> simp only [smcInstall, hhdr, Option.getD_some] <;>
    exact dlLog_logVerified _ _ _

/-- What a verified command for the context not yet in use leaves behind. -/
structure TakenInto (sel : SmcSelection) (hdr : DlSecHdr) (ctx' : UeContext) : Prop where
  replay : ReplayProtected (dlLog ctx'.net.trace)
  bounded : KeyBounded ctx'.net.nasSec hdr.sqn.toNat (dlLog ctx'.net.trace)
  intAlg : ctx'.net.nasSec.intAlg = sel.intAlg
  start : ctx'.nasSecNonCurrent = none

/-- A command for the context not yet in use, verified under an unused key. -/
theorem smcInstall_takenInto {ctx : UeContext} (h : DlInv ctx) {sec : UeNasSecurityCtx}
    {sel : SmcSelection} {c : UeNasCount} {count0 : Bool} {hdr : DlSecHdr}
    (hnon : ctx.nasSecNonCurrent = some sec) (halg : sel.intAlg = .nia0 ∨ sel.intAlg = .nia2)
    (hhdr : newCtxHdr ctx = some hdr)
    (hverify : verifySmcNewContextMac ctx sec sel = some (c, count0))
    (hunused : sel.intAlg ≠ .nia0 → ∀ v ∈ dlLog ctx.net.trace,
      v.knasInt ≠ (smcKeys sec sel).knasInt) :
    TakenInto sel hdr (smcInstall ctx (.nonCurrent sec) sel c count0) := by
  obtain ⟨hdr', hhdr', -, -, hcount, hmac⟩ := verifySmcNewContextMac_some hverify
  rw [hhdr] at hhdr'
  cases hhdr'
  have hlog := dlLog_smcInstall hhdr (.nonCurrent sec) sel c count0
  dsimp only [SmcTarget.sec] at hlog
  rcases halg with hnull | hnia2
  · rw [if_pos hnull] at hlog
    refine ⟨?_, fun _ hne => absurd hnull hne, rfl, rfl⟩
    rw [hlog]
    exact h.replay
  · have hne : sel.intAlg ≠ .nia0 := by
      rw [hnia2]
      decide
    rw [if_neg hne] at hlog
    have hbelow : ∀ n, Below DlVerified.knasInt DlVerified.number (dlLog ctx.net.trace)
        (smcKeys sec sel).knasInt n := fun n v hv hkey => absurd hkey (hunused hne v hv)
    have hnumber : c.toNat = hdr.sqn.toNat := by
      have hoverflow : (if count0 then 0 else sec.dlCount.overflow) = 0 := by
        rw [h.start sec hnon]
        cases count0 with
        | true => rfl
        | false => rfl
      rw [hcount, hoverflow]
      simp [UeNasCount.toNat]
    refine ⟨?_, ?_, rfl, rfl⟩
    · rw [hlog]
      refine h.replay.cons (hbelow _) ?_
      rw [DlVerified.Genuine, ← hmac, smcMac, hnia2]
    · intro _ _
      rw [hlog]
      refine (hbelow _).cons fun _ => Nat.lt_succ_of_le ?_
      exact Nat.le_trans (Nat.le_of_eq hnumber) (Nat.le_max_right _ _)

/-- A remembered command has the number of its header. -/
theorem commandNumber_smcRemember {ctx : UeContext} {hdr : DlSecHdr} (sel : SmcSelection)
    (hhdr : newCtxHdr ctx = some hdr) : commandNumber (smcRemember ctx sel) = hdr.sqn.toNat := by
  unfold smcRemember
  rw [hhdr]
  rfl

/-- A command answered again is the one remembered already. -/
theorem smcRemember_of_duplicate {ctx : UeContext} {sel : SmcSelection}
    (h : smcDuplicate ctx sel = true) : smcRemember ctx sel = ctx := by
  unfold smcDuplicate at h
  unfold smcRemember
  cases hhdr : newCtxHdr ctx with
  | none => rfl
  | some hdr =>
    rw [hhdr] at h
    have hlast : ctx.smcLast = some (smcFingerprint hdr sel) := by simpa using h
    simp only [← hlast]

/-- The command number is that of the remembered command. -/
theorem commandNumber_congr {a b : UeContext} (h : b.smcLast = a.smcLast) :
    commandNumber b = commandNumber a := by
  rw [commandNumber, commandNumber, h]

theorem dlInv_unwrapped {ctx c : UeContext} {pdu plain : Bytes} (h : DlInv ctx)
    (hguard : VerifyGuard ctx pdu) (hunwrap : Unwrapped ctx pdu c plain) : DlInv c := by
  cases hunwrap with
  | plain hprot heq hplain =>
    rw [heq]
    exact h
  | newCtx hprot hsht hlen heq hplain =>
    rw [heq]
    exact ⟨h.replay, h.bounded, h.intAlg, h.start⟩
  | verified hprot hsht hact hmac heq =>
    have hinv := dlInv_verified h hguard hprot hsht hact hmac
    rw [heq]
    exact ⟨hinv.replay, hinv.bounded, hinv.intAlg, hinv.start⟩

theorem dlInv_challenge {ctx ctx' : UeContext} {ev : UeNasEvent} (h : DlInv ctx)
    (hguard : InstallGuard ctx ev) (htype : ev.type = .authenticationRequest)
    (houtcome : AuthOutcome ctx ev ctx') : DlInv ctx' := by
  cases houtcome with
  | ignored hnone heq =>
    rw [heq]
    exact h
  | refused ch hnone hsent hnon hlast =>
    exact dlInv_sent hsent h.replay
      (by rw [commandNumber_congr hlast]; exact h.bounded.congr rfl rfl rfl rfl) h.intAlg
      (by rw [hnon]; exact h.start)
  | accepted ch hsome hsent hnon hlast =>
    have hkey := hguard.challenge htype ch hsome
    refine dlInv_sent hsent h.replay
      (by rw [commandNumber_congr hlast]; exact hkey.congr rfl rfl rfl rfl) h.intAlg ?_
    intro s hs
    rw [hnon] at hs
    cases hs
    rfl

/-- The context not yet in use is taken into use, and the command is answered. -/
theorem dlInv_installed {ctx : UeContext} {sec : UeNasSecurityCtx} {ev : UeNasEvent}
    {c : UeNasCount} {count0 : Bool} (h : DlInv ctx) (hnon : ctx.nasSecNonCurrent = some sec)
    (hverify : verifySmcNewContextMac ctx sec (smcSelection ev) = some (c, count0))
    (hunused : (smcSelection ev).intAlg ≠ .nia0 → ∀ v ∈ dlLog ctx.net.trace,
      v.knasInt ≠ (smcKeys sec (smcSelection ev)).knasInt) :
    DlInv (smcComplete (smcRemember
      (smcInstall ctx (.nonCurrent sec) (smcSelection ev) c count0) (smcSelection ev))) := by
  obtain ⟨hdr, hhdr, -⟩ := verifySmcNewContextMac_some hverify
  have halg := smcSelection_intAlg ev
  have htaken := smcInstall_takenInto h hnon halg hhdr hverify hunused
  have hnumber := @commandNumber_smcRemember
    (smcInstall ctx (.nonCurrent sec) (smcSelection ev) c count0) hdr (smcSelection ev) hhdr
  obtain ⟨last, hlast⟩ := smcRemember_frame
    (smcInstall ctx (.nonCurrent sec) (smcSelection ev) c count0) (smcSelection ev)
  have hint : (smcSelection ev).intAlg ≠ .nia1 := by
    rcases halg with halg | halg
    · rw [halg]
      exact nofun
    · rw [halg]
      exact nofun
  refine dlInv_sent (smcComplete_sent _ _) htaken.replay ?_ (by rw [htaken.intAlg]; exact hint) ?_
  · have hanswered : commandNumber (smcComplete (smcRemember
        (smcInstall ctx (.nonCurrent sec) (smcSelection ev) c count0) (smcSelection ev))) =
          hdr.sqn.toNat := hnumber
    rw [hanswered]
    exact htaken.bounded
  · intro s hs
    rw [hlast] at hs
    exact absurd (htaken.start.symm.trans hs) nofun

theorem dlInv_command {ctx ctx' : UeContext} {ev : UeNasEvent} (h : DlInv ctx)
    (hguard : InstallGuard ctx ev) (htype : ev.type = .securityModeCommand)
    (houtcome : SmcOutcome ctx (smcSelection ev) ctx') : DlInv ctx' := by
  cases houtcome with
  | refused heq =>
    rw [heq]
    exact h
  | repeated hdup heq =>
    have hsent := smcComplete_sent ctx (smcSelection ev)
    rw [heq]
    rw [smcRemember_of_duplicate hdup] at hsent ⊢
    exact dlInv_sent hsent h.replay h.bounded h.intAlg h.start
  | installed target c count0 htarget hdup hverify heq =>
    obtain ⟨hother, hunused⟩ :=
      (hguard.command htype target htarget).2 (by rw [hverify]; rfl)
    rw [heq]
    cases target with
    | current => exact absurd rfl hother
    | nonCurrent sec =>
      exact dlInv_installed h (smcTarget_nonCurrent htarget) hverify
        fun hne v hv => (hunused hne v hv).1

theorem dlInv_invariant : SecurityInvariant DlInv VerifyGuard InstallGuard where
  quiet := by
    intro a b hquiet h
    exact dlInv_sent hquiet.sent h.replay
      (by rw [commandNumber_congr hquiet.smcLast]; exact h.bounded) h.intAlg
      (by rw [hquiet.nonCurrent]; exact h.start)
  clear := fun h => ⟨h.replay, nofun, nofun, nofun⟩
  unwrapped := dlInv_unwrapped
  challenge := dlInv_challenge
  command := dlInv_command
  unwrap_receiving := fun _ _ hguard => hguard
  handle_receiving := by
    intro ctx ev ran count hguard
    refine ⟨hguard.challenge, ?_⟩
    intro htype target htarget
    cases target with
    | current => exact hguard.command htype .current htarget
    | nonCurrent sec => exact hguard.command htype (.nonCurrent sec) htarget

/-! ## Accepted messages -/

/-- A message with these octets was verified. -/
def Logged (ctx : UeContext) (pdu : Bytes) : Prop :=
  ∃ v ∈ dlLog ctx.net.trace, v.mac = (secHeaderOf pdu).mac ∧ v.msg = pdu.drop 6

/-- Nothing that was verified is forgotten. -/
theorem dlLog_grows (v : DlVerified) :
    SecurityInvariant (fun ctx => v ∈ dlLog ctx.net.trace) (fun _ _ => True) (fun _ _ => True) where
  quiet := fun hquiet h => dlLog_sent hquiet.sent ▸ h
  clear := id
  unwrapped := by
    intro ctx c pdu plain h _ hunwrap
    cases hunwrap with
    | plain hprot heq hplain => exact heq ▸ h
    | newCtx hprot hsht hlen heq hplain => exact heq ▸ h
    | verified hprot hsht hact hmac heq =>
      rw [heq]
      refine (dlLog_logVerified _ _ _).symm ▸ ?_
      split
      · exact h
      · exact List.mem_cons_of_mem _ h
  challenge := by
    intro ctx ctx' ev h _ _ houtcome
    cases houtcome with
    | ignored hnone heq => exact heq ▸ h
    | refused ch hnone hsent hnon hlast => exact dlLog_sent hsent ▸ h
    | accepted ch hsome hsent hnon hlast => exact dlLog_sent hsent ▸ h
  command := by
    intro ctx ctx' ev h _ _ houtcome
    cases houtcome with
    | refused heq => exact heq ▸ h
    | repeated hdup heq => exact heq ▸ dlLog_sent (smcComplete_sent ctx _) ▸ h
    | installed target c count0 htarget hdup hverify heq =>
      obtain ⟨hdr, hhdr, -⟩ := verifySmcNewContextMac_some hverify
      rw [heq, dlLog_sent (smcComplete_sent _ _), dlLog_smcInstall hhdr]
      split
      · exact h
      · exact List.mem_cons_of_mem _ h
  unwrap_receiving := fun _ _ _ => trivial
  handle_receiving := fun _ _ _ => trivial

theorem Logged.step {ctx : UeContext} {pdu : Bytes} (h : Logged ctx pdu) (e : Step) :
    Logged (step ctx e) pdu := by
  obtain ⟨v, hv, hsame⟩ := h
  exact ⟨v, (dlLog_grows v).step ctx e hv fun _ _ => ⟨trivial, fun _ _ _ _ _ => trivial⟩, hsame⟩

/-- How a message is accepted. -/
inductive Accepted (ctx : UeContext) (pdu : Bytes) : Prop
  | verified (c : UeContext) (plain : Bytes) (hunwrap : unwrapNas ctx pdu = some (c, plain))
      (hprot : isProtected pdu = true) (hsht : octet pdu 1 ≠ nasShtIntegrityProtectedNewCtx)
      (hnull : ctx.net.nasSec.intAlg ≠ .nia0)
  | command (c : UeContext) (plain : Bytes) (ev : UeNasEvent) (target : SmcTarget)
      (hunwrap : unwrapNas ctx pdu = some (c, plain)) (hprot : isProtected pdu = true)
      (hsht : octet pdu 1 = nasShtIntegrityProtectedNewCtx) (hev : smcIn plain = some ev)
      (hnull : (smcSelection ev).intAlg ≠ .nia0)
      (htarget : smcTarget c (smcSelection ev).ngksi = some target)
      (hok : smcDuplicate c (smcSelection ev) = true ∨
        (verifySmcNewContextMac c (target.sec c) (smcSelection ev)).isSome = true)

theorem accepted_of_accepts {ctx : UeContext} {pdu : Bytes} (h : accepts ctx pdu = true) :
    Accepted ctx pdu := by
  simp only [accepts, Bool.and_eq_true, Option.any_eq_true] at h
  obtain ⟨hprot, ⟨c, plain⟩, hunwrap, hok⟩ := h
  split at hok
  · rename_i hsht
    obtain ⟨ev, hev, hok⟩ := (Option.any_eq_true _ _).mp hok
    simp only [acceptsCommand, Bool.and_eq_true, Option.any_eq_true, Bool.or_eq_true,
      decide_eq_true_eq] at hok
    obtain ⟨hnull, target, htarget, hok⟩ := hok
    exact .command c plain ev target hunwrap hprot hsht hev hnull htarget hok
  · rename_i hsht
    exact .verified c plain hunwrap hprot hsht (of_decide_eq_true hok)

section Message

variable {ctx : UeContext} {pdu : Bytes} (hguard : MessageGuard VerifyGuard InstallGuard ctx pdu)
include hguard

/-- What was verified once is not accepted again. -/
theorem Accepted.not_logged (h : Accepted ctx pdu) (hinv : DlInv ctx) : ¬ Logged ctx pdu := by
  rintro ⟨v, hv, hmac, hmsg⟩
  cases h with
  | verified c plain hunwrap hprot hsht hnull =>
    cases unwrapNas_cases hunwrap with
    | plain hprot' _ _ => rw [hprot] at hprot'; cases hprot'
    | newCtx _ hsht' _ _ _ => exact hsht hsht'
    | verified _ _ hact hmacok _ =>
      obtain ⟨hne, hcommand, hwrap, hcollide⟩ := hguard.1 hprot hsht hact hnull hmacok
      obtain ⟨hkey, hnumber⟩ := hcollide v hv hmac hmsg
      -- the key has verified nothing from this COUNT on
      have hlt := hinv.bounded hact hnull v hv hkey
      have hup : _ < (unprotectCount ctx.net.nasSec pdu).toNat := lt_dlCountEstimate hne hwrap
      have hafter : _ < (unprotectCount ctx.net.nasSec pdu).toNat := hcommand
      omega
  | command c plain ev target hunwrap hprot hsht hev hnull htarget hok =>
    obtain ⟨hdecode, htype⟩ := smcIn_some hev
    obtain ⟨hdup, hinstall⟩ := (hguard.2 c plain ev hunwrap hdecode).command htype target htarget
    have hverify := hok.resolve_left (by rw [hdup]; exact Bool.false_ne_true)
    cases unwrapNas_cases hunwrap with
    | plain hprot' _ _ => rw [hprot] at hprot'; cases hprot'
    | verified _ hsht' _ _ _ => exact hsht' hsht
    | newCtx _ _ hlen heq _ =>
      obtain ⟨⟨count, count0⟩, hcount⟩ := Option.isSome_iff_exists.mp hverify
      obtain ⟨hdr, hhdr, hpos, -⟩ := verifySmcNewContextMac_some hcount
      have hlog : v ∈ dlLog c.net.trace := heq ▸ hv
      refine ((hinstall hverify).2 hnull v hlog).2 _ (newCtxHdr_own hsht heq) hmac ?_
      rw [heq] at hpos ⊢
      exact hmsg.trans (cachedPayload_own hlen hpos).symm

/-- What is accepted is verified. -/
theorem Accepted.logged (h : Accepted ctx pdu) : Logged (decodeAndProcessNas ctx pdu) pdu := by
  cases h with
  | verified c plain hunwrap hprot hsht hnull =>
    cases unwrapNas_cases hunwrap with
    | plain hprot' _ _ => rw [hprot] at hprot'; cases hprot'
    | newCtx _ hsht' _ _ _ => exact absurd hsht' hsht
    | verified _ _ hact hmacok heq =>
      have hlog : ∃ v, dlLog c.net.trace = v :: dlLog ctx.net.trace ∧
          v.mac = (secHeaderOf pdu).mac ∧ v.msg = pdu.drop 6 := by
        rw [heq]
        exact ⟨_, (dlLog_logVerified _ _ _).trans (if_neg hnull), rfl, rfl⟩
      obtain ⟨v, hlog, hsame⟩ := hlog
      refine ⟨v, ?_, hsame⟩
      unfold decodeAndProcessNas
      rw [hunwrap]
      dsimp only
      split
      · exact hlog ▸ List.mem_cons_self
      · exact (dlLog_grows v).event (hlog ▸ List.mem_cons_self) trivial
  | command c plain ev target hunwrap hprot hsht hev hnull htarget hok =>
    obtain ⟨hdecode, htype⟩ := smcIn_some hev
    obtain ⟨hdup, -⟩ := (hguard.2 c plain ev hunwrap hdecode).command htype target htarget
    have hverify := hok.resolve_left (by rw [hdup]; exact Bool.false_ne_true)
    obtain ⟨⟨count, count0⟩, hcount⟩ := Option.isSome_iff_exists.mp hverify
    obtain ⟨hdr, hhdr, hpos, -⟩ := verifySmcNewContextMac_some hcount
    have hresult : decodeAndProcessNas ctx pdu = noteChanges c (smcComplete (smcRemember
        (smcInstall c target (smcSelection ev) count count0) (smcSelection ev))) := by
      unfold decodeAndProcessNas
      rw [hunwrap]
      simp only [hdecode, engineProcessNasEvent, dispatchNasEvent, htype, onSecurityModeCommand,
        htarget, hdup, hcount, Bool.false_eq_true, if_false]
    have hlog := (dlLog_sent (smcComplete_sent (smcInstall c target (smcSelection ev) count count0)
      (smcSelection ev))).trans ((dlLog_smcInstall hhdr _ _ _ _).trans (if_neg hnull))
    cases unwrapNas_cases hunwrap with
    | plain hprot' _ _ => rw [hprot] at hprot'; cases hprot'
    | verified _ hsht' _ _ _ => exact absurd hsht hsht'
    | newCtx _ _ hlen heq _ =>
      obtain rfl := Option.some.inj (hhdr.symm.trans (newCtxHdr_own hsht heq))
      have hmem := hlog ▸ List.mem_cons_self
      rw [hresult]
      refine ⟨_, hmem, rfl, ?_⟩
      rw [heq] at hpos ⊢
      exact cachedPayload_own hlen hpos

end Message

theorem accepts_receiving (ctx : UeContext) (ran : UeRanTransportCtx) (count : UInt32)
    (pdu : Bytes) : accepts (receiving ctx ran count) pdu = accepts ctx pdu := by
  have hcommand : ∀ c sel, acceptsCommand (receiving c ran count) sel = acceptsCommand c sel := by
    intro c sel
    unfold acceptsCommand
    have htarget : smcTarget (receiving c ran count) sel.ngksi = smcTarget c sel.ngksi := rfl
    rw [htarget]
    cases smcTarget c sel.ngksi with
    | none => rfl
    | some target => cases target <;> rfl
  unfold accepts
  rw [unwrapNas_receiving]
  cases unwrapNas ctx pdu with
  | none => rfl
  | some r => simp only [Option.map_some, Option.any_some, hcommand]; rfl

/-- A step that accepts a message logs it, and did not have it before. -/
theorem step_accepts {ctx : UeContext} {e : Step} {pdu : Bytes} (hinv : DlInv ctx)
    (hnas : nasDelivered ctx e = some pdu) (hguard : MessageGuard VerifyGuard InstallGuard ctx pdu)
    (h : accepts ctx pdu = true) : ¬ Logged ctx pdu ∧ Logged (step ctx e) pdu := by
  obtain ⟨ran, count, hstep⟩ := step_of_delivered hnas
  refine ⟨(accepted_of_accepts h).not_logged hguard hinv, ?_⟩
  rw [hstep]
  rw [← accepts_receiving ctx ran count] at h
  exact (accepted_of_accepts h).logged (dlInv_invariant.guard_receiving ran count hguard)

/-! ## Whole runs -/

/-- Guarded messages are accepted once, and never after they were verified. -/
theorem acceptedPdus_once {ctx : UeContext} {es : List Step} (hinv : DlInv ctx)
    (hguard : Guarded VerifyGuard InstallGuard ctx es) :
    (acceptedPdus ctx es).Nodup ∧ ∀ pdu ∈ acceptedPdus ctx es, ¬ Logged ctx pdu := by
  induction es generalizing ctx with
  | nil => exact ⟨List.nodup_nil, fun _ h => (by cases h)⟩
  | cons e es ih =>
    obtain ⟨hnow, hlater⟩ := hguard
    obtain ⟨hnodup, hnew⟩ := ih (dlInv_invariant.step ctx e hinv hnow) hlater
    have hrest : ∀ pdu ∈ acceptedPdus (step ctx e) es, ¬ Logged ctx pdu :=
      fun pdu hpdu hlogged => hnew pdu hpdu (hlogged.step e)
    rw [acceptedPdus]
    cases haccepted : (nasDelivered ctx e).filter (accepts ctx) with
    | none => exact ⟨hnodup, hrest⟩
    | some pdu =>
      obtain ⟨hnas, hok⟩ := Option.filter_eq_some_iff.mp haccepted
      obtain ⟨hfirst, hlogged⟩ := step_accepts hinv hnas (hnow pdu hnas) hok
      rw [Option.toList_some, List.singleton_append]
      exact ⟨List.nodup_cons.mpr ⟨fun hmem => hnew pdu hmem hlogged, hnodup⟩,
        List.forall_mem_cons.mpr ⟨hfirst, hrest⟩⟩

theorem dlInv_init (cfg : UeInstanceConfig) (os : OsAnswers) :
    DlInv (ueContextInitFromConfig cfg os) :=
  ⟨⟨fresh_nil, nofun⟩, nofun, nofun, nofun⟩

/-- A run of guarded messages never verifies twice with one key at one COUNT, and accepts no
protected message twice. -/
theorem replayProtected (cfg : UeInstanceConfig) (os : OsAnswers) (es : List Step)
    (hguard : Guarded VerifyGuard InstallGuard (ueContextInitFromConfig cfg os) es) :
    ReplayProtected (dlLog (run (ueContextInitFromConfig cfg os) es).net.trace) ∧
      (acceptedPdus (ueContextInitFromConfig cfg os) es).Nodup :=
  ⟨(dlInv_invariant.run (dlInv_init cfg os) hguard).replay,
    (acceptedPdus_once (dlInv_init cfg os) hguard).1⟩

/-- A first authentication and security mode procedure, and a message with the next sequence
number. -/
theorem dlGuarded_identifiedRun : Guarded VerifyGuard InstallGuard exampleUe identifiedRun := by
  refine guarded_identifiedRun ?_ ?_ ?_ ?_ ?_ ?_
  · intro c pdu hplain hprot
    rw [hplain] at hprot
    cases hprot
  · intro c hc
    refine ⟨?_, nofun⟩
    intro _ ch _ hact
    rw [hc.nasSec] at hact
    cases hact
  · intro c _ _ hsht
    exact absurd rfl hsht
  · intro c hc
    refine ⟨nofun, ?_⟩
    intro _ target htarget
    refine ⟨?_, fun _ => ⟨?_, fun _ => ?_⟩⟩
    · unfold smcDuplicate
      rw [hc.smcLast]
      split <;> rfl
    · rintro rfl
      unfold smcTarget at htarget
      rw [hc.nasSec, hc.nonCurrent] at htarget
      cases htarget
    · rw [hc.trace]
      exact nofun
  · intro c hc _ _ _ _ _
    have hcommand : commandNumber c = 0 := by
      rw [commandNumber, hc.smcLast]
      rfl
    rw [hc.nasSec, hcommand, hc.trace]
    refine ⟨by decide, by decide, fun hlt => absurd hlt (by decide), ?_⟩
    intro v hv _ hmsg
    -- the command is the only message so far
    obtain rfl := List.mem_singleton.mp hv
    exact absurd hmsg (by decide)
  · exact fun c => ⟨nofun, nofun⟩

/-- The command and one message under the first context. -/
theorem replayProtected_identifiedRun :
    (dlLog (run exampleUe identifiedRun).net.trace).length = 2 ∧
      ReplayProtected (dlLog (run exampleUe identifiedRun).net.trace) ∧
      (acceptedPdus exampleUe identifiedRun).Nodup := by
  refine ⟨?_, replayProtected exampleCfg exampleOs identifiedRun dlGuarded_identifiedRun⟩
  rw [camped_identifiedRun.trace]
  rfl

/-- The same Identity Request, delivered twice. -/
def replayRun : List Step :=
  identifiedRun ++ deliver exampleGnb 4 0 (protectedIdentityRequest securedSec 1)

theorem camped_replayRun :
    Camped (run exampleUe replayRun)
      (((securedSide zeroBlock exampleSqn).identified 1).identified 1) :=
  @camped_then_identify _ _ _ camped_identifiedRun 4 rfl rfl rfl 1

theorem dlLog_replayRun :
    ∃ v, dlLog (((securedSide zeroBlock exampleSqn).identified 1).identified 1).trace =
      [identityVerified securedSec 1, identityVerified securedSec 1, v] :=
  ⟨_, rfl⟩

/-- A message delivered twice in a row is verified twice, at the same COUNT. -/
theorem replayProtected_fails :
    ¬ ∀ cfg os es, (dlLog (run (ueContextInitFromConfig cfg os) es).net.trace).length < 2 ^ 24 →
      ReplayProtected (dlLog (run (ueContextInitFromConfig cfg os) es).net.trace) ∧
        (acceptedPdus (ueContextInitFromConfig cfg os) es).Nodup := by
  intro h
  have htrace : (run (ueContextInitFromConfig exampleCfg exampleOs) replayRun).net.trace =
      (((securedSide zeroBlock exampleSqn).identified 1).identified 1).trace :=
    camped_replayRun.trace
  obtain ⟨v, hlog⟩ := dlLog_replayRun
  have hreplay := h exampleCfg exampleOs replayRun
  rw [htrace, hlog] at hreplay
  have hfresh := (hreplay (show 3 < 2 ^ 24 by decide)).1.fresh
  exact List.rel_of_pairwise_cons hfresh (List.mem_cons_self ..) rfl rfl

end VirtualLte.Engine
