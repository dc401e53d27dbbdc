import VirtualLte.Engine.Uplink

/-!
# Authentication and security mode

The two branches of `engine_process_nas_event` that make and install keys.

* **Authentication Request**: check the challenge with Milenage, derive the key
  hierarchy and answer.  The current context serves as the work area: the
  challenge, the Milenage result and, once accepted, the derived keys are written
  to it, and the new (non-current) context is a copy of it.
* **Security Mode Command**: look the context up by ngKSI, verify the MAC of the
  *cached* header and payload with keys for the selected algorithms, and install
  them.
-/

namespace VirtualLte.Engine

open Crypto Nas Ran Mm Sm Up

/-! ## Configuration strings -/

def hexNibble (c : UInt8) : Option UInt8 :=
  if 0x30 ≤ c ∧ c ≤ 0x39 then some (c - 0x30)
  else if 0x61 ≤ c ∧ c ≤ 0x66 then some (10 + (c - 0x61))
  else if 0x41 ≤ c ∧ c ≤ 0x46 then some (10 + (c - 0x41))
  else none

/-- Exactly `n` octets from the first `2 n` characters. -/
def parseHexBytes : Nat → Bytes → Option Bytes
  | 0, _ => some []
  | n + 1, hi :: lo :: rest =>
    match hexNibble hi, hexNibble lo, parseHexBytes n rest with
    | some h, some l, some bs => some (((h <<< 4) ||| l) :: bs)
    | _, _, _ => none
  | _ + 1, _ => none

/-- The subscriber's K, OPc and AMF. -/
structure SimSecrets where
  k : Block
  opc : Block
  amf : Vector UInt8 2
  deriving DecidableEq, Repr

def simSecrets (cfg : UeInstanceConfig) : Option SimSecrets :=
  match parseHexBytes 16 cfg.sim.key, parseHexBytes 16 cfg.sim.opc,
      parseHexBytes 2 cfg.sim.amf with
  | some k, some opc, some amf => some ⟨vecOf 16 k, vecOf 16 opc, vecOf 2 amf⟩
  | _, _, _ => none

/-- Decimal text, as `%d` prints it. -/
def decimalText (n : Nat) : Bytes := (Nat.toDigits 10 n).map fun c => UInt8.ofNat c.toNat

/-- `atoi` followed by `%03d`. -/
def threeDigits (s : Bytes) : Bytes :=
  let s := s.dropWhile fun c => c = 0x20 || (0x09 ≤ c && c ≤ 0x0D)
  let neg := octet s 0 = 0x2D
  let digits := (if octet s 0 = 0x2D ∨ octet s 0 = 0x2B then s.drop 1 else s).takeWhile
    fun c => 0x30 ≤ c && c ≤ 0x39
  let n := digits.foldl (fun acc c => acc * 10 + (c - 0x30).toNat) 0
  let text := decimalText n
  if neg ∧ n ≠ 0 then 0x2D :: (List.replicate (2 - text.length) 0x30 ++ text)
  else List.replicate (3 - text.length) 0x30 ++ text

def asciiText (s : String) : Bytes := s.toList.map fun c => UInt8.ofNat c.toNat

/-- The serving network name. -/
def servingNetworkName (cfg : UeInstanceConfig) : Bytes :=
  asciiText "5G:mnc" ++ threeDigits cfg.network.mnc ++ asciiText ".mcc" ++
    threeDigits cfg.network.mcc ++ asciiText ".3gppnetwork.org"

/-! ## Authentication Request -/

/-- What a challenge computes to under the subscriber's secrets. -/
structure AuthChallenge where
  rand : Block
  sqnXorAk : Vector UInt8 6
  abba : Bytes
  sqn : Vector UInt8 6
  milenage : UeMilenageResult
  /-- The MAC carried in AUTN. -/
  mac : Vector UInt8 8
  deriving DecidableEq, Repr

/-- The ABBA to use: two zero octets unless one was received. -/
def abbaOf (ev : UeNasEvent) : Bytes :=
  match ev.authAbba with
  | some a => if a.length ≤ 16 then a else [0, 0]
  | none => [0, 0]

/-- The MAC is computed over the configured AMF, not the one in AUTN. -/
def authChallenge (secrets : SimSecrets) (rand autn : Block) (abba : Bytes) : AuthChallenge :=
  let sqnXorAk := vecOf 6 autn.toList
  let first := ueMilenageCompute secrets.opc secrets.k rand (Vector.replicate 6 0) secrets.amf
  let sqn := Vector.zipWith (· ^^^ ·) sqnXorAk first.ak
  { rand, sqnXorAk, abba, sqn
    milenage := ueMilenageCompute secrets.opc secrets.k rand sqn secrets.amf
    mac := vecOf 8 (autn.toList.drop 8) }

/-- The challenge of an event, when it carries RAND and AUTN and the subscriber's
secrets are configured. -/
def challengeOf (cfg : UeInstanceConfig) (ev : UeNasEvent) : Option (SimSecrets × AuthChallenge) :=
  match ev.authRand, ev.authAutn, simSecrets cfg with
  | some rand, some autn, some secrets =>
    some (secrets, authChallenge secrets rand autn (abbaOf ev))
  | _, _, _ => none

/-- `memcmp(a, b) < 0`. -/
def memcmpLt : Bytes → Bytes → Bool
  | a :: as, b :: bs => if a = b then memcmpLt as bs else a < b
  | _, _ => false

/-- Whether the network's sequence number is behind the highest accepted one. -/
def sqnBehind (authSqnMs : Option (Vector UInt8 6)) (sqn : Vector UInt8 6) : Bool :=
  match authSqnMs with
  | some ms => memcmpLt sqn.toList ms.toList
  | none => false

inductive AuthVerdict where
  | macFailure
  | synchFailure
  | accepted
  deriving DecidableEq, Repr

def authVerdict (authSqnMs : Option (Vector UInt8 6)) (ch : AuthChallenge) : AuthVerdict :=
  if ch.milenage.macA ≠ ch.mac then .macFailure
  else if sqnBehind authSqnMs ch.sqn then .synchFailure
  else .accepted

/-- The keys of an accepted challenge, for NIA2 and NEA0. -/
def authKeys (cfg : UeInstanceConfig) (ch : AuthChallenge) : UeNasKeys :=
  ueNasDeriveKeys ch.milenage.ck ch.milenage.ik ch.milenage.ak ch.rand ch.milenage.res ch.sqn
    (servingNetworkName cfg) cfg.sim.imsi ch.abba UeNasIntegrityAlg.nia2.toUInt8
    UeNasCipheringAlg.nea0.toUInt8

/-- AUTS: SQN_MS masked with AK*, and MAC-S over it with a zero AMF. -/
def autsOf (secrets : SimSecrets) (ch : AuthChallenge) (sqnMs : Vector UInt8 6) : Bytes :=
  let rs := ueMilenageCompute secrets.opc secrets.k ch.rand sqnMs (Vector.replicate 2 0)
  (Vector.zipWith (· ^^^ ·) sqnMs rs.akStar).toList ++ rs.macS.toList

/-- The challenge stored in the work area. -/
def recordChallenge (sec : UeNasSecurityCtx) (ch : AuthChallenge) : UeNasSecurityCtx :=
  { sec with
    rand := ch.rand
    sqnXorAk := ch.sqnXorAk
    abba := ch.abba
    milenage := ch.milenage }

/-- The non-current context made of the work area. -/
def newSecurityContext (sec : UeNasSecurityCtx) (ngksi : UInt8) : UeNasSecurityCtx :=
  { sec with
    active := true
    intAlg := .nia2
    encAlg := .nea0
    bearer := 1
    ngksi := ngksi
    ulCount := UeNasCount.zero
    dlCount := UeNasCount.zero }

/-- The keys are derived into the current context, which is then copied. -/
def acceptChallenge (ctx : UeContext) (ev : UeNasEvent) (ch : AuthChallenge) : UeContext :=
  let sec := { ctx.net.nasSec with keys := authKeys ctx.cfg ch }
  let net := { ctx.net with nasSec := sec }
  { ctx with
    authSqnMs := some ch.sqn
    regNgksi := if ev.ngksi.isSome then ev.ngksi else ctx.regNgksi
    nasSecNonCurrent := some (newSecurityContext sec (ev.ngksi.getD 0))
    net := sendEncoded net (ueNasEncodeAuthResponse 64 sec.keys.resStar.toList) false }

def onAuthenticationRequest (ctx : UeContext) (ev : UeNasEvent) : UeContext :=
  match challengeOf ctx.cfg ev with
  | none => ctx
  | some (secrets, ch) =>
    let ctx := { ctx with net := { ctx.net with nasSec := recordChallenge ctx.net.nasSec ch } }
    match authVerdict ctx.authSqnMs ch with
    | .macFailure =>
      { ctx with net := sendEncoded ctx.net (ueNasEncodeAuthFailure 16 0x14 []) false }
    | .synchFailure =>
      let auts := autsOf secrets ch (ctx.authSqnMs.getD (Vector.replicate 6 0))
      { ctx with net := sendEncoded ctx.net (ueNasEncodeAuthFailure 32 0x15 auts) false }
    | .accepted => acceptChallenge ctx ev ch

/-! ## Registration Request -/

/-- 1 initial, 2 mobility update, 3 periodic update. -/
def engineRegType (mm : UeMmCtx) : UInt8 :=
  if mm.pendingRegType = .initial then 1
  else if mm.pendingRegTrigger = .periodicUpdate then 3
  else 2

def engineRegNgksi (ctx : UeContext) : UInt8 :=
  match ctx.regNgksi with
  | some n => if engineRegType ctx.mm ≠ 1 then n else 7
  | none => 7

/-- The Registration Request of this UE; `initialCleartext` leaves out what may not go
unprotected. -/
def registrationRequest (ctx : UeContext) (initialCleartext : Bool) : Encoded :=
  ueNasEncodeRegistrationRequest 256 ctx.cfg.sim.imsi ctx.cfg.network.mcc ctx.cfg.network.mnc
    ctx.cfg.network.sliceSst (engineRegType ctx.mm)
    (if ctx.guti.length > 0 then some ctx.guti else none) (engineRegNgksi ctx) initialCleartext

/-! ## Security Mode Command -/

/-- Unsupported ciphering algorithms fall back to NEA0. -/
def clampEncAlg (nibble : UInt8) : UeNasCipheringAlg := if nibble = 2 then .nea2 else .nea0

/-- Unsupported integrity algorithms fall back to NIA2; NIA0 is taken as it is. -/
def clampIntAlg (nibble : UInt8) : UeNasIntegrityAlg := if nibble = 0 then .nia0 else .nia2

/-- What a Security Mode Command selects. -/
structure SmcSelection where
  encAlg : UeNasCipheringAlg
  intAlg : UeNasIntegrityAlg
  ngksi : UInt8
  deriving DecidableEq, Repr

def smcSelection (ev : UeNasEvent) : SmcSelection where
  encAlg := (ev.secAlgs.map fun a => clampEncAlg a.1).getD .nea0
  intAlg := (ev.secAlgs.map fun a => clampIntAlg a.2).getD .nia2
  ngksi := ev.ngksi.getD 0

def SmcSelection.algs (sel : SmcSelection) : UInt8 :=
  (sel.encAlg.toUInt8 <<< 4) ||| sel.intAlg.toUInt8

/-- The cached header, when it is one of a new security context. -/
def newCtxHdr (ctx : UeContext) : Option DlSecHdr :=
  ctx.dlSecHdr.filter fun h => h.sht = nasShtIntegrityProtectedNewCtx

def smcFingerprint (h : DlSecHdr) (sel : SmcSelection) : SmcLast :=
  ⟨h.mac, h.sqn, sel.algs, sel.ngksi⟩

/-- The same header and selection as the last accepted command. -/
def smcDuplicate (ctx : UeContext) (sel : SmcSelection) : Bool :=
  match newCtxHdr ctx with
  | some h => ctx.smcLast = some (smcFingerprint h sel)
  | none => false

/-- Where a command's context was found. -/
inductive SmcTarget where
  | current
  | nonCurrent (sec : UeNasSecurityCtx)
  deriving DecidableEq, Repr

def smcTarget (ctx : UeContext) (ngksi : UInt8) : Option SmcTarget :=
  if ctx.net.nasSec.active = true ∧ ctx.net.nasSec.ngksi = ngksi then some .current
  else
    match ctx.nasSecNonCurrent with
    | some sec => if sec.ngksi = ngksi then some (.nonCurrent sec) else none
    | none => none

def SmcTarget.sec (ctx : UeContext) : SmcTarget → UeNasSecurityCtx
  | .current => ctx.net.nasSec
  | .nonCurrent sec => sec

/-- The keys of `base` for the selected algorithms. -/
def smcKeys (base : UeNasSecurityCtx) (sel : SmcSelection) : UeNasKeys :=
  { base.keys with
    knasInt := knasIntOf base.keys.kamf sel.intAlg.toUInt8
    knasEnc := knasEncOf base.keys.kamf sel.encAlg.toUInt8 }

/-- The MAC of the cached payload at COUNT `c` under the selected algorithm. -/
def smcMac (keys : UeNasKeys) (sel : SmcSelection) (c : UeNasCount) (msg : Bytes) : UInt32 :=
  ueNasComputeMac sel.intAlg (ueNasCountValue c) 1 dirDownlink keys.knasInt msg

/-- The COUNT the cached header and payload verify at: the context's overflow first,
overflow zero as a fallback (the flag). -/
def verifySmcNewContextMac (ctx : UeContext) (base : UeNasSecurityCtx) (sel : SmcSelection) :
    Option (UeNasCount × Bool) :=
  match newCtxHdr ctx with
  | none => none
  | some h =>
    let payload := ctx.smcLastPayload
    if payload.length = 0 ∨ payload.length > 256 then none
    else
      let keys := smcKeys base sel
      let c : UeNasCount := ⟨base.dlCount.overflow, h.sqn⟩
      let c0 : UeNasCount := ⟨0, h.sqn⟩
      if smcMac keys sel c (h.sqn :: payload) = h.mac then some (c, false)
      else if smcMac keys sel c0 (h.sqn :: payload) = h.mac then some (c0, true)
      else none

/-- The context a verified command takes into use. -/
def smcInstalled (base : UeNasSecurityCtx) (sel : SmcSelection) (count0 : Bool) :
    UeNasSecurityCtx :=
  { base with
    keys := smcKeys base sel
    intAlg := sel.intAlg
    encAlg := sel.encAlg
    bearer := 1
    ngksi := sel.ngksi
    dlCount := if count0 then UeNasCount.zero else base.dlCount
    active := true }

/-- Log a verification, unless the algorithm verifies nothing. -/
def logVerified (alg : UeNasIntegrityAlg) (v : DlVerified) (trace : List Obs) : List Obs :=
  if alg = .nia0 then trace else .dlVerified v :: trace

/-- Install a verified command's context; one taken from the non-current slot starts
its uplink COUNT at zero. -/
def smcInstall (ctx : UeContext) (target : SmcTarget) (sel : SmcSelection) (c : UeNasCount)
    (count0 : Bool) : UeContext :=
  let base := target.sec ctx
  let sec := smcInstalled base sel count0
  let hdr := (newCtxHdr ctx).getD ⟨0, 0, 0⟩
  let v : DlVerified :=
    ⟨sec.keys.knasInt, c, 1, hdr.mac, hdr.sqn :: ctx.smcLastPayload⟩
  let trace := logVerified sel.intAlg v ctx.net.trace
  match target with
  | .current => { ctx with net := { ctx.net with nasSec := sec, trace } }
  | .nonCurrent _ =>
    { ctx with
      net := { ctx.net with nasSec := { sec with ulCount := UeNasCount.zero }, trace }
      nasSecNonCurrent := none }

/-- Remember the command's fingerprint. -/
def smcRemember (ctx : UeContext) (sel : SmcSelection) : UeContext :=
  match newCtxHdr ctx with
  | some h => { ctx with smcLast := some (smcFingerprint h sel) }
  | none => ctx

/-- Answer with a Security Mode Complete carrying the whole Registration Request. -/
def smcComplete (ctx : UeContext) : UeContext :=
  { ctx with
    net := sendEncoded ctx.net
      (ueNasEncodeSecurityModeComplete 64 (registrationRequest ctx false).pdu?) true }

def onSecurityModeCommand (ctx : UeContext) (ev : UeNasEvent) : UeContext :=
  let sel := smcSelection ev
  match smcTarget ctx sel.ngksi with
  | none => ctx
  | some target =>
    if smcDuplicate ctx sel then smcComplete (smcRemember ctx sel)
    else
      match verifySmcNewContextMac ctx (target.sec ctx) sel with
      | none => ctx
      | some (c, count0) =>
        smcComplete (smcRemember (smcInstall ctx target sel c count0) sel)

end VirtualLte.Engine
