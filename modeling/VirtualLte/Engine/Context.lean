import VirtualLte.Nas.Encode
import VirtualLte.Rrc
import VirtualLte.Up

/-!
# The engine's context

`ue_context.h`: the state of one UE.

* `UeNet` is what the engine and the network adapter share: the security context
  and the transport.  Every uplink message goes through it.
* A value with a separate validity flag is one `Option` field.
* `trace` is a log for specifications: which messages were protected or verified
  under which key and COUNT, and which requests were sent.  No function reads it.
-/

namespace VirtualLte.Engine

open Crypto Nas Ran Mm Sm Up

/-! ## Configuration -/

structure UeSimProfile where
  simPresent : Bool
  imsi : Bytes
  key : Bytes
  opc : Bytes
  amf : Bytes
  deriving DecidableEq, Repr

structure UeNetworkProfile where
  mcc : Bytes
  mnc : Bytes
  dnn : Bytes
  pduType : Bytes
  sliceSst : UInt8
  deriving DecidableEq, Repr

structure UeRanConfig where
  gnbAddress : Bytes
  gnbPort : UInt16
  deriving DecidableEq, Repr

structure UeInstanceConfig where
  sim : UeSimProfile
  network : UeNetworkProfile
  ran : UeRanConfig
  deriving DecidableEq, Repr

/-! ## Log -/

/-- A downlink message whose MAC was verified: the key, the COUNT, the bearer, the
received MAC and the octets it covers. -/
structure DlVerified where
  knasInt : Block
  count : UeNasCount
  bearer : UInt8
  mac : UInt32
  msg : Bytes
  deriving DecidableEq, Repr

/-- An uplink message that was protected. -/
structure UlProtected where
  knasInt : Block
  knasEnc : Block
  count : UeNasCount
  deriving DecidableEq, Repr

inductive Obs where
  | dlVerified (v : DlVerified)
  | ulProtected (p : UlProtected)
  /-- The host's establishment request, with the identities of what went out, if it did. -/
  | estRequest (sent : Option (UInt8 × UInt8))
  /-- A registration request handed to the network for an attempt. -/
  | regRequest (attemptId : Nat)
  deriving DecidableEq, Repr

/-! ## Context -/

inductive UeRrcState where
  | idle
  | setupRequested
  | connected
  deriving DecidableEq, Repr

/-- The security context and the transport, behind every uplink message. -/
structure UeNet where
  nasSec : UeNasSecurityCtx
  ran : UeRanTransportCtx
  trace : List Obs := []
  deriving DecidableEq, Repr

/-- The header of the last protected downlink message. -/
structure DlSecHdr where
  sht : UInt8
  mac : UInt32
  sqn : UInt8
  deriving DecidableEq, Repr

/-- The fingerprint of the last Security Mode Command. -/
structure SmcLast where
  mac : UInt32
  sqn : UInt8
  algs : UInt8
  ngksi : UInt8
  deriving DecidableEq, Repr

structure UeContext where
  cfg : UeInstanceConfig
  radioOn : Bool := true
  mm : UeMmCtx
  sm : UeSmCtx
  up : UeUpCtx := {}
  net : UeNet
  rrcState : UeRrcState := .idle
  rrcSetupRequestMs : UInt64 := 0
  rrcSetupCompleteMs : UInt64 := 0
  postSetupPduCount : UInt32 := 0
  waitingCoreResponse : Bool := false
  nasSecNonCurrent : Option UeNasSecurityCtx := none
  dlSecHdr : Option DlSecHdr := none
  smcLast : Option SmcLast := none
  smcLastPayload : Bytes := []
  guti : Bytes := []
  authSqnMs : Option (Vector UInt8 6) := none
  regNgksi : Option UInt8 := none
  t3512Seconds : UInt32 := 0
  imsPduRequested : Bool := false
  imsPduEstablishing : Bool := false
  imsPduActive : Bool := false
  imsPsi : UInt8 := 0
  imsPti : UInt8 := 0
  imsPcscfIpv4 : Option Ipv4 := none
  imsIp : UeEngineRuntimeIp := {}
  changedFlags : UInt32 := 0
  deriving DecidableEq, Repr

/-- The security context of a UE without keys: null algorithms, bearer 1, ngKSI 7. -/
def nasSecNone : UeNasSecurityCtx := { UeNasSecurityCtx.zero with bearer := 1, ngksi := 7 }

def ueEngineChangedMm : UInt32 := 1
def ueEngineChangedSm : UInt32 := 2
def ueEngineChangedDnn : UInt32 := 32

/-- The context of a configured UE, under the answers `os` of the operating system. -/
def ueContextInitFromConfig (cfg : UeInstanceConfig) (os : OsAnswers) : UeContext where
  cfg := cfg
  mm := ueMmInit true cfg.sim.simPresent
  sm := ueSmSetProfile (ueSmInit cfg.network.dnn) cfg.network.dnn cfg.network.pduType
  net :=
    { nasSec := nasSecNone
      ran :=
        if cfg.ran.gnbAddress.length > 0 then
          let port := if cfg.ran.gnbPort ≠ 0 then cfg.ran.gnbPort else 4997
          (ueRanTransportAddGnb (ueRanTransportInit os) cfg.ran.gnbAddress port).getD
            (ueRanTransportInit os)
        else ueRanTransportInit os }
  changedFlags := 0x3F

/-! ## Change flags -/

/-- Raise the MM and SM flags when the visible part of a machine moved. -/
def noteChanges (before after : UeContext) : UeContext :=
  let mmFlag :=
    if before.mm.state ≠ after.mm.state ∨ before.mm.procedure ≠ after.mm.procedure ∨
        before.mm.procStep ≠ after.mm.procStep then ueEngineChangedMm else 0
  let smFlag :=
    if before.sm.state ≠ after.sm.state ∨ before.sm.procedure ≠ after.sm.procedure ∨
        before.sm.procStep ≠ after.sm.procStep then ueEngineChangedSm else 0
  { after with changedFlags := after.changedFlags ||| mmFlag ||| smFlag }

end VirtualLte.Engine
