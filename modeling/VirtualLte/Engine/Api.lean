import VirtualLte.Engine.Tick
import VirtualLte.Lib.Run

/-!
# Requests, and the engine as a machine

The entry points of `ue_engine.c` besides the tick, and the transition system made
of everything that can happen to a context.

A step is a part of a tick, a request of the host, one turn of the receive thread,
or a change in what the operating system answers.  The parts of a tick are steps
of their own, so that the receive thread may act between any two of them;
`engineRealTick_eq_run` says that a tick that is not interrupted is a run of them.
-/

namespace VirtualLte.Engine

open Crypto Nas Ran Mm Sm Up Rrc

/-! ## Radio -/

/-- The transport is started if there is a gNB to talk to. -/
def radioOnStart (ctx : UeContext) : UeContext :=
  let ctx := if ctx.radioOn then ctx else engineForgetNetworkContext { ctx with radioOn := true }
  if ctx.net.ran.state = .idle ∧ ctx.net.ran.gnbList.length > 0 then
    { ctx with net := { ctx.net with ran := (ueRanTransportStart ctx.net.ran).1 } }
  else ctx

/-- The detach is sent over the link before it is taken down. -/
def sendDetach (ctx : UeContext) : UeContext :=
  if ctx.net.ran.state ≠ .idle ∧ ctx.net.nasSec.active = true ∧ ctx.guti.length > 0 ∧
      (ctx.mm.state = .registeredHome ∨ ctx.sm.state = .active) then
    { ctx with
      net := sendEncoded ctx.net
        (ueNasEncodeDeregistrationRequest 80 true ctx.guti ctx.net.nasSec.ngksi) false }
  else ctx

/-- The network is told, and then forgotten. -/
def radioOffStop (ctx : UeContext) : UeContext :=
  let ctx := sendDetach { ctx with radioOn := false }
  let ctx :=
    if ctx.net.ran.state ≠ .idle then
      { ctx with net := { ctx.net with ran := ueRanTransportStop ctx.net.ran } }
    else ctx
  engineForgetNetworkContext ctx

/-- Switching on asks for a registration as well. -/
def ueEngineSetRadio (ctx : UeContext) (on : Bool) : UeContext :=
  let ctx' := if on then radioOnStart ctx else radioOffStop ctx
  let ctx' := { ctx' with mm := ueMmOnRadio ctx'.mm on, sm := ueSmOnRadio ctx'.sm on }
  noteChanges ctx
    (if on = true ∧ ctx'.mm.state = .deregistered then
      { ctx' with mm := ueMmRequestRegister ctx'.mm }
    else ctx')

/-! ## Requests -/

/-- The host asks for a registration. -/
def ueEngineRequestRegister (ctx : UeContext) : UeContext :=
  noteChanges ctx { ctx with mm := ueMmRequestRegister ctx.mm }

/-- A periodic update is asked for. -/
def ueEngineRequestPeriodicUpdate (ctx : UeContext) : UeContext :=
  noteChanges ctx { ctx with mm := ueMmRequestPeriodicUpdate ctx.mm }

/-- A mobility update is asked for. -/
def ueEngineRequestMobilityUpdate (ctx : UeContext) : UeContext :=
  noteChanges ctx { ctx with mm := ueMmRequestMobilityUpdate ctx.mm }

/-- The host asks for its session. -/
def ueEngineRequestConnect (ctx : UeContext) (dnn : Bytes) : UeContext :=
  noteChanges ctx { ctx with
    sm := ueSmRequestConnect ctx.sm dnn
    changedFlags := ctx.changedFlags ||| ueEngineChangedDnn }

/-- The host gives up its session. -/
def ueEngineRequestDisconnect (ctx : UeContext) : UeContext :=
  noteChanges ctx { ctx with sm := ueSmRequestDisconnect ctx.sm }

/-- The first identity from 2 on that neither the host nor another session has. -/
def freePsi (up : UeUpCtx) : Option Nat :=
  (List.range' 2 14).find? fun i => i ≠ up.hostPsi && (up.slot i).used = false

/-- The transaction identities of the IMS session are 2 to 254, in turn. -/
def nextImsPti (pti : UInt8) : UInt8 :=
  let p := if pti ≠ 0 then pti + 1 else 2
  if p = 0 ∨ p = 255 then 2 else p

/-- The IMS session is asked for over the same link, with its own identities. -/
def ueEngineRequestImsPdu (ctx : UeContext) : UeContext :=
  if ctx.radioOn = false ∨ ctx.mm.state ≠ .registeredHome ∨ ctx.net.nasSec.active = false ∨
      ctx.rrcState ≠ .connected then ctx
  else if ctx.imsPduActive = true ∨ ctx.imsPduEstablishing = true then ctx
  else
    match freePsi ctx.up with
    | none => ctx
    | some psi =>
      let ctx := { ctx with imsPsi := UInt8.ofNat psi, imsPti := nextImsPti ctx.imsPti }
      match (ueNasEncodePduSessionEstRequest 512 ctx.imsPsi ctx.imsPti 1 1 imsDnn
          ctx.cfg.network.sliceSst).pdu? with
      | none => ctx
      | some nas =>
        let r := engineSendNasUplink ctx.net nas false
        if r.2 then
          { ctx with net := r.1, imsPduRequested := true, imsPduEstablishing := true }
        else { ctx with net := r.1 }

/-! ## Steps -/

/-- Everything that can happen to a context. -/
inductive Step where
  | tickHead (nowMs : UInt64)
  | recv (nowMs : UInt64)
  | tickTail (nowMs : UInt64)
  | setRadio (on : Bool)
  | requestRegister
  | requestPeriodicUpdate
  | requestMobilityUpdate
  | requestConnect (dnn : Bytes)
  | requestDisconnect
  | requestImsPdu
  /-- One turn of the receive thread. -/
  | rx (nowMs : UInt64) (dgrams : List (SockAddrIn × Bytes)) (recvError : Bool)
  /-- The operating system changes its answers. -/
  | os (answers : OsAnswers)
  deriving DecidableEq, Repr

/-- The context after a step. -/
def step (ctx : UeContext) : Step → UeContext
  | .tickHead nowMs => tickHead ctx nowMs
  | .recv nowMs => recvStep ctx nowMs
  | .tickTail nowMs => tickTail ctx nowMs
  | .setRadio on => ueEngineSetRadio ctx on
  | .requestRegister => ueEngineRequestRegister ctx
  | .requestPeriodicUpdate => ueEngineRequestPeriodicUpdate ctx
  | .requestMobilityUpdate => ueEngineRequestMobilityUpdate ctx
  | .requestConnect dnn => ueEngineRequestConnect ctx dnn
  | .requestDisconnect => ueEngineRequestDisconnect ctx
  | .requestImsPdu => ueEngineRequestImsPdu ctx
  | .rx nowMs dgrams recvError =>
    { ctx with net := { ctx.net with ran := ueRanTransportTick ctx.net.ran nowMs dgrams recvError } }
  | .os answers => { ctx with net := { ctx.net with ran := { ctx.net.ran with os := answers } } }

/-- The context after several steps. -/
abbrev run (ctx : UeContext) (es : List Step) : UeContext := Transition.run step ctx es

/-- The receive loop is some number of its turns. -/
theorem drainLoop_eq_run (nowMs : UInt64) (fuel : Nat) (ctx : UeContext) :
    ∃ n, drainLoop nowMs fuel ctx = run ctx (List.replicate n (.recv nowMs)) := by
  induction fuel generalizing ctx with
  | zero => exact ⟨0, rfl⟩
  | succ fuel ih =>
    unfold drainLoop
    split
    · exact ⟨0, rfl⟩
    split
    · exact ⟨1, rfl⟩
    · obtain ⟨n, hn⟩ := ih (recvStep ctx nowMs)
      exact ⟨n + 1, by rw [hn]; rfl⟩

/-- A tick is a run: its head, turns of the receive loop, and its tail. -/
theorem engineRealTick_eq_run (ctx : UeContext) (nowMs : UInt64) :
    ∃ n, engineRealTick ctx nowMs =
      run ctx (.tickHead nowMs :: List.replicate n (.recv nowMs) ++ [.tickTail nowMs]) := by
  obtain ⟨n, hn⟩ :=
    drainLoop_eq_run nowMs (tickHead ctx nowMs).net.ran.nasQueue.length (tickHead ctx nowMs)
  refine ⟨n, ?_⟩
  rw [run, Transition.run_append, Transition.run_cons, engineRealTick, hn]
  rfl

/-- A context fresh from some configuration. -/
def Init (ctx : UeContext) : Prop := ∃ cfg os, ctx = ueContextInitFromConfig cfg os

/-- A context that some run leads to. -/
abbrev Reachable (ctx : UeContext) : Prop := Transition.Reachable step Init ctx

end VirtualLte.Engine
