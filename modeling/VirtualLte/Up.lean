import VirtualLte.Ran
import VirtualLte.Sm

/-!
# User plane

`ue_up.c`: the table of PDU sessions indexed by session identity, with a copy of
the one session the host sees.

* `session`, `hasSession` and `hostPsi` describe the host's session.
* `state` follows the link: BINDING until it is up, SUSPENDED while it is down.
-/

namespace VirtualLte.Up

open Sm Ran

inductive UeUpState where
  | idle
  | binding
  | active
  | suspended
  deriving DecidableEq, Repr

/-- A session; the default is a cleared slot. -/
structure UeUpSession where
  used : Bool := false
  hostVisible : Bool := false
  psi : Nat := 0
  dnn : Bytes := []
  pduType : Bytes := []
  ip : UeEngineRuntimeIp := {}
  deriving DecidableEq, Repr

structure UeUpCtx where
  state : UeUpState := .idle
  session : UeUpSession := {}
  hasSession : Bool := false
  sessions : Vector UeUpSession 16 := Vector.replicate 16 {}
  hostPsi : Nat := 0
  deriving DecidableEq, Repr

/-! ## The session table -/

/-- The session in slot `psi`; there is none outside the table. -/
def UeUpCtx.slot (up : UeUpCtx) (psi : Nat) : UeUpSession :=
  if h : psi < 16 then up.sessions[psi] else {}

def UeUpCtx.setSlot (up : UeUpCtx) (psi : Nat) (s : UeUpSession) : UeUpCtx :=
  { up with sessions := if h : psi < 16 then up.sessions.set psi s h else up.sessions }

theorem slot_setSlot_self (up : UeUpCtx) {psi : Nat} (s : UeUpSession) (h : psi < 16) :
    (up.setSlot psi s).slot psi = s := by
  simp [UeUpCtx.slot, UeUpCtx.setSlot, h]

theorem slot_setSlot_of_ne (up : UeUpCtx) {psi q : Nat} (s : UeUpSession) (h : q ≠ psi) :
    (up.setSlot psi s).slot q = up.slot q := by
  unfold UeUpCtx.slot UeUpCtx.setSlot
  by_cases hp : psi < 16
  · by_cases hq : q < 16
    · simp [hp, hq, Vector.getElem_set_ne, h.symm]
    · simp [hq]
  · simp [hp]

/-! ## Binding -/

/-- BINDING or ACTIVE after a bind, by the state of the link. -/
def bindState (up : UeUpCtx) (connected : Bool) : UeUpCtx :=
  if up.hasSession = true ∧ connected = true then { up with state := .active }
  else if up.hasSession then { up with state := .binding }
  else up

/-- Bind a session; nothing happens for an identity outside 1 … 15. -/
def ueUpBindSessionEx (up : UeUpCtx) (psi : Nat) (dnn pduType : Bytes) (ip : UeEngineRuntimeIp)
    (hostVisible connected : Bool) : UeUpCtx :=
  if psi < 1 ∨ psi > 15 then up
  else
    let s : UeUpSession :=
      { used := true, hostVisible, psi, dnn := dnn.take 63, pduType := pduType.take 15, ip }
    let up := up.setSlot psi s
    let up :=
      if hostVisible then { up with session := s, hasSession := true, hostPsi := psi } else up
    bindState up connected

def ueUpBindSession (up : UeUpCtx) (psi : Nat) (dnn pduType : Bytes) (ip : UeEngineRuntimeIp)
    (connected : Bool) : UeUpCtx :=
  ueUpBindSessionEx up psi dnn pduType ip true connected

/-- Forget the host's session. -/
def clearHost (up : UeUpCtx) : UeUpCtx :=
  { up with session := {}, hasSession := false, hostPsi := 0, state := .idle }

def ueUpUnbindSession (up : UeUpCtx) : UeUpCtx :=
  clearHost (if 1 ≤ up.hostPsi ∧ up.hostPsi ≤ 15 then up.setSlot up.hostPsi {} else up)

def ueUpUnbindSessionPsi (up : UeUpCtx) (psi : Nat) : UeUpCtx :=
  if psi < 1 ∨ psi > 15 then up
  else if (up.slot psi).used = false then up
  else
    let cleared := up.setSlot psi {}
    if up.hostPsi = psi then clearHost cleared else cleared

def ueUpTick (up : UeUpCtx) (connected : Bool) : UeUpCtx :=
  if up.hasSession then
    match up.state with
    | .binding => if connected then { up with state := .active } else up
    | .active => if connected then up else { up with state := .suspended }
    | .suspended => if connected then { up with state := .active } else up
    | .idle => up
  else up

def ueUpSuspend (up : UeUpCtx) : UeUpCtx :=
  if up.state = .active then { up with state := .suspended } else up

def ueUpResume (up : UeUpCtx) : UeUpCtx :=
  if up.state = .suspended then { up with state := .active } else up

/-! ### Slots after unbinding -/

theorem ueUpUnbindSession_slot (up : UeUpCtx) (q : Nat) :
    (ueUpUnbindSession up).slot q =
      if 1 ≤ up.hostPsi ∧ up.hostPsi ≤ 15 ∧ q = up.hostPsi then {} else up.slot q := by
  unfold ueUpUnbindSession
  by_cases hrange : 1 ≤ up.hostPsi ∧ up.hostPsi ≤ 15
  · rw [if_pos hrange]
    by_cases hq : q = up.hostPsi
    · rw [if_pos ⟨hrange.1, hrange.2, hq⟩, hq]
      exact slot_setSlot_self up {} (by omega)
    · rw [if_neg (fun h => hq h.2.2)]
      exact slot_setSlot_of_ne up {} hq
  · rw [if_neg hrange, if_neg (fun h => hrange ⟨h.1, h.2.1⟩)]
    rfl

theorem ueUpUnbindSessionPsi_slot_of_ne (up : UeUpCtx) {psi q : Nat} (h : q ≠ psi) :
    (ueUpUnbindSessionPsi up psi).slot q = up.slot q := by
  unfold ueUpUnbindSessionPsi
  split
  · rfl
  split
  · rfl
  dsimp only
  split
  · exact slot_setSlot_of_ne up {} h
  · exact slot_setSlot_of_ne up {} h

/-- Unbinding frees every slot that a session can be bound to. -/
theorem ueUpUnbindSessionPsi_slot_self (up : UeUpCtx) (psi : Nat) :
    ((ueUpUnbindSessionPsi up psi).slot psi).used = false ↔
      (1 ≤ psi ∧ psi ≤ 15) ∨ (up.slot psi).used = false := by
  unfold ueUpUnbindSessionPsi
  split
  · rename_i hrange
    exact ⟨.inr, fun h => h.resolve_left (by omega)⟩
  split
  · rename_i hunused
    exact iff_of_true hunused (.inr hunused)
  · rename_i hrange _
    have hcleared : ((up.setSlot psi {}).slot psi).used = false := by
      rw [slot_setSlot_self up {} (by omega)]
    refine iff_of_true ?_ (.inl (by omega))
    dsimp only
    split
    · exact hcleared
    · exact hcleared

/-- Unbinding another identity leaves the host's session alone. -/
theorem ueUpUnbindSessionPsi_host {up : UeUpCtx} {psi : Nat} (h : up.hostPsi ≠ psi) :
    (ueUpUnbindSessionPsi up psi).session = up.session ∧
      (ueUpUnbindSessionPsi up psi).hasSession = up.hasSession ∧
      (ueUpUnbindSessionPsi up psi).hostPsi = up.hostPsi := by
  unfold ueUpUnbindSessionPsi
  rw [if_neg h]
  repeat' split
  all_goals exact ⟨rfl, rfl, rfl⟩

/-! ## Invariant -/

/-- The host's session is in the table, and nothing of it is left once it is gone. -/
structure UeUpCtx.Wf (up : UeUpCtx) : Prop where
  bound : up.hasSession = true →
    1 ≤ up.hostPsi ∧ up.hostPsi ≤ 15 ∧ (up.slot up.hostPsi).used = true
  unbound : up.hasSession = false → up.session = {} ∧ up.hostPsi = 0 ∧ up.state = .idle

/-- The invariant does not depend on the state of a bound session. -/
theorem UeUpCtx.Wf.setState {up : UeUpCtx} (h : up.Wf) (hbound : up.hasSession = true)
    (state : UeUpState) : { up with state }.Wf where
  bound := h.bound
  unbound hun := absurd (hbound.symm.trans hun) nofun

theorem bindState_wf {up : UeUpCtx} (h : up.Wf) (connected : Bool) :
    (bindState up connected).Wf := by
  unfold bindState
  split
  · rename_i hcond
    exact h.setState hcond.1 _
  split
  · rename_i hbound
    exact h.setState hbound _
  · exact h

theorem clearHost_wf (up : UeUpCtx) : (clearHost up).Wf where
  bound := nofun
  unbound _ := ⟨rfl, rfl, rfl⟩

/-- Filling a slot keeps the host's session in the table. -/
theorem setSlot_wf {up : UeUpCtx} (h : up.Wf) (psi : Nat) {s : UeUpSession}
    (hs : s.used = true ∨ psi ≠ up.hostPsi) : (up.setSlot psi s).Wf where
  bound hbound := by
    obtain ⟨hlow, hhigh, hused⟩ := h.bound hbound
    refine ⟨hlow, hhigh, ?_⟩
    show ((up.setSlot psi s).slot up.hostPsi).used = true
    by_cases heq : psi = up.hostPsi
    · subst heq
      rw [slot_setSlot_self up s (by omega)]
      exact hs.resolve_right (fun hne => hne rfl)
    · rw [slot_setSlot_of_ne up s (fun h => heq h.symm)]
      exact hused
  unbound := h.unbound

theorem ueUpBindSessionEx_wf {up : UeUpCtx} (h : up.Wf) (psi : Nat) (dnn pduType : Bytes)
    (ip : UeEngineRuntimeIp) (hostVisible connected : Bool) :
    (ueUpBindSessionEx up psi dnn pduType ip hostVisible connected).Wf := by
  unfold ueUpBindSessionEx
  split
  · exact h
  rename_i hrange
  obtain ⟨hlow, hhigh⟩ : 1 ≤ psi ∧ psi ≤ 15 := by omega
  have hslot : psi < 16 := by omega
  dsimp only
  apply bindState_wf
  split
  · refine ⟨fun _ => ⟨hlow, hhigh, ?_⟩, nofun⟩
    exact congrArg UeUpSession.used (slot_setSlot_self up _ hslot)
  · exact setSlot_wf h psi (.inl rfl)

theorem ueUpUnbindSession_wf (up : UeUpCtx) : (ueUpUnbindSession up).Wf := clearHost_wf _

theorem ueUpUnbindSessionPsi_wf {up : UeUpCtx} (h : up.Wf) (psi : Nat) :
    (ueUpUnbindSessionPsi up psi).Wf := by
  unfold ueUpUnbindSessionPsi
  split
  · exact h
  split
  · exact h
  dsimp only
  split
  · exact clearHost_wf _
  · rename_i hne
    exact setSlot_wf h psi (.inr fun heq => hne heq.symm)

theorem ueUpTick_wf {up : UeUpCtx} (h : up.Wf) (connected : Bool) : (ueUpTick up connected).Wf := by
  unfold ueUpTick
  split
  · rename_i hbound
    repeat' split
    all_goals first | exact h | exact h.setState hbound _
  · exact h

/-- An IDLE user plane is neither suspended nor resumed. -/
theorem UeUpCtx.Wf.changeState {up : UeUpCtx} (h : up.Wf) (hidle : up.state ≠ .idle)
    (state : UeUpState) : { up with state }.Wf := by
  by_cases hhas : up.hasSession = true
  · exact h.setState hhas state
  · exact absurd (h.unbound (Bool.not_eq_true _ ▸ hhas)).2.2 hidle

theorem ueUpSuspend_wf {up : UeUpCtx} (h : up.Wf) : (ueUpSuspend up).Wf := by
  unfold ueUpSuspend
  split
  · rename_i hactive
    exact h.changeState (by rw [hactive]; decide) _
  · exact h

theorem ueUpResume_wf {up : UeUpCtx} (h : up.Wf) : (ueUpResume up).Wf := by
  unfold ueUpResume
  split
  · rename_i hsuspended
    exact h.changeState (by rw [hsuspended]; decide) _
  · exact h

/-! ### The host's session -/

/-- Binding a session that the host does not see leaves the host's session alone. -/
theorem ueUpBindSessionEx_host (up : UeUpCtx) (psi : Nat) (dnn pduType : Bytes)
    (ip : UeEngineRuntimeIp) (connected : Bool) :
    (ueUpBindSessionEx up psi dnn pduType ip false connected).session = up.session ∧
      (ueUpBindSessionEx up psi dnn pduType ip false connected).hasSession = up.hasSession ∧
      (ueUpBindSessionEx up psi dnn pduType ip false connected).hostPsi = up.hostPsi := by
  simp only [ueUpBindSessionEx, bindState, Bool.false_eq_true, if_false]
  repeat' split
  all_goals exact ⟨rfl, rfl, rfl⟩

theorem ueUpBindSessionEx_hasSession (up : UeUpCtx) (psi : Nat) (dnn pduType : Bytes)
    (ip : UeEngineRuntimeIp) (connected : Bool) :
    (ueUpBindSessionEx up psi dnn pduType ip false connected).hasSession = up.hasSession :=
  (ueUpBindSessionEx_host up psi dnn pduType ip connected).2.1

/-- Unbinding an identity takes the host's session with it only if it is the host's. -/
theorem ueUpUnbindSessionPsi_hasSession {up : UeUpCtx} (h : up.Wf) (psi : Nat) :
    (ueUpUnbindSessionPsi up psi).hasSession = (up.hasSession && up.hostPsi ≠ psi) := by
  have hbound : up.hasSession = true → up.hostPsi = psi →
      1 ≤ psi ∧ psi ≤ 15 ∧ (up.slot psi).used = true := by
    rintro hhas rfl
    exact h.bound hhas
  unfold ueUpUnbindSessionPsi
  cases hhas : up.hasSession with
  | false =>
    repeat' split
    all_goals first | exact hhas | rfl
  | true =>
    by_cases hpsi : up.hostPsi = psi
    · obtain ⟨hlow, hhigh, hused⟩ := hbound hhas hpsi
      rw [if_neg (by omega), if_neg (by simp [hused]), if_pos hpsi]
      simp [clearHost, hpsi]
    · have hkeep : (up.hostPsi ≠ psi) = True := by simp [hpsi]
      simp only [if_neg hpsi, hkeep, decide_true, Bool.and_true]
      repeat' split
      all_goals exact hhas

theorem ueUpTick_hasSession (up : UeUpCtx) (connected : Bool) :
    (ueUpTick up connected).hasSession = up.hasSession := by
  unfold ueUpTick
  repeat' split
  all_goals rfl

end VirtualLte.Up
