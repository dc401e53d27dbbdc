import VirtualLte.Up.Routing

/-!
# The session table and its cached views

The user plane keeps the host's session five times over: as a slot of the table, as a copy,
as an index, as a flag and as a state.

* `TableConsistent` says that the five agree, that no other slot is the host's, and that
  every slot knows its index.
* `TableEvent` is the list of calls that change them, with the link in any condition.
* `TableKept` names the calls that keep them consistent: the host is bound on a new
  identity only when it has none, and the IMS service never on the host's.
* `tableStep_iff` is the step, `tableRun_consistent_iff` the result for runs.
-/

namespace VirtualLte.Up

open Transition Sm

variable {up : UeUpCtx}

/-! ## Calls -/

/-- A link is up, down, or not there. -/
inductive TableEvent where
  | bind (psi : Int) (dnn pduType : Bytes) (ip : UeEngineRuntimeIp) (hostVisible : Bool)
      (link : Option Bool)
  | unbind
  | unbindPsi (psi : Int)
  | suspend
  | resume
  | tick (link : Option Bool)

/-- Identities below zero are out of range like zero. -/
def tableStep (up : UeUpCtx) : TableEvent → UeUpCtx
  | .bind psi dnn pduType ip hostVisible link =>
    ueUpBindSessionEx up psi.toNat dnn pduType ip hostVisible (link = some true)
  | .unbind => ueUpUnbindSession up
  | .unbindPsi psi => ueUpUnbindSessionPsi up psi.toNat
  | .suspend => ueUpSuspend up
  | .resume => ueUpResume up
  | .tick (some connected) => ueUpTick up connected
  | .tick none => up

/-- The views of the host's session agree. -/
structure TableConsistent (up : UeUpCtx) : Prop where
  state : up.hasSession = true ↔ up.state ≠ .idle
  index : up.hasSession = true ↔ 1 ≤ up.hostPsi ∧ up.hostPsi ≤ 15
  used : up.hasSession = true → (up.slot up.hostPsi).used = true
  visible : up.hasSession = true → (up.slot up.hostPsi).hostVisible = true
  cached : up.hasSession = true → up.slot up.hostPsi = up.session
  only : ∀ q, (up.slot q).hostVisible = true → up.hasSession = true ∧ q = up.hostPsi
  own : ∀ q, (up.slot q).used = true → (up.slot q).psi = q

/-- A bind that keeps the views consistent. -/
def TableKept (up : UeUpCtx) : TableEvent → Prop
  | .bind psi _ _ _ hostVisible _ =>
    1 ≤ psi → psi ≤ 15 → up.hasSession = true →
      if hostVisible then up.hostPsi = psi.toNat else up.hostPsi ≠ psi.toNat
  | _ => True

/-! ## The other calls -/

/-- The views do not depend on which of the states of a bound session it is. -/
theorem TableConsistent.setState (h : TableConsistent up) (hbefore : up.state ≠ .idle)
    {state : UeUpState} (hafter : state ≠ .idle) :
    TableConsistent { up with state } where
  state := iff_of_true (h.state.mpr hbefore) hafter
  index := h.index
  used := h.used
  visible := h.visible
  cached := h.cached
  only := h.only
  own := h.own

theorem TableConsistent.tick (h : TableConsistent up) (connected : Bool) :
    TableConsistent (ueUpTick up connected) := by
  unfold ueUpTick
  split
  · rename_i hbound
    have hidle := h.state.mp hbound
    split
    · split
      · exact h.setState hidle nofun
      · exact h
    · split
      · exact h
      · exact h.setState hidle nofun
    · split
      · exact h.setState hidle nofun
      · exact h
    · exact h
  · exact h

theorem TableConsistent.suspend (h : TableConsistent up) : TableConsistent (ueUpSuspend up) := by
  unfold ueUpSuspend
  split
  · rename_i hactive
    exact h.setState (by rw [hactive]; exact nofun) nofun
  · exact h

theorem TableConsistent.resume (h : TableConsistent up) : TableConsistent (ueUpResume up) := by
  unfold ueUpResume
  split
  · rename_i hsuspended
    exact h.setState (by rw [hsuspended]; exact nofun) nofun
  · exact h

/-- Clearing a slot of the table that is not the host's. -/
theorem TableConsistent.clearSlot (h : TableConsistent up) {psi : Nat} (hpsi : psi < 16)
    (hne : up.hostPsi ≠ psi) : TableConsistent (up.setSlot psi {}) := by
  have hhost : (up.setSlot psi {}).slot up.hostPsi = up.slot up.hostPsi :=
    slot_setSlot_of_ne up {} hne
  have hslot : ∀ q, (up.setSlot psi {}).slot q = up.slot q ∨
      (up.setSlot psi {}).slot q = {} := by
    intro q
    by_cases hq : q = psi
    · subst hq
      exact .inr (slot_setSlot_self up {} hpsi)
    · exact .inl (slot_setSlot_of_ne up {} hq)
  refine ⟨h.state, h.index, fun hhas => ?_, fun hhas => ?_, fun hhas => ?_, fun q hq => ?_,
    fun q hq => ?_⟩
  · exact (congrArg UeUpSession.used hhost).trans (h.used hhas)
  · exact (congrArg UeUpSession.hostVisible hhost).trans (h.visible hhas)
  · exact hhost.trans (h.cached hhas)
  · rcases hslot q with heq | heq
    · exact h.only q (heq ▸ hq)
    · rw [heq] at hq
      cases hq
  · rcases hslot q with heq | heq
    · rw [heq] at hq ⊢
      exact h.own q hq
    · rw [heq] at hq
      cases hq

/-- Without a host's slot the cleared views are consistent. -/
theorem clearHost_consistent (hnone : ∀ q, (up.slot q).hostVisible = false)
    (hown : ∀ q, (up.slot q).used = true → (up.slot q).psi = q) :
    TableConsistent (clearHost up) where
  state := by simp [clearHost]
  index := by simp [clearHost]
  used := nofun
  visible := nofun
  cached := nofun
  only q hq := absurd ((hnone q).symm.trans hq) nofun
  own := hown

/-- Clearing the host's slot with its views. -/
theorem TableConsistent.forgetHost (h : TableConsistent up) (hhas : up.hasSession = true) :
    TableConsistent (clearHost (up.setSlot up.hostPsi {})) := by
  have hrange := h.index.mp hhas
  have hself : (up.setSlot up.hostPsi {}).slot up.hostPsi = {} :=
    slot_setSlot_self up {} (by omega)
  apply clearHost_consistent
  · intro q
    by_cases hq : q = up.hostPsi
    · rw [hq, hself]
    · rw [slot_setSlot_of_ne up {} hq, Bool.eq_false_iff]
      exact fun hvisible => hq (h.only q hvisible).2
  · intro q
    by_cases hq : q = up.hostPsi
    · rw [hq, hself]
      exact nofun
    · rw [slot_setSlot_of_ne up {} hq]
      exact h.own q

theorem TableConsistent.unbind (h : TableConsistent up) :
    TableConsistent (ueUpUnbindSession up) := by
  unfold ueUpUnbindSession
  by_cases hhas : up.hasSession = true
  · rw [if_pos (h.index.mp hhas)]
    exact h.forgetHost hhas
  · rw [if_neg fun hrange => hhas (h.index.mpr hrange)]
    refine clearHost_consistent (fun q => ?_) h.own
    rw [Bool.eq_false_iff]
    exact fun hvisible => hhas (h.only q hvisible).1

theorem TableConsistent.unbindPsi (h : TableConsistent up) (psi : Nat) :
    TableConsistent (ueUpUnbindSessionPsi up psi) := by
  unfold ueUpUnbindSessionPsi
  split
  · exact h
  split
  · exact h
  rename_i hrange _
  dsimp only
  split
  · rename_i hpsi
    subst hpsi
    exact h.forgetHost (h.index.mpr (by omega))
  · rename_i hne
    exact h.clearSlot (by omega) hne

/-! ## Binding -/

/-- The slot that a bind fills. -/
def boundSession (psi : Nat) (dnn pduType : Bytes) (ip : UeEngineRuntimeIp) (hostVisible : Bool) :
    UeUpSession :=
  { used := true, hostVisible, psi, dnn := dnn.take 63, pduType := pduType.take 15, ip }

/-- Only the state changes at the end of a bind, and a bound session is never IDLE. -/
theorem bindState_views (up : UeUpCtx) (connected : Bool) :
    (bindState up connected).session = up.session ∧
      (bindState up connected).hasSession = up.hasSession ∧
      (bindState up connected).hostPsi = up.hostPsi ∧
      (up.hasSession = true → (bindState up connected).state ≠ .idle) ∧
      (up.hasSession = false → (bindState up connected).state = up.state) := by
  unfold bindState
  split
  · rename_i hcond
    exact ⟨rfl, rfl, rfl, fun _ => nofun, fun hnone => absurd (hcond.1.symm.trans hnone) nofun⟩
  split
  · rename_i hbound
    exact ⟨rfl, rfl, rfl, fun _ => nofun, fun hnone => absurd (hbound.symm.trans hnone) nofun⟩
  · rename_i hnone
    exact ⟨rfl, rfl, rfl, fun hbound => absurd hbound hnone, fun _ => rfl⟩

/-- The table and the views after a bind. -/
theorem ueUpBindSessionEx_views (up : UeUpCtx) {psi : Nat} (hrange : 1 ≤ psi ∧ psi ≤ 15)
    (dnn pduType : Bytes) (ip : UeEngineRuntimeIp) (hostVisible connected : Bool) :
    let s := boundSession psi dnn pduType ip hostVisible
    let up' := ueUpBindSessionEx up psi dnn pduType ip hostVisible connected
    (∀ q, up'.slot q = if q = psi then s else up.slot q) ∧
      up'.session = (if hostVisible then s else up.session) ∧
      up'.hasSession = (hostVisible || up.hasSession) ∧
      up'.hostPsi = (if hostVisible then psi else up.hostPsi) ∧
      (up'.hasSession = true → up'.state ≠ .idle) ∧
      (up'.hasSession = false → up'.state = up.state) := by
  intro s up'
  have hslot : ∀ q, (up.setSlot psi s).slot q = if q = psi then s else up.slot q := by
    intro q
    split
    · rename_i hq
      rw [hq]
      exact slot_setSlot_self up s (by omega)
    · rename_i hq
      exact slot_setSlot_of_ne up s hq
  have heq : up' = bindState (if hostVisible then
      { up.setSlot psi s with session := s, hasSession := true, hostPsi := psi }
      else up.setSlot psi s) connected := by
    show ueUpBindSessionEx up psi dnn pduType ip hostVisible connected = _
    rw [ueUpBindSessionEx, if_neg (by omega)]
    rfl
  rw [heq]
  obtain ⟨hsession, hhas, hpsi, hbound, hunbound⟩ := bindState_views (if hostVisible then
      { up.setSlot psi s with session := s, hasSession := true, hostPsi := psi }
      else up.setSlot psi s) connected
  rw [hsession, hhas, hpsi]
  refine ⟨fun q => ?_, ?_⟩
  · rw [bindState_slot, ← hslot q]
    split <;> rfl
  · cases hostVisible with
    | true => exact ⟨rfl, rfl, rfl, hbound, fun h => by cases h⟩
    | false => exact ⟨rfl, rfl, rfl, hbound, hunbound⟩

section Bind

variable {up up' : UeUpCtx} {psi : Nat} {s : UeUpSession}

theorem TableConsistent.own_bind (h : TableConsistent up)
    (hslot : ∀ q, up'.slot q = if q = psi then s else up.slot q) (hs : s.psi = psi) (q : Nat)
    (hq : (up'.slot q).used = true) : (up'.slot q).psi = q := by
  rw [hslot q] at hq ⊢
  split at hq
  · rename_i heq
    rw [if_pos heq, heq]
    exact hs
  · rename_i hne
    rw [if_neg hne]
    exact h.own q hq

/-- The host's slot is filled, and it had no other one. -/
theorem TableConsistent.bindHost (h : TableConsistent up)
    (hslot : ∀ q, up'.slot q = if q = psi then s else up.slot q) (hrange : 1 ≤ psi ∧ psi ≤ 15)
    (hs : s.used = true ∧ s.hostVisible = true ∧ s.psi = psi) (hsession : up'.session = s)
    (hhas : up'.hasSession = true) (hpsi : up'.hostPsi = psi) (hstate : up'.state ≠ .idle)
    (hkept : up.hasSession = true → up.hostPsi = psi) : TableConsistent up' := by
  have hself : up'.slot up'.hostPsi = s := by rw [hslot, hpsi, if_pos rfl]
  refine ⟨iff_of_true hhas hstate, iff_of_true hhas (hpsi ▸ hrange), ?_, ?_, ?_, ?_,
    h.own_bind hslot hs.2.2⟩
  · exact fun _ => hself ▸ hs.1
  · exact fun _ => hself ▸ hs.2.1
  · exact fun _ => hself.trans hsession.symm
  · intro q hq
    refine ⟨hhas, ?_⟩
    rw [hslot q] at hq
    by_contra hne
    rw [hpsi] at hne
    rw [if_neg hne] at hq
    obtain ⟨hbefore, hhost⟩ := h.only q hq
    exact hne (hhost.trans (hkept hbefore))

/-- Another slot than the host's is filled. -/
theorem TableConsistent.bindInternal (h : TableConsistent up)
    (hslot : ∀ q, up'.slot q = if q = psi then s else up.slot q)
    (hs : s.hostVisible = false ∧ s.psi = psi) (hsession : up'.session = up.session)
    (hhas : up'.hasSession = up.hasSession) (hpsi : up'.hostPsi = up.hostPsi)
    (hbound : up'.hasSession = true → up'.state ≠ .idle)
    (hunbound : up'.hasSession = false → up'.state = up.state)
    (hkept : up.hasSession = true → up.hostPsi ≠ psi) : TableConsistent up' := by
  have hself : up'.hasSession = true → up'.slot up'.hostPsi = up.slot up.hostPsi := by
    intro hafter
    rw [hslot, hpsi, if_neg (hkept (hhas ▸ hafter))]
  refine ⟨?_, ?_, ?_, ?_, ?_, ?_, h.own_bind hslot hs.2⟩
  · cases hcase : up'.hasSession with
    | true => exact iff_of_true rfl (hbound hcase)
    | false =>
      refine iff_of_false nofun fun hne => ?_
      rw [hunbound hcase] at hne
      exact absurd (hhas.symm.trans hcase) (by simp [h.state.mpr hne])
  · rw [hhas, hpsi]
    exact h.index
  · intro hafter
    rw [hself hafter]
    exact h.used (hhas ▸ hafter)
  · intro hafter
    rw [hself hafter]
    exact h.visible (hhas ▸ hafter)
  · intro hafter
    rw [hself hafter, hsession]
    exact h.cached (hhas ▸ hafter)
  · intro q hq
    rw [hslot q] at hq
    split at hq
    · exact absurd (hs.1.symm.trans hq) nofun
    · rw [hhas, hpsi]
      exact h.only q hq

end Bind

theorem TableConsistent.bind (h : TableConsistent up) {psi : Nat} (hrange : 1 ≤ psi ∧ psi ≤ 15)
    (dnn pduType : Bytes) (ip : UeEngineRuntimeIp) (hostVisible connected : Bool)
    (hkept : up.hasSession = true → if hostVisible then up.hostPsi = psi else up.hostPsi ≠ psi) :
    TableConsistent (ueUpBindSessionEx up psi dnn pduType ip hostVisible connected) := by
  obtain ⟨hslot, hsession, hhas, hpsi, hbound, hunbound⟩ :=
    ueUpBindSessionEx_views up hrange dnn pduType ip hostVisible connected
  cases hostVisible with
  | true => exact h.bindHost hslot hrange ⟨rfl, rfl, rfl⟩ hsession hhas hpsi (hbound hhas) hkept
  | false => exact h.bindInternal hslot ⟨rfl, rfl⟩ hsession hhas hpsi hbound hunbound hkept

/-- A bind that does not leave some view of the host's session behind. -/
theorem bind_kept_of_consistent (h : TableConsistent up) {psi : Nat} (hrange : 1 ≤ psi ∧ psi ≤ 15)
    (dnn pduType : Bytes) (ip : UeEngineRuntimeIp) (hostVisible connected : Bool)
    (hafter : TableConsistent (ueUpBindSessionEx up psi dnn pduType ip hostVisible connected))
    (hhas : up.hasSession = true) : if hostVisible then up.hostPsi = psi else up.hostPsi ≠ psi := by
  obtain ⟨hslot, -, hhas', hpsi, -, -⟩ :=
    ueUpBindSessionEx_views up hrange dnn pduType ip hostVisible connected
  generalize ueUpBindSessionEx up psi dnn pduType ip hostVisible connected = up' at *
  cases hostVisible with
  | true =>
    -- the old slot of the host is still the host's
    rw [if_pos rfl] at hpsi ⊢
    by_contra hne
    have hold : (up'.slot up.hostPsi).hostVisible = true := by
      rw [hslot, if_neg hne]
      exact h.visible hhas
    exact hne ((hafter.only _ hold).2.trans hpsi)
  | false =>
    rw [if_neg nofun] at hpsi ⊢
    intro heq
    have hgone : (up'.slot up'.hostPsi).hostVisible = false := by
      rw [hslot, hpsi, if_pos heq]
      rfl
    have hvisible := hafter.visible (by rw [hhas', hhas]; rfl)
    exact absurd (hgone.symm.trans hvisible) nofun

/-! ## Runs -/

theorem tableStep_iff (h : TableConsistent up) (e : TableEvent) :
    TableKept up e ↔ TableConsistent (tableStep up e) := by
  cases e with
  | bind psi dnn pduType ip hostVisible link =>
    by_cases hrange : 1 ≤ psi ∧ psi ≤ 15
    · have hnat : 1 ≤ psi.toNat ∧ psi.toNat ≤ 15 := by omega
      constructor
      · exact fun hkept => h.bind hnat dnn pduType ip hostVisible _ (hkept hrange.1 hrange.2)
      · exact fun hafter _ _ => bind_kept_of_consistent h hnat dnn pduType ip hostVisible _ hafter
    · refine iff_of_true (fun hlow hhigh => absurd ⟨hlow, hhigh⟩ hrange) ?_
      have hsame : tableStep up (.bind psi dnn pduType ip hostVisible link) = up :=
        if_pos (by omega)
      rw [hsame]
      exact h
  | unbind => exact iff_of_true trivial h.unbind
  | unbindPsi psi => exact iff_of_true trivial (h.unbindPsi psi.toNat)
  | suspend => exact iff_of_true trivial h.suspend
  | resume => exact iff_of_true trivial h.resume
  | tick link =>
    cases link with
    | none => exact iff_of_true trivial h
    | some connected => exact iff_of_true trivial (h.tick connected)

theorem tableConsistent_init : TableConsistent {} := by
  have hslot : ∀ q, ({} : UeUpCtx).slot q = {} := by
    intro q
    unfold UeUpCtx.slot
    split
    · simp
    · rfl
  refine ⟨by decide, by decide, nofun, nofun, nofun, fun q hq => ?_, fun q hq => ?_⟩
  · rw [hslot q] at hq
    cases hq
  · rw [hslot q] at hq
    cases hq

/-- The five views agree in every state of a run exactly if the host is never bound on a second
identity and nothing internal is bound over the host's. -/
theorem tableRun_consistent_iff (es : List TableEvent) :
    (∀ pre, pre <+: es → TableConsistent (run tableStep {} pre)) ↔
      Along tableStep TableKept {} es :=
  (along_iff_prefixes (I := TableConsistent) (fun _ e h => tableStep_iff h e)
    tableConsistent_init).symm

/-- The host is bound on identity 1 and then on identity 2: both slots are the host's. -/
theorem tableRun_second_host :
    let up := run tableStep {} [.bind 1 [] [] {} true none, .bind 2 [] [] {} true none]
    (up.slot 1).hostVisible = true ∧ up.hostPsi = 2 ∧ ¬TableConsistent up := by
  intro up
  have hfirst : (up.slot 1).hostVisible = true := by decide
  have hpsi : up.hostPsi = 2 := by decide
  refine ⟨hfirst, hpsi, fun h => ?_⟩
  have heq := (h.only 1 hfirst).2
  rw [hpsi] at heq
  cases heq

end VirtualLte.Up
