import VirtualLte.Ran.Cells

/-!
# Only configured gNBs

A datagram is accepted from a configured gNB or from an address learned for a cell.
The second way is sound because addresses are learned from accepted datagrams only:
while the names of the configured endpoints resolve to the same addresses, every address
in the cell table is that of a configured endpoint (`onlyConfigured`).
-/

namespace VirtualLte.Ran

open Rls

/-! ## Endpoints -/

/-- The address of a configured endpoint. -/
def Configured (t : UeRanTransportCtx) (a : SockAddrIn) : Prop :=
  ∃ ep ∈ t.gnbList, resolveEndpoint t ep = some a

/-- The step leaves the resolution of the configured endpoints alone. -/
def FixedNames (t : UeRanTransportCtx) (e : RanStep) : Prop :=
  ∀ ep ∈ t.gnbList, resolveEndpoint (ranStep t e) ep = resolveEndpoint t ep

/-- No step configures an endpoint, and only the environment changes names. -/
theorem ranStep_names (t : UeRanTransportCtx) (e : RanStep) :
    (ranStep t e).gnbList = t.gnbList ∧
      ((∀ answers, e ≠ .os answers) → (ranStep t e).os.hosts = t.os.hosts) := by
  have hchange := ranStep_change t e
  generalize ranStep t e = t' at hchange ⊢
  cases hchange with
  | environment answers => exact ⟨rfl, fun h => absurd rfl (h answers)⟩
  | _ => exact ⟨rfl, fun _ => rfl⟩

theorem fixedNames_of_ne_os (t : UeRanTransportCtx) {e : RanStep} (he : ∀ answers, e ≠ .os answers) :
    FixedNames t e := by
  intro ep _
  rw [resolveEndpoint, resolveEndpoint, (ranStep_names t e).2 he]

theorem configured_step {t : UeRanTransportCtx} {e : RanStep} (he : FixedNames t e)
    (a : SockAddrIn) : Configured (ranStep t e) a ↔ Configured t a := by
  unfold Configured
  rw [(ranStep_names t e).1]
  constructor
  · rintro ⟨ep, hep, hres⟩
    exact ⟨ep, hep, by rw [← he ep hep]; exact hres⟩
  · rintro ⟨ep, hep, hres⟩
    exact ⟨ep, hep, by rw [he ep hep]; exact hres⟩

/-! ## The invariant -/

/-- Every address in the table, and every one sent to, satisfies `known`. -/
structure PeersKnown (known : SockAddrIn → Prop) (t : UeRanTransportCtx) : Prop where
  configured : ∀ a, Configured t a ↔ known a
  cells : ∀ i, (t.cells.get i).valid = true → ∃ a, (t.cells.get i).addr = some a ∧ known a
  sent : ∀ d ∈ t.sent, known d.1

variable {known : SockAddrIn → Prop} {t : UeRanTransportCtx}

/-- An accepted datagram comes from a known address. -/
theorem PeersKnown.of_peerIsKnown (h : PeersKnown known t) {peer : SockAddrIn}
    (hpeer : peerIsKnown t peer = true) : known peer := by
  rcases (Bool.or_eq_true _ _).mp hpeer with hcell | hgnb
  · obtain ⟨c, hc, hmatch⟩ := List.any_eq_true.mp hcell
    obtain ⟨i, rfl⟩ := mem_cells_toList.mp hc
    simp only [Bool.and_eq_true, decide_eq_true_eq] at hmatch
    obtain ⟨a, haddr, hknown⟩ := h.cells i hmatch.1
    rw [hmatch.2] at haddr
    cases haddr
    exact hknown
  · obtain ⟨ep, hep, hres⟩ := List.any_eq_true.mp hgnb
    exact (h.configured peer).mp ⟨ep, hep, of_decide_eq_true hres⟩

theorem PeersKnown.cellAddr (h : PeersKnown known t) {cellId : Int} {a : SockAddrIn}
    (haddr : (findCellById t cellId).bind (·.addr) = some a) : known a := by
  unfold findCellById at haddr
  cases hslot : cellSlot t fun c => c.valid && c.cellId = cellId with
  | none =>
    rw [hslot] at haddr
    cases haddr
  | some i =>
    rw [hslot] at haddr
    have hi := cellSlot_some hslot
    simp only [Bool.and_eq_true] at hi
    obtain ⟨b, hb, hknown⟩ := h.cells i hi.1
    have haddr' : (t.cells.get i).addr = some a := haddr
    rw [hb] at haddr'
    cases haddr'
    exact hknown

theorem PeersKnown.sends (h : PeersKnown known t) {e : RanStep} {d : SockAddrIn × Bytes}
    (hd : Sends t e d) : known d.1 := by
  cases hd with
  | heartbeat hbeat =>
    obtain ⟨ep, hep, hres, -⟩ := hbeat
    exact (h.configured d.1).mp ⟨ep, hep, hres⟩
  | ack nowMs _ hack => exact h.cellAddr hack.1
  | pdu _ hpdu =>
    have haddr := hpdu.1
    unfold servingAddr at haddr
    split at haddr
    · cases haddr
    · exact h.cellAddr haddr

theorem expireCells_cells (t : UeRanTransportCtx) (nowMs : UInt64) :
    (expireCells t nowMs).cells = (expiredTable t nowMs).cells := by
  unfold expireCells selectBestServingCell expiredTable
  dsimp only
  split
  · split
    · rfl
    · rfl
  · rfl

/-- Learning a cell stores the peer's address and no other new one. -/
theorem handleHeartbeatAck_addr (t : UeRanTransportCtx) (sti : UInt64) (dbm : Int)
    (peer : SockAddrIn) (nowMs : UInt64) (i : Fin 16) :
    (handleHeartbeatAck t sti dbm peer nowMs).cells.get i = t.cells.get i ∨
      ((handleHeartbeatAck t sti dbm peer nowMs).cells.get i).addr = some peer := by
  have hset : ∀ (j : Fin 16) (c : UeRanCellInfo), c.addr = some peer →
      (t.cells.set j c).get i = t.cells.get i ∨ ((t.cells.set j c).get i).addr = some peer := by
    intro j c hc
    by_cases hij : i = j
    · rw [hij, get_set_self]
      exact .inr hc
    · exact .inl (get_set_of_ne hij c)
  unfold handleHeartbeatAck
  split
  · exact hset _ _ rfl
  · split
    · exact .inl rfl
    · exact hset _ _ rfl

theorem PeersKnown.step (t : UeRanTransportCtx) (e : RanStep) (h : PeersKnown known t)
    (he : FixedNames t e) : PeersKnown known (ranStep t e) := by
  refine ⟨fun a => (configured_step he a).trans (h.configured a), ?_, ?_⟩
  · intro i hi
    cases ranStep_cells t e with
    | same hsame =>
      rw [hsame.cells] at hi ⊢
      exact h.cells i hi
    | cleared hcells _ _ _ =>
      rw [hcells, show (Vector.replicate 16 ({} : UeRanCellInfo)).get i = {} from
        Vector.getElem_replicate i.isLt] at hi
      cases hi
    | expired nowMs hsame =>
      rw [hsame.cells, expireCells_cells] at hi ⊢
      obtain ⟨hget, -⟩ := expiredTable_get hi
      rw [hget] at hi ⊢
      exact h.cells i hi
    | learned sti dbm peer nowMs hknown hsame =>
      rw [hsame.cells] at hi ⊢
      rcases handleHeartbeatAck_addr t sti dbm peer nowMs i with hold | hnew
      · rw [hold] at hi ⊢
        exact h.cells i hi
      · exact ⟨peer, hnew, h.of_peerIsKnown hknown⟩
  · intro d hd
    rcases ranStep_sent t e d hd with hold | hnew
    · exact h.sent d hold
    · exact h.sends hnew

/-- A datagram from elsewhere is counted and dropped. -/
theorem PeersKnown.drop (h : PeersKnown known t) (nowMs : UInt64) {peer : SockAddrIn}
    (hpeer : ¬ known peer) (dgram : Bytes) :
    receiveDatagram t nowMs peer dgram =
      { t with rxBytes := t.rxBytes + UInt64.ofNat dgram.length } := by
  have hunknown : peerIsKnown { t with rxBytes := t.rxBytes + UInt64.ofNat dgram.length } peer = false := by
    cases hcase : peerIsKnown t peer with
    | true => exact absurd (h.of_peerIsKnown hcase) hpeer
    | false => exact hcase
  rw [receiveDatagram, if_pos hunknown]

/-! ## Whole runs -/

/-- Reached from `t₀` while the configured names resolve as they did. -/
def PeerReachable (t₀ t : UeRanTransportCtx) : Prop :=
  ∃ es, Transition.Along ranStep FixedNames t₀ es ∧ ranRun t₀ es = t

theorem along_fixedNames (t : UeRanTransportCtx) {es : List RanStep}
    (hes : ∀ e ∈ es, e.ofTick = true) : Transition.Along ranStep FixedNames t es := by
  induction es generalizing t with
  | nil => trivial
  | cons e es ih =>
    refine ⟨fixedNames_of_ne_os t ?_, ih _ fun e he => hes e (.tail _ he)⟩
    rintro answers rfl
    cases hes _ (.head _)

theorem PeerReachable.tick {t₀ : UeRanTransportCtx} (h : PeerReachable t₀ t) (nowMs : UInt64)
    (dgrams : List (SockAddrIn × Bytes)) (recvError : Bool) :
    PeerReachable t₀ (ueRanTransportTick t nowMs dgrams recvError) := by
  obtain ⟨es, halong, rfl⟩ := h
  obtain ⟨fs, hfs, htick⟩ := ueRanTransportTick_run (ranRun t₀ es) nowMs dgrams recvError
  refine ⟨es ++ fs, ?_, by rw [hfs, ranRun_append]⟩
  exact (Transition.along_append _ _ _ _ _).mpr ⟨halong, along_fixedNames _ htick⟩

/-- In every state reached with fixed names, the table holds configured addresses only, a
datagram from any other source changes the byte counter and nothing else, all that was
sent went to configured endpoints; and a tick leads to such a state again. -/
theorem onlyConfigured {t₀ : UeRanTransportCtx} (hinit : RanInit t₀) (h : PeerReachable t₀ t) :
    (∀ i, (t.cells.get i).valid = true → ∃ a, (t.cells.get i).addr = some a ∧ Configured t₀ a) ∧
      (∀ nowMs peer dgram, ¬ Configured t₀ peer → receiveDatagram t nowMs peer dgram =
        { t with rxBytes := t.rxBytes + UInt64.ofNat dgram.length }) ∧
      (∀ d ∈ t.sent, Configured t₀ d.1) ∧
      ∀ nowMs dgrams recvError, PeerReachable t₀ (ueRanTransportTick t nowMs dgrams recvError) := by
  have hstart : PeersKnown (Configured t₀) t₀ := by
    obtain ⟨os, eps, rfl⟩ := hinit
    refine ⟨fun _ => Iff.rfl, fun i hi => ?_, nofun⟩
    rw [show ({ ueRanTransportInit os with gnbList := eps } : UeRanTransportCtx).cells.get i = {} from
      Vector.getElem_replicate i.isLt] at hi
    cases hi
  have hknown : PeersKnown (Configured t₀) t := by
    obtain ⟨es, halong, rfl⟩ := h
    exact Transition.run_invariant PeersKnown.step hstart halong
  exact ⟨hknown.cells, fun nowMs _ dgram hpeer => hknown.drop nowMs hpeer dgram, hknown.sent,
    fun nowMs dgrams recvError => h.tick nowMs dgrams recvError⟩

theorem onlyConfigured_oneGnb :
    (∀ i, ((ranRun oneGnbInit [.start, gnbHeard]).cells.get i).valid = true →
        ∃ a, ((ranRun oneGnbInit [.start, gnbHeard]).cells.get i).addr = some a ∧
          Configured oneGnbInit a) ∧
      (∀ nowMs peer dgram, ¬ Configured oneGnbInit peer →
        receiveDatagram (ranRun oneGnbInit [.start, gnbHeard]) nowMs peer dgram =
          { ranRun oneGnbInit [.start, gnbHeard] with
            rxBytes := (ranRun oneGnbInit [.start, gnbHeard]).rxBytes + UInt64.ofNat dgram.length }) ∧
      (∀ d ∈ (ranRun oneGnbInit [.start, gnbHeard]).sent, Configured oneGnbInit d.1) ∧
      ∀ nowMs dgrams recvError, PeerReachable oneGnbInit
        (ueRanTransportTick (ranRun oneGnbInit [.start, gnbHeard]) nowMs dgrams recvError) :=
  onlyConfigured ranInit_oneGnbInit ⟨[.start, gnbHeard],
    ⟨fixedNames_of_ne_os _ nofun, fixedNames_of_ne_os _ nofun, trivial⟩, rfl⟩

end VirtualLte.Ran
