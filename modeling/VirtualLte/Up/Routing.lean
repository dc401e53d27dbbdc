import VirtualLte.Lib.Run
import VirtualLte.Rls.RoundTrip
import VirtualLte.Up

/-!
# Routing by session identity

The packets of the user plane, between the DATA PDUs of the transport and the two
receivers above it: the host and the IMS service.

* `ueUpProcessDownlink` drains the queue of DATA PDUs and hands each to one callback;
  `ueUpSendUplink` and `ueUpSendInternalUplink` send for the host and for the IMS service.
* `Isolated` is the separation of the two: what is handed over belongs to a session bound
  for that side, what nobody gets is counted, and the datagrams that go out carry the
  identity of a session bound for the side that sends.
* `upStep` is the user plane with everything that can happen to it: sessions bound and
  unbound, callbacks registered, and a transport that changes as it likes.
* `upRun_isolated`: the steps of a run are isolated as long as no DATA PDU is empty and the
  host's identity is that of a session the host sees.
* `upRun_hostSession`: it is, as long as no internal session is bound over the host's.
-/

namespace VirtualLte.Up

open Transition Sm Ran

variable {up : UeUpCtx} {s : UserPlane}

/-! ## State -/

/-- The side of the user plane a packet belongs to. -/
inductive Side where
  | host
  | internal
  deriving DecidableEq, Repr

/-- A DATA PDU taken from the queue: its payload word, the callbacks that were called for it,
and by how much `dl_drops` grew. -/
structure UpRecord where
  payload : UInt32
  handed : List Side
  drops : Nat
  deriving DecidableEq, Repr

structure UserPlane where
  up : UeUpCtx := {}
  transport : UeRanTransportCtx := {}
  /-- `dl_callback` and `internal_dl_callback` are set. -/
  dlCallback : Bool := false
  internalDlCallback : Bool := false
  ulPackets : Nat := 0
  ulBytes : Nat := 0
  ulDrops : Nat := 0
  dlPackets : Nat := 0
  dlBytes : Nat := 0
  dlDrops : Nat := 0
  /-- History: the calls of the two callbacks. -/
  calls : List (Side × Int × Bytes) := []
  /-- History: what became of each DATA PDU. -/
  log : List UpRecord := []

/-! ## Uplink -/

def ueUpSendUplink (s : UserPlane) (packet : Bytes) : UserPlane × Bool :=
  if packet.length = 0 then (s, false)
  else if s.up.state ≠ .active ∨ s.up.hasSession = false then
    ({ s with ulDrops := s.ulDrops + 1 }, false)
  else
    let (transport, sent) := ueRanTransportSendDataPdu s.transport s.up.hostPsi packet
    let s := { s with transport }
    if sent then
      ({ s with ulPackets := s.ulPackets + 1, ulBytes := s.ulBytes + packet.length }, true)
    else ({ s with ulDrops := s.ulDrops + 1 }, false)

def ueUpSendInternalUplink (s : UserPlane) (psi : Nat) (packet : Bytes) : UserPlane × Bool :=
  if packet.length = 0 ∨ psi < 1 ∨ psi > 15 then (s, false)
  else if (s.up.slot psi).used = false ∨ (s.up.slot psi).hostVisible = true then
    ({ s with ulDrops := s.ulDrops + 1 }, false)
  else
    let (transport, sent) := ueRanTransportSendDataPdu s.transport psi packet
    let s := { s with transport }
    if sent then
      ({ s with ulPackets := s.ulPackets + 1, ulBytes := s.ulBytes + packet.length }, true)
    else ({ s with ulDrops := s.ulDrops + 1 }, false)

/-! ## Downlink -/

def UserPlane.call (s : UserPlane) (side : Side) (psi : Int) (packet : Bytes) : UserPlane :=
  { s with calls := s.calls ++ [(side, psi, packet)] }

def UserPlane.drop (s : UserPlane) : UserPlane := { s with dlDrops := s.dlDrops + 1 }

/-- One packet of the loop; `answer` is what the callbacks return. -/
def routeDownlink (s : UserPlane) (answer : Side → Int) (psi : Int) (packet : Bytes) : UserPlane :=
  if psi ≠ s.up.hostPsi then
    if 1 ≤ psi ∧ psi ≤ 15 ∧ (s.up.slot psi.toNat).used = true ∧
        (s.up.slot psi.toNat).hostVisible = false ∧ s.internalDlCallback = true then
      if answer .internal = 0 then s.call .internal psi packet
      else (s.call .internal psi packet).drop
    else s.drop
  else if s.dlCallback then
    if answer .host < 0 then (s.call .host psi packet).drop
    else
      { s.call .host psi packet with
        dlPackets := s.dlPackets + 1, dlBytes := s.dlBytes + packet.length }
  else s.drop

/-- `(int)pdu->payload`. -/
def psiOf (payload : UInt32) : Int := payload.toInt32.toInt

/-- The packet is routed and what became of it is noted. -/
def routeRecorded (s : UserPlane) (answer : Side → Int) (payload : UInt32) (packet : Bytes) :
    UserPlane :=
  let t := routeDownlink s answer (psiOf payload) packet
  { t with
    log := s.log ++ [⟨payload, (t.calls.drop s.calls.length).map (·.1), t.dlDrops - s.dlDrops⟩] }

/-- The loop; every round takes one PDU, and an empty one ends it. -/
def downlinkLoop (answer : Nat → Side → Int) : Nat → UserPlane → UserPlane
  | 0, s => s
  | n + 1, s =>
    match ueRanTransportRecvDataPdu s.transport 16384 with
    | none => s
    | some (payload, packet, transport) =>
      if packet.length = 0 then { s with transport, log := s.log ++ [⟨payload, [], 0⟩] }
      else downlinkLoop answer n (routeRecorded { s with transport } (answer n) payload packet)

/-- Some session is bound, of either side. -/
def anySession (up : UeUpCtx) : Bool :=
  up.hasSession || (List.range' 1 15).any fun i => (up.slot i).used

def downlinkOpen (s : UserPlane) : Bool := anySession s.up && ueRanTransportIsConnected s.transport

def ueUpProcessDownlink (s : UserPlane) (answer : Nat → Side → Int) : UserPlane :=
  if downlinkOpen s then downlinkLoop answer s.transport.dataQueue.length s else s

/-! ## Separation -/

/-- A session is bound on `psi` for this side. -/
def UeUpCtx.BoundFor (up : UeUpCtx) (side : Side) (psi : Nat) : Prop :=
  (up.slot psi).used = true ∧ (up.slot psi).hostVisible = decide (side = .host)

instance (up : UeUpCtx) (side : Side) (psi : Nat) : Decidable (up.BoundFor side psi) :=
  inferInstanceAs (Decidable (_ ∧ _))

/-- The record keeps the two sides apart under the table `up`. -/
structure UpRecord.Permitted (up : UeUpCtx) (r : UpRecord) : Prop where
  bound : ∀ side ∈ r.handed, up.BoundFor side r.payload.toNat
  once : r.handed.length ≤ 1
  counted : r.handed = [] → r.drops = 1

/-- The datagram has the packet in a DATA PDU, under the identity of a session bound for the
side, and for the host under the host's. -/
def Carries (up : UeUpCtx) (side : Side) (packet dgram : Bytes) : Prop :=
  ∃ sti pduId payload, Rls.ueRlsDecode dgram = some (.pduTx sti .data pduId payload packet) ∧
    up.BoundFor side payload.toNat ∧ (side = .host → payload.toNat = up.hostPsi)

/-! ## The machine -/

inductive UpStep where
  | bind (psi : Nat) (dnn pduType : Bytes) (ip : UeEngineRuntimeIp) (hostVisible : Bool)
  | unbind
  | unbindPsi (psi : Nat)
  | tick
  | suspend
  | resume
  | setDlCallback (set : Bool)
  | setInternalDlCallback (set : Bool)
  /-- The transport's threads leave it in any state. -/
  | radio (transport : UeRanTransportCtx)
  | processDownlink (answer : Nat → Side → Int)
  | sendUplink (packet : Bytes)
  | sendInternalUplink (psi : Nat) (packet : Bytes)

def upStep (s : UserPlane) : UpStep → UserPlane
  | .bind psi dnn pduType ip hostVisible =>
    { s with
      up := ueUpBindSessionEx s.up psi dnn pduType ip hostVisible
        (ueRanTransportIsConnected s.transport) }
  | .unbind => { s with up := ueUpUnbindSession s.up }
  | .unbindPsi psi => { s with up := ueUpUnbindSessionPsi s.up psi }
  | .tick => { s with up := ueUpTick s.up (ueRanTransportIsConnected s.transport) }
  | .suspend => { s with up := ueUpSuspend s.up }
  | .resume => { s with up := ueUpResume s.up }
  | .setDlCallback set => { s with dlCallback := set }
  | .setInternalDlCallback set => { s with internalDlCallback := set }
  | .radio transport => { s with transport }
  | .processDownlink answer => ueUpProcessDownlink s answer
  | .sendUplink packet => (ueUpSendUplink s packet).1
  | .sendInternalUplink psi packet => (ueUpSendInternalUplink s psi packet).1

/-- The side that sends, and its packet. -/
def UpStep.sends : UpStep → Option (Side × Bytes)
  | .sendUplink packet => some (.host, packet)
  | .sendInternalUplink _ packet => some (.internal, packet)
  | _ => none

/-- What the step does with packets keeps the sides apart. -/
structure Isolated (s : UserPlane) (e : UpStep) : Prop where
  downlink : ∀ r ∈ (upStep s e).log.drop s.log.length, r.Permitted s.up
  /-- The datagrams that go out are those of the side that sends. -/
  uplink : ∀ side packet, e.sends = some (side, packet) →
    ∃ new, (upStep s e).transport.sent = new ++ s.transport.sent ∧
      ∀ d ∈ new, Carries s.up side packet d.2

/-- The host's identity is that of a session the host sees. -/
def HostBound (up : UeUpCtx) : Prop := up.hasSession = true ∧ (up.slot up.hostPsi).hostVisible = true

instance (up : UeUpCtx) : Decidable (HostBound up) := inferInstanceAs (Decidable (_ ∧ _))

/-- The PDU is not empty, and if it carries the host's identity the host is bound. -/
def Routable (s : UserPlane) (e : UeRanRxEntry) : Prop :=
  e.data ≠ [] ∧ (psiOf e.psi = s.up.hostPsi → s.dlCallback = true → HostBound s.up)

instance (s : UserPlane) (e : UeRanRxEntry) : Decidable (Routable s e) :=
  inferInstanceAs (Decidable (_ ∧ (_ → _ → _)))

/-- Every packet the step reads can be routed. -/
def Separate (s : UserPlane) : UpStep → Prop
  | .processDownlink _ => downlinkOpen s = true → ∀ e ∈ s.transport.dataQueue, Routable s e
  | .sendUplink packet =>
    packet ≠ [] → s.up.state = .active → s.up.hasSession = true → HostBound s.up
  | _ => True

instance (s : UserPlane) : ∀ e, Decidable (Separate s e)
  | .processDownlink _ =>
    inferInstanceAs (Decidable (_ → ∀ e ∈ s.transport.dataQueue, Routable s e))
  | .sendUplink _ => inferInstanceAs (Decidable (_ → _ → _ → _))
  | .bind .. | .unbind | .unbindPsi _ | .tick | .suspend | .resume | .setDlCallback _
  | .setInternalDlCallback _ | .radio _ | .sendInternalUplink .. => isTrue trivial

/-! ## The table -/

/-- The table of any run: the host's session is in it, and slot 0 is never bound. -/
structure Table (up : UeUpCtx) : Prop where
  wf : up.Wf
  zero : (up.slot 0).used = false

theorem bindState_slot (up : UeUpCtx) (connected : Bool) (q : Nat) :
    (bindState up connected).slot q = up.slot q := by
  unfold bindState
  repeat' split
  all_goals rfl

theorem bindState_hostPsi (up : UeUpCtx) (connected : Bool) :
    (bindState up connected).hostPsi = up.hostPsi := by
  unfold bindState
  repeat' split
  all_goals rfl

theorem ueUpBindSessionEx_slot_of_ne (up : UeUpCtx) {psi q : Nat} (dnn pduType : Bytes)
    (ip : UeEngineRuntimeIp) (hostVisible connected : Bool) (h : q ≠ psi) :
    (ueUpBindSessionEx up psi dnn pduType ip hostVisible connected).slot q = up.slot q := by
  unfold ueUpBindSessionEx
  split
  · rfl
  · dsimp only
    rw [bindState_slot]
    split
    · exact slot_setSlot_of_ne up _ h
    · exact slot_setSlot_of_ne up _ h

theorem ueUpTick_slot (up : UeUpCtx) (connected : Bool) (q : Nat) :
    (ueUpTick up connected).slot q = up.slot q := by
  unfold ueUpTick
  repeat' split
  all_goals rfl

theorem ueUpSuspend_slot (up : UeUpCtx) (q : Nat) : (ueUpSuspend up).slot q = up.slot q := by
  unfold ueUpSuspend
  split <;> rfl

theorem ueUpResume_slot (up : UeUpCtx) (q : Nat) : (ueUpResume up).slot q = up.slot q := by
  unfold ueUpResume
  split <;> rfl

theorem Table.init : Table {} where
  wf := ⟨nofun, fun _ => ⟨rfl, rfl, rfl⟩⟩
  zero := rfl

theorem Table.bind (h : Table up) (psi : Nat) (dnn pduType : Bytes) (ip : UeEngineRuntimeIp)
    (hostVisible connected : Bool) :
    Table (ueUpBindSessionEx up psi dnn pduType ip hostVisible connected) where
  wf := ueUpBindSessionEx_wf h.wf psi dnn pduType ip hostVisible connected
  zero := by
    by_cases hpsi : 0 = psi
    · subst hpsi
      exact h.zero
    · rw [ueUpBindSessionEx_slot_of_ne up dnn pduType ip hostVisible connected hpsi]
      exact h.zero

theorem Table.unbind (h : Table up) : Table (ueUpUnbindSession up) where
  wf := ueUpUnbindSession_wf up
  zero := by
    rw [ueUpUnbindSession_slot, if_neg (by omega)]
    exact h.zero

theorem Table.unbindPsi (h : Table up) (psi : Nat) :
    Table (ueUpUnbindSessionPsi up psi) where
  wf := ueUpUnbindSessionPsi_wf h.wf psi
  zero := by
    by_cases hpsi : 0 = psi
    · subst hpsi
      exact h.zero
    · rw [ueUpUnbindSessionPsi_slot_of_ne up hpsi]
      exact h.zero

/-! ## One packet -/

theorem psiOf_eq_natCast {payload : UInt32} {k : Nat} (hk : k < 2 ^ 31) :
    psiOf payload = k ↔ payload.toNat = k := by
  have hint : psiOf payload = payload.toBitVec.toInt := rfl
  have hnat : payload.toBitVec.toNat = payload.toNat := rfl
  have hlt : payload.toNat < 2 ^ 32 := payload.toNat_lt
  rw [hint, BitVec.toInt_eq_toNat_cond, hnat]
  split <;> omega

/-- The callback that the loop calls for a packet. -/
def routedTo (s : UserPlane) (psi : Int) : Option Side :=
  if psi ≠ s.up.hostPsi then
    if 1 ≤ psi ∧ psi ≤ 15 ∧ (s.up.slot psi.toNat).used = true ∧
        (s.up.slot psi.toNat).hostVisible = false ∧ s.internalDlCallback = true then
      some .internal
    else none
  else if s.dlCallback then some .host
  else none

/-- One packet: at most one call, and a drop is counted if there is none. -/
theorem routeDownlink_routedTo (s : UserPlane) (answer : Side → Int) (psi : Int) (packet : Bytes) :
    ∃ drops dlPackets dlBytes, (routedTo s psi = none → drops = 1) ∧
      routeDownlink s answer psi packet =
        { s with
          calls := s.calls ++ (routedTo s psi).toList.map fun side => (side, psi, packet)
          dlDrops := s.dlDrops + drops, dlPackets, dlBytes } := by
  unfold routeDownlink routedTo
  split
  · split
    · split
      · exact ⟨0, s.dlPackets, s.dlBytes, nofun, rfl⟩
      · exact ⟨1, s.dlPackets, s.dlBytes, nofun, rfl⟩
    · exact ⟨1, s.dlPackets, s.dlBytes, fun _ => rfl, by simp [UserPlane.drop]⟩
  · split
    · split
      · exact ⟨1, s.dlPackets, s.dlBytes, nofun, rfl⟩
      · exact ⟨0, _, _, nofun, rfl⟩
    · exact ⟨1, s.dlPackets, s.dlBytes, fun _ => rfl, by simp [UserPlane.drop]⟩

/-- The host's identity is never outside the table. -/
theorem Table.hostPsi_le (h : Table up) : up.hostPsi ≤ 15 := by
  by_cases hhas : up.hasSession = true
  · exact (h.wf.bound hhas).2.1
  · rw [(h.wf.unbound (by simpa using hhas)).2.1]
    omega

/-- Being bound on the host's identity is having a host session there: identity 0 of an
unbound host is not a session. -/
theorem Table.boundFor_hostPsi (h : Table up) : up.BoundFor .host up.hostPsi ↔ HostBound up := by
  by_cases hhas : up.hasSession = true
  · have hused := (h.wf.bound hhas).2.2
    simp [UeUpCtx.BoundFor, HostBound, hhas, hused]
  · have hzero := (h.wf.unbound (by simpa using hhas)).2.1
    simp [UeUpCtx.BoundFor, HostBound, hhas, hzero, h.zero]

theorem routedTo_permitted (h : Table s.up) {payload : UInt32} {drops : Nat}
    (hdrops : routedTo s (psiOf payload) = none → drops = 1)
    (hhost : psiOf payload = s.up.hostPsi → s.dlCallback = true → HostBound s.up) :
    UpRecord.Permitted s.up ⟨payload, (routedTo s (psiOf payload)).toList, drops⟩ := by
  refine ⟨?_, by cases routedTo s (psiOf payload) <;> simp, fun hnone => hdrops ?_⟩
  · intro side hside
    rw [Option.mem_toList, routedTo] at hside
    by_cases hpsi : psiOf payload = s.up.hostPsi
    · rw [if_neg (not_not.mpr hpsi)] at hside
      have hle := h.hostPsi_le
      have hnat := (psiOf_eq_natCast (by omega)).mp hpsi
      obtain ⟨hcb, hhostSide⟩ := Option.ite_none_right_eq_some.mp hside
      cases hhostSide
      dsimp only
      rw [hnat]
      exact h.boundFor_hostPsi.mpr (hhost hpsi hcb)
    · rw [if_pos hpsi] at hside
      obtain ⟨⟨hlow, hhigh, hused, hvisible, -⟩, hinternal⟩ :=
        Option.ite_none_right_eq_some.mp hside
      cases hinternal
      have hnat : payload.toNat = (psiOf payload).toNat :=
        (psiOf_eq_natCast (by omega)).mp (by omega)
      dsimp only
      rw [hnat]
      exact ⟨hused, hvisible⟩
  · exact Option.toList_eq_nil_iff.mp hnone

/-! ## The loop -/

/-- One round on a PDU that is not empty. -/
theorem routeRecorded_eq (s : UserPlane) (answer : Side → Int) (payload : UInt32) (packet : Bytes) :
    ∃ drops dlPackets dlBytes calls, (routedTo s (psiOf payload) = none → drops = 1) ∧
      routeRecorded s answer payload packet =
        { s with
          calls, dlDrops := s.dlDrops + drops, dlPackets, dlBytes
          log := s.log ++ [⟨payload, (routedTo s (psiOf payload)).toList, drops⟩] } := by
  obtain ⟨drops, dlPackets, dlBytes, hdrops, heq⟩ :=
    routeDownlink_routedTo s answer (psiOf payload) packet
  refine ⟨drops, dlPackets, dlBytes,
    s.calls ++ (routedTo s (psiOf payload)).toList.map fun side => (side, psiOf payload, packet),
    hdrops, ?_⟩
  unfold routeRecorded
  rw [heq]
  simp [Function.comp_def]

/-- The loop leaves the table alone, and keeps the sides apart if it can route every PDU. -/
theorem downlinkLoop_permitted (answer : Nat → Side → Int) (h : Table s.up) :
    (downlinkLoop answer s.transport.dataQueue.length s).up = s.up ∧
      ∃ records, (downlinkLoop answer s.transport.dataQueue.length s).log = s.log ++ records ∧
        ((∀ e ∈ s.transport.dataQueue, Routable s e) → ∀ r ∈ records, r.Permitted s.up) := by
  generalize hqueue : s.transport.dataQueue = queue
  induction queue generalizing s with
  | nil => exact ⟨rfl, [], (List.append_nil _).symm, fun _ _ hr => (by cases hr)⟩
  | cons e rest ih =>
    have hrecv : ueRanTransportRecvDataPdu s.transport 16384 =
        some (e.psi, e.data.take 16384, { s.transport with dataQueue := rest }) := by
      unfold ueRanTransportRecvDataPdu
      rw [hqueue]
    rw [List.length_cons, downlinkLoop, hrecv]
    dsimp only
    by_cases hempty : e.data = []
    · -- nobody gets it and nobody counts it
      rw [if_pos (by rw [hempty]; rfl)]
      exact ⟨rfl, [⟨e.psi, [], 0⟩], rfl, fun hall => absurd hempty (hall e List.mem_cons_self).1⟩
    · rw [if_neg (by simpa using hempty)]
      obtain ⟨drops, dlPackets, dlBytes, calls, hdrops, heq⟩ := routeRecorded_eq
        { s with transport := { s.transport with dataQueue := rest } } (answer rest.length) e.psi
        (e.data.take 16384)
      rw [heq]
      obtain ⟨hup, records, hlog, hrecords⟩ := ih (s := { s with
          transport := { s.transport with dataQueue := rest }
          calls, dlDrops := s.dlDrops + drops, dlPackets, dlBytes
          log := s.log ++ [⟨e.psi, (routedTo s (psiOf e.psi)).toList, drops⟩] }) h rfl
      refine ⟨hup, ⟨e.psi, (routedTo s (psiOf e.psi)).toList, drops⟩ :: records, ?_, fun hall => ?_⟩
      · exact hlog.trans (List.append_cons _ _ _).symm
      · obtain ⟨hfirst, hrest⟩ := List.forall_mem_cons.mp hall
        exact List.forall_mem_cons.mpr ⟨routedTo_permitted h hdrops hfirst.2, hrecords hrest⟩

/-! ## Uplink datagrams -/

/-- What goes out carries the packet and the identity. -/
theorem ueRanTransportSendDataPdu_carries (t : UeRanTransportCtx) (packet : Bytes) {psi : Nat}
    {side : Side} (hbound : up.BoundFor side psi) (hhost : side = .host → psi = up.hostPsi) :
    ∃ new, (ueRanTransportSendDataPdu t psi packet).1.sent = new ++ t.sent ∧
      ∀ d ∈ new, Carries up side packet d.2 := by
  have hnone : ∃ new, t.sent = new ++ t.sent ∧ ∀ d ∈ new, Carries up side packet d.2 :=
    ⟨[], rfl, fun _ hd => (by cases hd)⟩
  unfold ueRanTransportSendDataPdu
  split_ifs with hempty hrange
  · exact hnone
  · exact hnone
  split
  · exact hnone
  split
  · exact hnone
  · rename_i dgram hencode
    have hword : (UInt32.ofNat (psi : Int).toNat).toNat = psi := by
      rw [Int.toNat_natCast]
      exact UInt32.toNat_ofNat_of_lt' (Nat.lt_of_le_of_lt (by omega : psi ≤ 15) (by decide))
    have hcarries : Carries up side packet dgram :=
      ⟨_, _, _, Rls.ueRlsDecode_encodePduTransmission hencode, hword.symm ▸ hbound,
        fun h => hword.trans (hhost h)⟩
    have hsent (addr : SockAddrIn) : ∃ new, (sendToAddr t addr dgram).1.sent = new ++ t.sent ∧
        ∀ d ∈ new, Carries up side packet d.2 := by
      unfold sendToAddr
      split
      · exact hnone
      · exact ⟨[(addr, dgram)], rfl, fun d hd => (List.mem_singleton.mp hd) ▸ hcarries⟩
    dsimp only
    split
    · exact hsent _
    · exact hsent _

/-- What the host sends goes out under the identity of its own session. -/
theorem ueUpSendUplink_isolated (h : Table s.up) (packet : Bytes) :
    (ueUpSendUplink s packet).1.up = s.up ∧ (ueUpSendUplink s packet).1.log = s.log ∧
      (Separate s (.sendUplink packet) →
        ∃ new, (ueUpSendUplink s packet).1.transport.sent = new ++ s.transport.sent ∧
          ∀ d ∈ new, Carries s.up .host packet d.2) := by
  unfold ueUpSendUplink
  split
  · exact ⟨rfl, rfl, fun _ => ⟨[], rfl, fun _ hd => (by cases hd)⟩⟩
  split
  · exact ⟨rfl, rfl, fun _ => ⟨[], rfl, fun _ hd => (by cases hd)⟩⟩
  · rename_i hempty hopen
    obtain ⟨hactive, hhas⟩ : s.up.state = .active ∧ s.up.hasSession = true := by simpa using hopen
    have hsends (hsep : Separate s (.sendUplink packet)) :=
      ueRanTransportSendDataPdu_carries s.transport packet (h.boundFor_hostPsi.mpr
        (hsep (fun hnil => hempty (by rw [hnil]; rfl)) hactive hhas)) fun _ => rfl
    dsimp only
    split
    · exact ⟨rfl, rfl, hsends⟩
    · exact ⟨rfl, rfl, hsends⟩

/-- What the IMS service sends goes out under the identity of an internal session. -/
theorem ueUpSendInternalUplink_isolated (s : UserPlane) (psi : Nat) (packet : Bytes) :
    (ueUpSendInternalUplink s psi packet).1.up = s.up ∧
      (ueUpSendInternalUplink s psi packet).1.log = s.log ∧
      ∃ new, (ueUpSendInternalUplink s psi packet).1.transport.sent = new ++ s.transport.sent ∧
        ∀ d ∈ new, Carries s.up .internal packet d.2 := by
  unfold ueUpSendInternalUplink
  split
  · exact ⟨rfl, rfl, [], rfl, fun _ hd => (by cases hd)⟩
  split
  · exact ⟨rfl, rfl, [], rfl, fun _ hd => (by cases hd)⟩
  · rename_i hclosed
    have hbound : s.up.BoundFor .internal psi :=
      ⟨by simpa using fun h => hclosed (Or.inl h), by simpa using fun h => hclosed (Or.inr h)⟩
    have hsends := ueRanTransportSendDataPdu_carries s.transport packet hbound
      (fun h => by cases h)
    dsimp only
    split
    · exact ⟨rfl, rfl, hsends⟩
    · exact ⟨rfl, rfl, hsends⟩

/-! ## Whole runs -/

/-- What a step does to the table, and to the two sides. -/
theorem upStep_isolated (h : Table s.up) (e : UpStep) :
    Table (upStep s e).up ∧ (Separate s e → Isolated s e) := by
  have hquiet {e : UpStep} (hlog : (upStep s e).log = s.log) (hsends : e.sends = none) :
      Isolated s e := by
    refine ⟨fun r hr => ?_, fun side packet hside => ?_⟩
    · rw [hlog, List.drop_length] at hr
      cases hr
    · rw [hsends] at hside
      cases hside
  cases e with
  | bind psi dnn pduType ip hostVisible =>
    exact ⟨h.bind psi dnn pduType ip hostVisible _, fun _ => hquiet rfl rfl⟩
  | unbind => exact ⟨h.unbind, fun _ => hquiet rfl rfl⟩
  | unbindPsi psi => exact ⟨h.unbindPsi psi, fun _ => hquiet rfl rfl⟩
  | tick =>
    refine ⟨⟨ueUpTick_wf h.wf _, ?_⟩, fun _ => hquiet rfl rfl⟩
    exact (congrArg UeUpSession.used (ueUpTick_slot _ _ 0)).trans h.zero
  | suspend =>
    refine ⟨⟨ueUpSuspend_wf h.wf, ?_⟩, fun _ => hquiet rfl rfl⟩
    exact (congrArg UeUpSession.used (ueUpSuspend_slot _ 0)).trans h.zero
  | resume =>
    refine ⟨⟨ueUpResume_wf h.wf, ?_⟩, fun _ => hquiet rfl rfl⟩
    exact (congrArg UeUpSession.used (ueUpResume_slot _ 0)).trans h.zero
  | setDlCallback set => exact ⟨h, fun _ => hquiet rfl rfl⟩
  | setInternalDlCallback set => exact ⟨h, fun _ => hquiet rfl rfl⟩
  | radio transport => exact ⟨h, fun _ => hquiet rfl rfl⟩
  | processDownlink answer =>
    by_cases hopen : downlinkOpen s = true
    · have hstep : upStep s (.processDownlink answer) =
          downlinkLoop answer s.transport.dataQueue.length s := if_pos hopen
      obtain ⟨hup, records, hlog, hrecords⟩ := downlinkLoop_permitted answer h
      refine ⟨?_, fun hsep => ⟨?_, fun _ _ hside => (by cases hside)⟩⟩
      · rw [hstep, hup]
        exact h
      · rw [hstep, hlog, List.drop_left]
        exact hrecords (hsep hopen)
    · have hstep : upStep s (.processDownlink answer) = s := if_neg hopen
      refine ⟨?_, fun _ => hquiet (congrArg UserPlane.log hstep) rfl⟩
      rw [hstep]
      exact h
  | sendUplink packet =>
    obtain ⟨hup, hlog, hsent⟩ := ueUpSendUplink_isolated h packet
    have hlog : (upStep s (.sendUplink packet)).log = s.log := hlog
    refine ⟨hup ▸ h, fun hsep => ⟨fun r hr => ?_, fun side _ hside => ?_⟩⟩
    · rw [hlog, List.drop_length] at hr
      cases hr
    · cases hside
      exact hsent hsep
  | sendInternalUplink psi packet =>
    obtain ⟨hup, hlog, hsent⟩ := ueUpSendInternalUplink_isolated s psi packet
    have hlog : (upStep s (.sendInternalUplink psi packet)).log = s.log := hlog
    refine ⟨hup ▸ h, fun _ => ⟨fun r hr => ?_, fun side _ hside => ?_⟩⟩
    · rw [hlog, List.drop_length] at hr
      cases hr
    · cases hside
      exact hsent

/-- From an empty table, the packets of a run are kept apart as long as every step can route
what it reads. -/
theorem upRun_isolated (s : UserPlane) (es : List UpStep) (hinit : s.up = {})
    (h : Along upStep Separate s es) : Along upStep Isolated s es :=
  along_of_invariant (I := fun s => Table s.up) (fun _ e ht _ => (upStep_isolated ht e).1)
    (fun _ e ht hsep => (upStep_isolated ht e).2 hsep) (hinit ▸ Table.init) h

/-- A link to one cell, with a packet for each of two sessions. -/
def linkOfTwo : UeRanTransportCtx where
  state := .connected
  cells := (Vector.replicate 16 {}).setIfInBounds 0
    { valid := true, cellId := 1, addr := some ⟨Vector.replicate 4 9, 4997⟩ }
  servingCellId := 1
  socketOpen := true
  dataQueue := [⟨.data, 1, 0, [0x45]⟩, ⟨.data, 5, 0, [0x45]⟩]

/-- Two sessions, one for each side, and packets in both directions. -/
def twoSessions : List UpStep :=
  [.bind 1 [] [] {} true, .bind 5 [] [] {} false, .setDlCallback true, .setInternalDlCallback true,
    .radio linkOfTwo, .tick, .processDownlink fun _ _ => 0, .sendUplink [0x45],
    .sendInternalUplink 5 [0x45]]

theorem upRun_isolated_two :
    (run upStep {} twoSessions).calls = [(.host, 1, [0x45]), (.internal, 5, [0x45])] ∧
      (run upStep {} twoSessions).transport.sent.length = 2 ∧
      Along upStep Isolated {} twoSessions :=
  ⟨by decide +kernel, by decide +kernel, upRun_isolated {} twoSessions rfl (by decide +kernel)⟩

/-- A DATA PDU with payload 0 while only an internal session is bound. -/
def unboundHost : List UpStep :=
  [.bind 5 [] [] {} false, .setDlCallback true, .setInternalDlCallback true,
    .radio { state := .connected, dataQueue := [⟨.data, 0, 0, [0x45]⟩] },
    .processDownlink fun _ _ => 0]

/-- The identity 0 of an unbound host matches, and the host gets a packet. -/
theorem unboundHost_handed :
    ¬ ∀ (s : UserPlane) (es : List UpStep), s.up = {} → Along upStep Isolated s es := by
  intro h
  obtain ⟨-, -, -, -, hisolated, -⟩ := h {} unboundHost rfl
  have hbound := (hisolated.downlink ⟨0, [.host], 0⟩ (by decide)).bound .host (by decide)
  revert hbound
  decide

/-! ## The host's session -/

/-- No internal session is bound over the host's. -/
def KeepsHost (s : UserPlane) : UpStep → Prop
  | .bind psi _ _ _ hostVisible => hostVisible = false → psi ≠ s.up.hostPsi
  | _ => True

/-- The session of the host is one the host sees. -/
def HostVisible (up : UeUpCtx) : Prop :=
  up.hasSession = true → (up.slot up.hostPsi).hostVisible = true

theorem HostVisible.bind (h : HostVisible up) {psi : Nat} (dnn pduType : Bytes)
    (ip : UeEngineRuntimeIp) {hostVisible : Bool} (connected : Bool)
    (hkeeps : hostVisible = false → psi ≠ up.hostPsi) :
    HostVisible (ueUpBindSessionEx up psi dnn pduType ip hostVisible connected) := by
  cases hostVisible with
  | false =>
    obtain ⟨-, hhas, hpsi⟩ := ueUpBindSessionEx_host up psi dnn pduType ip connected
    intro hbound
    rw [hpsi, ueUpBindSessionEx_slot_of_ne up dnn pduType ip false connected (hkeeps rfl).symm]
    exact h (hhas ▸ hbound)
  | true =>
    unfold ueUpBindSessionEx
    split
    · exact h
    · rename_i hrange
      have hslot : psi < 16 := by omega
      intro _
      dsimp only
      rw [bindState_slot, bindState_hostPsi, if_pos rfl]
      exact congrArg UeUpSession.hostVisible (slot_setSlot_self up _ hslot)

theorem HostVisible.unbindPsi (h : HostVisible up) (hwf : up.Wf) (psi : Nat) :
    HostVisible (ueUpUnbindSessionPsi up psi) := by
  intro hbound
  rw [ueUpUnbindSessionPsi_hasSession hwf] at hbound
  obtain ⟨hhas, hne⟩ : up.hasSession = true ∧ up.hostPsi ≠ psi := by simpa using hbound
  rw [(ueUpUnbindSessionPsi_host hne).2.2, ueUpUnbindSessionPsi_slot_of_ne up hne]
  exact h hhas

theorem HostVisible.step (htable : Table s.up) (h : HostVisible s.up) {e : UpStep}
    (hkeeps : KeepsHost s e) : HostVisible (upStep s e).up := by
  cases e with
  | bind psi dnn pduType ip hostVisible => exact h.bind dnn pduType ip _ hkeeps
  | unbind => exact nofun
  | unbindPsi psi => exact h.unbindPsi htable.wf psi
  | tick =>
    simp only [upStep, ueUpTick]
    repeat' split
    all_goals exact h
  | suspend =>
    simp only [upStep, ueUpSuspend]
    split <;> exact h
  | resume =>
    simp only [upStep, ueUpResume]
    split <;> exact h
  | setDlCallback set => exact h
  | setInternalDlCallback set => exact h
  | radio transport => exact h
  | processDownlink answer =>
    simp only [upStep, ueUpProcessDownlink]
    split
    · rw [(downlinkLoop_permitted answer htable).1]
      exact h
    · exact h
  | sendUplink packet => exact (ueUpSendUplink_isolated htable packet).1 ▸ h
  | sendInternalUplink psi packet => exact (ueUpSendInternalUplink_isolated s psi packet).1 ▸ h

/-- As long as no internal session is bound over the host's, a bound host is `HostBound`. -/
theorem upRun_hostSession (s : UserPlane) (es : List UpStep) (hinit : s.up = {})
    (hkeeps : Along upStep KeepsHost s es) (hbound : (run upStep s es).up.hasSession = true) :
    HostBound (run upStep s es).up := by
  have hinv := run_invariant (I := fun s => Table s.up ∧ HostVisible s.up)
    (fun s e h hk => ⟨(upStep_isolated h.1 e).1, h.2.step h.1 hk⟩)
    ⟨hinit ▸ Table.init, hinit ▸ nofun⟩ hkeeps
  exact ⟨hbound, hinv.2 hbound⟩

theorem upRun_hostSession_two : HostBound (run upStep {} twoSessions).up :=
  upRun_hostSession {} twoSessions rfl
    ⟨nofun, fun _ => by decide, trivial, trivial, trivial, trivial, trivial, trivial, trivial,
      trivial⟩ (by decide +kernel)

end VirtualLte.Up
