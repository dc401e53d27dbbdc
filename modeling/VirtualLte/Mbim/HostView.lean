import VirtualLte.Mbim.Builder
import VirtualLte.Mbim.ChannelSteps

/-!
# What the host believes of the modem

The bridge tells the host about the modem by indications, one for each edge it sees
between two polls, through a queue of fifteen.

* `registrationView` and `packetServiceView` are what the last indication of each kind
  says.
* `Follower` is the bridge between an engine that changes as it likes and a host that is
  sent what the queue holds; `drainBridgeIndications_emits` connects its drain with the
  channel's.
* `Follower.Synced` says that what was sent and what is queued amount to the state at the
  last poll.  `Heard` are the steps that keep it.
* `followerRun_converged`: along such steps a drained queue leaves the host with the
  modem's state.
-/

namespace VirtualLte.Mbim

open Transition Mm Sm

/-! ## Views -/

inductive Registration where
  | deregistered
  | searching
  | home
  deriving DecidableEq, Repr

inductive PacketService where
  | detached
  | attaching
  | attached
  deriving DecidableEq, Repr

def registrationOf : UeMmState → Registration
  | .registeredHome => .home
  | .searching | .registering => .searching
  | .poweredOff | .simNotReady | .deregistered => .deregistered

def packetServiceOf : UeSmState → PacketService
  | .active => .attached
  | .establishing => .attaching
  | .inactive | .releasing => .detached

def MbimBridgeIndication.registration : MbimBridgeIndication → Option Registration
  | .registerSearching => some .searching
  | .registerDeregistered => some .deregistered
  | .registerHome => some .home
  | _ => none

def MbimBridgeIndication.packetService : MbimBridgeIndication → Option PacketService
  | .packetAttaching => some .attaching
  | .packetAttached => some .attached
  | .packetDetached => some .detached
  | _ => none

/-- What the last indication with something to say says; `d` if none did. -/
def lastHeard {α : Type} (f : MbimBridgeIndication → Option α) (d : α)
    (inds : List MbimBridgeIndication) : α :=
  (inds.filterMap f).getLast?.getD d

/-- A host that heard nothing takes the modem for deregistered. -/
def registrationView (inds : List MbimBridgeIndication) : Registration :=
  lastHeard (·.registration) .deregistered inds

def packetServiceView (inds : List MbimBridgeIndication) : PacketService :=
  lastHeard (·.packetService) .detached inds

section LastHeard

variable {α : Type} {f : MbimBridgeIndication → Option α} {d v : α} {ind : MbimBridgeIndication}
  (inds : List MbimBridgeIndication)

theorem lastHeard_concat_some (h : f ind = some v) : lastHeard f d (inds ++ [ind]) = v := by
  simp [lastHeard, List.filterMap_append, h]

theorem lastHeard_concat_none (h : f ind = none) :
    lastHeard f d (inds ++ [ind]) = lastHeard f d inds := by
  simp [lastHeard, List.filterMap_append, h]

theorem filterMap_erase (h : f ind = none) : (inds.erase ind).filterMap f = inds.filterMap f := by
  induction inds with
  | nil => rfl
  | cons x inds ih =>
    by_cases hx : x = ind
    · rw [hx, List.erase_cons_head, List.filterMap_cons_none h]
    · rw [List.erase_cons_tail (by simpa using hx), List.filterMap_cons, List.filterMap_cons, ih]

/-- Removing what says nothing about `f` does not change the view. -/
theorem lastHeard_erase (queue : List MbimBridgeIndication) (h : f ind = none) :
    lastHeard f d (inds ++ queue.erase ind) = lastHeard f d (inds ++ queue) := by
  rw [lastHeard, List.filterMap_append, filterMap_erase queue h, ← List.filterMap_append]
  rfl

end LastHeard

/-! ## The machine -/

/-- The bridge, the engine's snapshot, and the indications the host was sent. -/
structure Follower where
  bridge : StateBridge := {}
  snap : UeEngineSnapshot := {}
  emitted : List MbimBridgeIndication := []
  /-- History: nothing happened to the engine since the last poll. -/
  polled : Bool := false
  /-- History: the host asked for a registration since the last poll. -/
  asked : Bool := false

inductive FollowerStep where
  /-- The engine changes to any state. -/
  | engine (snap : UeEngineSnapshot)
  | requestRegister
  | poll
  /-- One run of the drain, with `room` free entries in the response queue. -/
  | drain (room : Nat)

def followerStep (s : Follower) : FollowerStep → Follower
  | .engine snap => { s with snap, polled := false }
  | .requestRegister =>
    { s with bridge := bridgeCall s.bridge .requestRegister, polled := false, asked := true }
  | .poll => { s with bridge := stateBridgePoll s.bridge s.snap, polled := true, asked := false }
  | .drain room =>
    { s with
      bridge := { s.bridge with indQueue := s.bridge.indQueue.drop room }
      emitted := s.emitted ++ s.bridge.indQueue.take room }

/-- With everything sent, the host knows the state the bridge polled. -/
def Follower.Converged (s : Follower) : Prop :=
  s.polled = true → s.bridge.indQueue = [] →
    registrationView s.emitted = registrationOf s.snap.mmState ∧
      packetServiceView s.emitted = packetServiceOf s.snap.smState

/-! ## Which steps are heard -/

/-- Registered home at one poll and not at the other. -/
def registrationEdge (prev mm : UeMmState) : Bool :=
  (prev = .registeredHome) != (mm = .registeredHome)

def packetServiceEdge (prev sm : UeSmState) : Bool := packetServiceOf prev ≠ packetServiceOf sm

/-- The poll sees an edge into or out of REGISTERED_HOME, or nothing changed; searching is
told only by a register request. -/
def RegistrationHeard (prev mm : UeMmState) (asked : Bool) : Prop :=
  (prev ≠ .registeredHome ∧ mm = .registeredHome) ∨
    (prev = .registeredHome ∧ registrationOf mm = .deregistered) ∨
    (asked = false ∧ registrationOf prev = registrationOf mm) ∨
    (asked = true ∧ prev ≠ .registeredHome ∧ registrationOf mm = .searching)

/-- The poll sees an edge into ACTIVE, out of ACTIVE to rest, or from rest to ESTABLISHING,
or nothing changed. -/
def PacketServiceHeard (prev sm : UeSmState) : Prop :=
  packetServiceOf prev = packetServiceOf sm ∨ sm = .active ∨
    (prev = .active ∧ packetServiceOf sm = .detached) ∨
    (packetServiceOf prev = .detached ∧ sm = .establishing)

/-- The step's indications have room in the queue, and they tell what changed. -/
def Heard (s : Follower) : FollowerStep → Prop
  | .engine _ => True
  | .requestRegister => s.bridge.indQueue.length < bridgeQueueRoom
  | .poll =>
    RegistrationHeard s.bridge.prevMm s.snap.mmState s.asked ∧
      PacketServiceHeard s.bridge.prevSm s.snap.smState ∧
      s.bridge.indQueue.length + (registrationEdge s.bridge.prevMm s.snap.mmState).toNat +
        (packetServiceEdge s.bridge.prevSm s.snap.smState).toNat ≤ bridgeQueueRoom
  | .drain _ => True

instance Heard.decidable (s : Follower) : ∀ e, Decidable (Heard s e)
  | .engine _ => isTrue trivial
  | .requestRegister =>
    inferInstanceAs (Decidable (s.bridge.indQueue.length < bridgeQueueRoom))
  | .poll => by
    unfold Heard RegistrationHeard PacketServiceHeard
    infer_instance
  | .drain _ => isTrue trivial

/-! ## One poll -/

/-- The first half of a poll. -/
def pollRegistration (b : StateBridge) (mm : UeMmState) : StateBridge :=
  let b :=
    if b.prevMm ≠ .registeredHome ∧ mm = .registeredHome then indEnqueue b .registerHome else b
  if b.prevMm = .registeredHome ∧ mm ≠ .registeredHome then indEnqueue b .registerDeregistered
  else b

/-- The second half. -/
def pollPacketService (b : StateBridge) (sm : UeSmState) : StateBridge :=
  let b :=
    if b.prevSm ≠ .establishing ∧ sm = .establishing then indEnqueue b .packetAttaching else b
  let b :=
    if b.prevSm ≠ .active ∧ sm = .active then
      indEnqueue (indDropFirst b .packetAttaching) .packetAttached
    else b
  if b.prevSm = .active ∧ sm ≠ .active then
    indEnqueue (indDropFirst b .packetAttaching) .packetDetached
  else b

theorem stateBridgePoll_eq (b : StateBridge) (snap : UeEngineSnapshot) :
    stateBridgePoll b snap =
      { pollPacketService (pollRegistration b snap.mmState) snap.smState with
        prevMm := snap.mmState, prevSm := snap.smState } := rfl

section Poll

variable {b : StateBridge}

theorem indEnqueue_room {ind : MbimBridgeIndication} (h : b.indQueue.length < bridgeQueueRoom) :
    indEnqueue b ind = { b with indQueue := b.indQueue ++ [ind] } :=
  if_neg (Nat.not_le.mpr h)

theorem registrationOf_eq_home {mm : UeMmState} : registrationOf mm = .home ↔ mm = .registeredHome := by
  cases mm <;> decide

theorem packetServiceOf_eq_attached {sm : UeSmState} : packetServiceOf sm = .attached ↔ sm = .active := by
  cases sm <;> decide

theorem packetServiceOf_eq_attaching {sm : UeSmState} :
    packetServiceOf sm = .attaching ↔ sm = .establishing := by
  cases sm <;> decide

/-- The registration half appends at most one indication, which says what changed. -/
theorem pollRegistration_heard {mm : UeMmState} {asked : Bool} (sent : List MbimBridgeIndication)
    (hheard : RegistrationHeard b.prevMm mm asked)
    (hroom : b.indQueue.length + (registrationEdge b.prevMm mm).toNat ≤ bridgeQueueRoom)
    (hview : registrationView (sent ++ b.indQueue) =
      if asked then .searching else registrationOf b.prevMm) :
    ∃ inds, pollRegistration b mm = { b with indQueue := b.indQueue ++ inds } ∧
      inds.length = (registrationEdge b.prevMm mm).toNat ∧
      registrationView (sent ++ (b.indQueue ++ inds)) = registrationOf mm ∧
      packetServiceView (sent ++ (b.indQueue ++ inds)) = packetServiceView (sent ++ b.indQueue) := by
  rcases hheard with ⟨hprev, rfl⟩ | ⟨hprev, hmm⟩ | ⟨hasked, hsame⟩ | ⟨hasked, hprev, hmm⟩
  · have hedge : registrationEdge b.prevMm .registeredHome = true := by
      simp [registrationEdge, hprev]
    rw [hedge] at hroom ⊢
    refine ⟨[.registerHome], ?_, rfl, ?_, ?_⟩
    · simp [pollRegistration, hprev, indEnqueue_room hroom]
    · rw [← List.append_assoc]
      exact lastHeard_concat_some _ rfl
    · rw [← List.append_assoc]
      exact lastHeard_concat_none _ rfl
  · have hne : mm ≠ .registeredHome := by
      rintro rfl
      cases hmm
    have hedge : registrationEdge b.prevMm mm = true := by simp [registrationEdge, hprev, hne]
    rw [hedge] at hroom ⊢
    refine ⟨[.registerDeregistered], ?_, rfl, ?_, ?_⟩
    · simp [pollRegistration, hprev, hne, indEnqueue_room hroom]
    · rw [← List.append_assoc, hmm]
      exact lastHeard_concat_some _ rfl
    · rw [← List.append_assoc]
      exact lastHeard_concat_none _ rfl
  · have hboth : b.prevMm = .registeredHome ↔ mm = .registeredHome := by
      rw [← registrationOf_eq_home, ← registrationOf_eq_home, hsame]
    have hedge : registrationEdge b.prevMm mm = false := by simp [registrationEdge, hboth]
    rw [hasked, if_neg (by decide), hsame] at hview
    rw [hedge]
    refine ⟨[], ?_, rfl, ?_, ?_⟩
    · simp [pollRegistration, hboth]
    · rw [List.append_nil, hview]
    · rw [List.append_nil]
  · have hne : mm ≠ .registeredHome := by
      rintro rfl
      cases hmm
    have hedge : registrationEdge b.prevMm mm = false := by simp [registrationEdge, hprev, hne]
    rw [hasked, if_pos rfl] at hview
    rw [hedge]
    refine ⟨[], ?_, rfl, ?_, ?_⟩
    · simp [pollRegistration, hprev, hne]
    · rw [List.append_nil, hview, hmm]
    · rw [List.append_nil]

/-- A packet-service indication behind the queue without a stale one. -/
theorem indEnqueue_packet (ind : MbimBridgeIndication) {v : PacketService}
    (sent : List MbimBridgeIndication) (hind : ind.packetService = some v)
    (hreg : ind.registration = none) (hroom : b.indQueue.length < bridgeQueueRoom) :
    ∃ queue, indEnqueue (indDropFirst b .packetAttaching) ind = { b with indQueue := queue } ∧
      packetServiceView (sent ++ queue) = v ∧
      registrationView (sent ++ queue) = registrationView (sent ++ b.indQueue) := by
  have hroom' : (indDropFirst b .packetAttaching).indQueue.length < bridgeQueueRoom :=
    Nat.lt_of_le_of_lt (List.length_erase_le) hroom
  refine ⟨b.indQueue.erase .packetAttaching ++ [ind], indEnqueue_room hroom', ?_, ?_⟩
  · rw [← List.append_assoc]
    exact lastHeard_concat_some _ hind
  · rw [← List.append_assoc]
    exact (lastHeard_concat_none _ hreg).trans (lastHeard_erase sent b.indQueue rfl)

/-- The packet-service half leaves a queue that ends with what changed. -/
theorem pollPacketService_heard {sm : UeSmState} (sent : List MbimBridgeIndication)
    (hheard : PacketServiceHeard b.prevSm sm)
    (hroom : b.indQueue.length + (packetServiceEdge b.prevSm sm).toNat ≤ bridgeQueueRoom)
    (hview : packetServiceView (sent ++ b.indQueue) = packetServiceOf b.prevSm) :
    ∃ queue, pollPacketService b sm = { b with indQueue := queue } ∧
      packetServiceView (sent ++ queue) = packetServiceOf sm ∧
      registrationView (sent ++ queue) = registrationView (sent ++ b.indQueue) := by
  by_cases hsame : packetServiceOf b.prevSm = packetServiceOf sm
  · -- no edge
    have hactive : b.prevSm = .active ↔ sm = .active := by
      rw [← packetServiceOf_eq_attached, ← packetServiceOf_eq_attached, hsame]
    have hestablishing : b.prevSm = .establishing ↔ sm = .establishing := by
      rw [← packetServiceOf_eq_attaching, ← packetServiceOf_eq_attaching, hsame]
    refine ⟨b.indQueue, ?_, hview.trans hsame, rfl⟩
    simp [pollPacketService, hactive, hestablishing]
  · have hedge : packetServiceEdge b.prevSm sm = true := by simp [packetServiceEdge, hsame]
    rw [hedge] at hroom
    rcases hheard with hsame' | rfl | ⟨hprev, hsm⟩ | ⟨hprev, rfl⟩
    · exact absurd hsame' hsame
    · have hne : b.prevSm ≠ .active := fun h => hsame (by rw [h])
      obtain ⟨queue, heq, hpacket, hreg⟩ := indEnqueue_packet .packetAttached sent rfl rfl hroom
      refine ⟨queue, ?_, hpacket, hreg⟩
      simp [pollPacketService, hne, heq]
    · have hne : sm ≠ .active := by
        rintro rfl
        cases hsm
      have hne' : sm ≠ .establishing := by
        rintro rfl
        cases hsm
      obtain ⟨queue, heq, hpacket, hreg⟩ := indEnqueue_packet .packetDetached sent rfl rfl hroom
      refine ⟨queue, ?_, hpacket.trans hsm.symm, hreg⟩
      simp [pollPacketService, hprev, hne, hne', heq]
    · have hne : b.prevSm ≠ .establishing := fun h => by
        rw [h] at hprev
        cases hprev
      have hne' : b.prevSm ≠ .active := fun h => by
        rw [h] at hprev
        cases hprev
      refine ⟨b.indQueue ++ [.packetAttaching], ?_, ?_, ?_⟩
      · simp [pollPacketService, hne, hne', indEnqueue_room hroom]
      · rw [← List.append_assoc]
        exact lastHeard_concat_some _ rfl
      · rw [← List.append_assoc]
        exact lastHeard_concat_none _ rfl

end Poll

/-! ## Whole runs -/

/-- What was sent and what is queued amount to the state at the last poll, but for a
register request since. -/
structure Follower.Synced (s : Follower) : Prop where
  registration : registrationView (s.emitted ++ s.bridge.indQueue) =
    if s.asked then .searching else registrationOf s.bridge.prevMm
  packetService :
    packetServiceView (s.emitted ++ s.bridge.indQueue) = packetServiceOf s.bridge.prevSm
  polled : s.polled = true →
    s.asked = false ∧ s.bridge.prevMm = s.snap.mmState ∧ s.bridge.prevSm = s.snap.smState

theorem Follower.Synced.converged {s : Follower} (h : s.Synced) : s.Converged := by
  intro hpolled hempty
  obtain ⟨hasked, hmm, hsm⟩ := h.polled hpolled
  have hreg := h.registration
  have hpacket := h.packetService
  rw [hempty, List.append_nil] at hreg hpacket
  rw [hreg, hpacket, hasked, hmm, hsm]
  exact ⟨rfl, rfl⟩

theorem Follower.Synced.poll {s : Follower} (h : s.Synced) (hheard : Heard s .poll) :
    (followerStep s .poll).Synced := by
  obtain ⟨hreg, hpacket, hroom⟩ := hheard
  obtain ⟨inds, hfirst, hlen, hview, hkept⟩ :=
    pollRegistration_heard s.emitted hreg (Nat.le_of_add_right_le hroom) h.registration
  obtain ⟨queue, hsecond, hview', hkept'⟩ :=
    pollPacketService_heard (b := { s.bridge with indQueue := s.bridge.indQueue ++ inds })
      s.emitted hpacket (by rw [List.length_append, hlen]; exact hroom)
      (hkept.trans h.packetService)
  have hpoll : stateBridgePoll s.bridge s.snap =
      { s.bridge with indQueue := queue, prevMm := s.snap.mmState, prevSm := s.snap.smState } := by
    rw [stateBridgePoll_eq, hfirst, hsecond]
  unfold followerStep
  rw [hpoll]
  exact ⟨hkept'.trans hview, hview', fun _ => ⟨rfl, rfl, rfl⟩⟩

theorem Follower.Synced.step {s : Follower} (h : s.Synced) {e : FollowerStep} (hheard : Heard s e) :
    (followerStep s e).Synced := by
  cases e with
  | engine snap => exact ⟨h.registration, h.packetService, nofun⟩
  | requestRegister =>
    have hqueue : bridgeCall s.bridge .requestRegister =
        { s.bridge with indQueue := s.bridge.indQueue ++ [.registerSearching] } :=
      indEnqueue_room hheard
    unfold followerStep
    rw [hqueue]
    refine ⟨?_, ?_, nofun⟩
    · rw [← List.append_assoc]
      exact lastHeard_concat_some _ rfl
    · rw [← List.append_assoc]
      exact (lastHeard_concat_none _ rfl).trans h.packetService
  | poll => exact h.poll hheard
  | drain room =>
    -- what leaves the queue is what the host is sent
    have hall : s.emitted ++ s.bridge.indQueue.take room ++ s.bridge.indQueue.drop room =
        s.emitted ++ s.bridge.indQueue := by
      rw [List.append_assoc, List.take_append_drop]
    refine ⟨?_, ?_, h.polled⟩
    · exact (congrArg registrationView hall).trans h.registration
    · exact (congrArg packetServiceView hall).trans h.packetService

/-- The bridge as it is initialised over an engine that is not registered, before any poll. -/
def Follower.Initial (s : Follower) : Prop :=
  (∃ snap, s.bridge = stateBridgeInit snap ∧ registrationOf snap.mmState = .deregistered ∧
    packetServiceOf snap.smState = .detached) ∧
  s.emitted = [] ∧ s.polled = false ∧ s.asked = false

theorem Follower.Initial.synced {s : Follower} (h : s.Initial) : s.Synced := by
  obtain ⟨⟨snap, hbridge, hmm, hsm⟩, hemitted, hpolled, hasked⟩ := h
  refine ⟨?_, ?_, fun hp => absurd (hpolled.symm.trans hp) Bool.false_ne_true⟩
  · rw [hbridge, hemitted, hasked]
    exact hmm.symm
  · rw [hbridge, hemitted]
    exact hsm.symm

/-- Along heard steps every state reached leaves a drained host with the modem's state. -/
theorem followerRun_converged (s : Follower) (es : List FollowerStep) (hinit : s.Initial)
    (hheard : Along followerStep Heard s es) :
    ∀ pre, pre <+: es → (run followerStep s pre).Converged := by
  rintro pre ⟨post, rfl⟩
  have hpre := ((along_append followerStep Heard s pre post).mp hheard).1
  exact (run_invariant (fun _ _ hs hg => hs.step hg) hinit.synced hpre).converged

/-- A modem with its radio on. -/
def startedFollower : Follower :=
  { bridge := stateBridgeInit { mmState := .deregistered }, snap := { mmState := .deregistered } }

/-- Registration and attach, each polled on the way. -/
def attachSteps : List FollowerStep :=
  [.requestRegister, .engine { mmState := .searching }, .poll, .drain 15,
    .engine { mmState := .registeredHome, smState := .establishing }, .poll,
    .engine { mmState := .registeredHome, smState := .active }, .poll, .drain 15]

theorem followerRun_converged_attach :
    registrationView (run followerStep startedFollower attachSteps).emitted = .home ∧
      packetServiceView (run followerStep startedFollower attachSteps).emitted = .attached :=
  followerRun_converged startedFollower attachSteps ⟨⟨_, rfl, rfl, rfl⟩, rfl, rfl, rfl⟩ (by decide)
    attachSteps (List.prefix_refl _) (by decide) (by decide)

/-- The establishment ends without a session: no edge that the poll looks for. -/
def establishmentRejected : List FollowerStep :=
  [.engine { smState := .establishing }, .poll, .drain 15, .engine { smState := .inactive }, .poll]

/-- The host goes on attaching.  Every other indication had room in the queue. -/
theorem establishmentRejected_unheard :
    ¬ ∀ (s : Follower) (es : List FollowerStep), s.Initial → (run followerStep s es).Converged := by
  intro h
  have hpacket := (h {} establishmentRejected ⟨⟨{}, rfl, rfl, rfl⟩, rfl, rfl, rfl⟩ (by decide)
    (by decide)).2
  revert hpacket
  decide

/-! ## The channel's drain -/

/-- The message an indication is sent as. -/
def MbimBridgeIndication.message (modem : ModemState) : MbimBridgeIndication → Option Bytes
  | .registerSearching => registerStateSearching
  | .registerDeregistered => registerStateDeregistered
  | .registerHome => registerStateHome modem
  | .packetAttaching => packetServiceAttaching
  | .packetAttached => packetServiceAttached
  | .packetDetached => packetServiceDetached

theorem queueIndicationUuidCid_some (serviceId : Bytes) (cid : UInt32) {payload : Bytes}
    (h : payload.length ≤ 468) :
    ∃ msg, queueIndicationUuidCid serviceId cid payload = some msg ∧ msg.length ≠ 0 := by
  refine ⟨_, if_neg (by omega), ?_⟩
  exact Nat.succ_ne_zero _

theorem padTo_writeUtf16leAscii_length (src : Bytes) {cap : Nat} (heven : cap % 2 = 0) :
    (padTo cap (writeUtf16leAscii src cap)).length = cap := by
  have hlen : (writeUtf16leAscii src cap).length ≤ cap := by
    rw [writeUtf16leAscii, mbimWireWriteUtf16le_length, List.length_take]
    omega
  rw [padTo, List.length_append, List.length_replicate]
  omega

/-- Every indication of the bridge can be framed. -/
theorem message_framed (modem : ModemState) (ind : MbimBridgeIndication) :
    ∃ msg, ind.message modem = some msg ∧ msg.length ≠ 0 := by
  cases ind with
  | registerHome =>
    refine queueIndicationUuidCid_some _ _ ?_
    rw [List.length_append, List.length_append, le32s_length,
      padTo_writeUtf16leAscii_length _ (by decide), padTo_writeUtf16leAscii_length _ (by decide)]
    exact Nat.le_of_ble_eq_true rfl
  | registerSearching | registerDeregistered | packetAttaching | packetAttached | packetDetached =>
    exact ⟨_, rfl, Nat.succ_ne_zero _⟩

theorem emitIndication_room {s : Channel} {msg : Bytes} (hroom : s.respQueue.length < mbimQueueRoom)
    (hmsg : msg.length ≠ 0) :
    emitIndication s (some msg) =
      (true, { s.place [{ data := msg, origin := none }] with notifPending := true }) := by
  have hfull : ¬ mbimRespQueueFull s = true := by
    simpa [mbimRespQueueFull] using hroom
  have hadmitted : admitted s.respQueue { data := msg, origin := none } =
      [{ data := msg, origin := none }] :=
    if_neg fun h => h.elim hmsg (Nat.not_le.mpr hroom)
  unfold emitIndication
  dsimp only
  rw [if_neg hfull, mbimRespEnqueue_eq, hadmitted]
  rfl

/-- With room in the response queue an indication is sent. -/
theorem drainBridgeIndication_room {s : Channel} (hroom : s.respQueue.length < mbimQueueRoom)
    (ind : MbimBridgeIndication) :
    ∃ msg lte, ind.message s.handlers.modem = some msg ∧
      drainBridgeIndication s ind =
        { s.place [{ data := msg, origin := none }] with
          notifPending := true, pendingLteAttachStatusInd := lte } := by
  obtain ⟨msg, hmsg, hlen⟩ := message_framed s.handlers.modem ind
  have hemit := emitIndication_room hroom hlen
  rw [← hmsg] at hemit
  cases ind with
  | packetAttached =>
    refine ⟨msg, true, hmsg, ?_⟩
    rw [MbimBridgeIndication.message] at hemit
    rw [drainBridgeIndication, hemit]
    rfl
  | packetDetached =>
    refine ⟨msg, true, hmsg, ?_⟩
    rw [MbimBridgeIndication.message] at hemit
    rw [drainBridgeIndication, hemit]
    rfl
  | _ => exact ⟨msg, s.pendingLteAttachStatusInd, hmsg, congrArg Prod.snd hemit⟩

/-- The loop sends as many of the queued indications, in order, as the response queue has
room for, and leaves the others: a `drain` of the follower. -/
theorem drainBridgeIndications_emits (s : Channel) :
    let inds := s.bridge.indQueue
    let room := mbimQueueRoom - s.respQueue.length
    let t := drainBridgeIndications inds s
    t.bridge = { s.bridge with indQueue := inds.drop room } ∧
      t.history.placed.map (some ·.data) = s.history.placed.map (some ·.data) ++
        (inds.take room).map (·.message s.handlers.modem) := by
  dsimp only
  generalize hinds : s.bridge.indQueue = inds
  induction inds generalizing s with
  | nil =>
    refine ⟨?_, ?_⟩
    · rw [List.drop_nil]
      change s.bridge = _
      rw [← hinds]
    · rw [List.take_nil, List.map_nil, List.append_nil]
      rfl
  | cons ind rest ih =>
    unfold drainBridgeIndications
    by_cases hroom : s.respQueue.length < mbimQueueRoom
    · rw [if_neg (by simpa [mbimRespQueueFull] using hroom)]
      obtain ⟨msg, lte, hmsg, hone⟩ := drainBridgeIndication_room
        (s := { s with bridge := { s.bridge with indQueue := rest } }) hroom ind
      rw [hone]
      obtain ⟨hbridge, hplaced⟩ := ih { s with
          respQueue := s.respQueue ++ [{ data := msg, origin := none }]
          history := { s.history with placed := s.history.placed ++ [{ data := msg, origin := none }] }
          bridge := { s.bridge with indQueue := rest }
          notifPending := true, pendingLteAttachStatusInd := lte } rfl
      rw [List.length_append, List.length_singleton] at hbridge hplaced
      have hsucc : mbimQueueRoom - s.respQueue.length =
          mbimQueueRoom - (s.respQueue.length + 1) + 1 := by
        omega
      rw [hsucc, List.drop_succ_cons, List.take_succ_cons]
      refine ⟨hbridge, hplaced.trans ?_⟩
      rw [List.map_append, List.append_assoc, List.map_cons, ← hmsg]
      rfl
    · rw [if_pos (by simpa [mbimRespQueueFull] using hroom),
        Nat.sub_eq_zero_of_le (Nat.not_lt.mp hroom), List.drop_zero, List.take_zero, ← hinds]
      exact ⟨rfl, (List.append_nil _).symm⟩

end VirtualLte.Mbim
