import VirtualLte.Engine.Uplink
import VirtualLte.Lib.Journal
import VirtualLte.Sm.Runs

/-!
# What T3580 repeats

An establishment attempt submits a request, and T3580 submits it again while no answer comes.
The repeated request is built afresh from the machine's context, so that it is the same only
as far as the context still is.

* `establishFields` is what the adapter hands to the encoder of the request, with the
  identities it puts in place of missing ones.
* `Submission` tells first requests from repeated ones, `EntrySound` is the property: a
  repeated request has the fields of the attempt's first one, and a first one has another
  transaction identity than the attempt before.
* `LogInv` says what is left of the first request in the context: its session identity, its
  session type and slice.  The transaction identity is cleared by the first submission, and a
  repeated request falls back to 1; the DNN is whatever was named last.
* `smRun_repeats_iff` is the result for runs.
-/

namespace VirtualLte.Sm

open Transition Nas Engine

/-! ## Requests as they are sent -/

@[ext] structure EstablishFields where
  psi : UInt8
  pti : UInt8
  dnn : Bytes
  pduType : UInt8
  sst : UInt8
  deriving DecidableEq, Repr

def establishFields (q : UeSmPduSessionEstRequest) : EstablishFields where
  psi := requestPsi q.pduSessionId
  pti := if q.pti ≠ 0 then q.pti else 1
  dnn := q.dnn
  pduType := pduTypeFromString q.pduType
  sst := q.sNssaiSst

/-! ## The log of submissions -/

inductive Submission where
  /-- The request an attempt begins with. -/
  | first (q : UeSmPduSessionEstRequest)
  /-- A request that a T3580 expiry submits. -/
  | repeated (q : UeSmPduSessionEstRequest)
  deriving DecidableEq, Repr

def Submission.first? : Submission → Option UeSmPduSessionEstRequest
  | .first q => some q
  | .repeated _ => none

/-- The first request of the last attempt. -/
def lastFirst (log : List Submission) : Option UeSmPduSessionEstRequest :=
  (log.filterMap Submission.first?).getLast?

/-- What an entry should be, after those before it. -/
def EntrySound (log : List Submission) : Submission → Prop
  | .repeated q => ∃ f, lastFirst log = some f ∧ establishFields q = establishFields f
  | .first q => ∀ f, lastFirst log = some f → (establishFields q).pti ≠ (establishFields f).pti

/-- The event is a tick at which T3580 runs out with retransmissions left. -/
def t3580Expires (sm : UeSmCtx) : SmEvent UeNet → Bool
  | .tick nowMs mmRegistered =>
    mmRegistered && !sm.disconnectRequested && sm.state = .establishing &&
      sm.procStep = .waitEstablishResponse && sm.nextStepDeadlineMs ≠ 0 &&
      sm.nextStepDeadlineMs ≤ nowMs && sm.estRetxCount < ueSmT3580MaxRetx
  | _ => false

/-- The machine, and everything it submitted. -/
structure SmLogged where
  machine : SmMachine UeNet
  log : List Submission := []

abbrev SmLogged.sm (s : SmLogged) : UeSmCtx := s.machine.1

def loggedStep (s : SmLogged) (e : SmEvent UeNet) : SmLogged :=
  let m := smStep smNetwork s.machine e
  let submitted := m.2.submitted.drop s.machine.2.submitted.length
  { machine := m
    log := s.log ++ submitted.map (if t3580Expires s.sm e then .repeated else .first) }

/-- The event is a tick that picks up a connect request. -/
def picksUpConnect (sm : UeSmCtx) : SmEvent UeNet → Bool
  | .tick _ mmRegistered => mmRegistered && sm.connectRequested && sm.state = .inactive
  | _ => false

/-- T3580 runs out in an attempt with transaction identity 1 whose DNN was not replaced, and
an attempt after the network context was forgotten does not follow one with that identity. -/
structure StepRepeats (s : SmLogged) (e : SmEvent UeNet) : Prop where
  expires : t3580Expires s.sm e = true →
    ∀ f, lastFirst s.log = some f → f.pti = 1 ∧ s.sm.activeDnn = f.dnn
  starts : picksUpConnect s.sm e = true → s.sm.nextPti = 0 →
    ∀ f, lastFirst s.log = some f → f.pti ≠ 1

/-! ## Transaction identities -/

/-- The cursor after `p` was given out. -/
def succPti (p : UInt8) : UInt8 := p % 254 + 1

theorem smAllocPti_pti (sm : UeSmCtx) :
    1 ≤ (smAllocPti sm).pti ∧ (smAllocPti sm).pti ≤ 254 ∧
      (smAllocPti sm).nextPti = succPti (smAllocPti sm).pti := by
  unfold smAllocPti succPti
  dsimp only
  split
  · exact ⟨by decide, by decide, rfl⟩
  · rename_i hrange
    rw [not_or, UInt8.not_lt, gt_iff_lt, UInt8.not_lt] at hrange
    exact ⟨hrange.1, hrange.2, rfl⟩

theorem smAllocPti_pti_of_valid {sm : UeSmCtx} (hlow : 1 ≤ sm.nextPti) (hhigh : sm.nextPti ≤ 254) :
    (smAllocPti sm).pti = sm.nextPti := by
  unfold smAllocPti
  dsimp only
  rw [if_neg]
  rw [not_or, UInt8.not_lt, gt_iff_lt, UInt8.not_lt]
  exact ⟨hlow, hhigh⟩

/-- Going round the 254 identities, neither the next nor the one after it is the same. -/
theorem succPti_ne (p : UInt8) : 1 ≤ p → p ≤ 254 →
    (1 ≤ succPti p ∧ succPti p ≤ 254) ∧ succPti p ≠ p ∧ succPti (succPti p) ≠ p := by
  refine forall_octet (p := fun p => 1 ≤ p → p ≤ 254 →
    (1 ≤ succPti p ∧ succPti p ≤ 254) ∧ succPti p ≠ p ∧ succPti (succPti p) ≠ p) ?_ p
  decide +kernel

/-- Where the cursor stands after the last attempt: one further, two after a release, and at
the start once the network context was forgotten. -/
def CursorAt (state : UeSmState) (next : UInt8) : Option UeSmPduSessionEstRequest → Prop
  | none => state = .inactive ∧ next = 0
  | some f =>
    (1 ≤ f.pti ∧ f.pti ≤ 254) ∧
      match state with
      | .inactive => next = 0 ∨ next = succPti f.pti ∨ next = succPti (succPti f.pti)
      | .releasing => next = succPti (succPti f.pti)
      | .establishing => next = succPti f.pti
      | .active => next = succPti f.pti

theorem CursorAt.inactive {state : UeSmState} {next : UInt8} {f : Option UeSmPduSessionEstRequest}
    (h : CursorAt state next f) : CursorAt .inactive next f := by
  cases f with
  | none => exact ⟨rfl, h.2⟩
  | some f =>
    refine ⟨h.1, ?_⟩
    have hstate := h.2
    cases state with
    | inactive => exact hstate
    | releasing => exact .inr (.inr hstate)
    | establishing => exact .inr (.inl hstate)
    | active => exact .inr (.inl hstate)

theorem CursorAt.forgotten {state : UeSmState} {next : UInt8}
    {f : Option UeSmPduSessionEstRequest} (h : CursorAt state next f) : CursorAt .inactive 0 f := by
  cases f with
  | none => exact ⟨rfl, rfl⟩
  | some f => exact ⟨h.1, .inl rfl⟩

/-- A release takes the next identity. -/
theorem CursorAt.released {sm : UeSmCtx} {f : Option UeSmPduSessionEstRequest}
    (h : CursorAt .active sm.nextPti f) : CursorAt .releasing (smAllocPti sm).nextPti f := by
  cases f with
  | none => exact absurd h.1 nofun
  | some f =>
    have hnext : sm.nextPti = succPti f.pti := h.2
    obtain ⟨hvalid, -, -⟩ := succPti_ne f.pti h.1.1 h.1.2
    refine ⟨h.1, ?_⟩
    show (smAllocPti sm).nextPti = succPti (succPti f.pti)
    rw [(smAllocPti_pti sm).2.2, smAllocPti_pti_of_valid (by rw [hnext]; exact hvalid.1)
      (by rw [hnext]; exact hvalid.2), hnext]

/-- The identity of the next attempt is another one, unless the cursor was put back to the
start and the last attempt had the first identity. -/
theorem CursorAt.pti_ne_iff {sm : UeSmCtx} {state : UeSmState} {f : UeSmPduSessionEstRequest}
    (h : CursorAt state sm.nextPti (some f)) :
    (smAllocPti sm).pti ≠ f.pti ↔ (sm.nextPti = 0 → f.pti ≠ 1) := by
  have hcursor := h.inactive.2
  obtain ⟨hvalid, hne, hne'⟩ := succPti_ne f.pti h.1.1 h.1.2
  have hvalid' := (succPti_ne _ hvalid.1 hvalid.2).1
  have hmoved : ∀ p, 1 ≤ p → p ≤ 254 → p ≠ f.pti → sm.nextPti = p →
      ((smAllocPti sm).pti ≠ f.pti ↔ (sm.nextPti = 0 → f.pti ≠ 1)) := by
    rintro p hlow hhigh hpne hnext
    rw [smAllocPti_pti_of_valid (hnext ▸ hlow) (hnext ▸ hhigh), hnext]
    refine iff_of_true hpne ?_
    rintro rfl
    exact absurd hlow (by decide)
  rcases hcursor with hzero | hnext | hnext
  · have hfirst : (smAllocPti sm).pti = 1 := by simp [smAllocPti, hzero]
    rw [hfirst]
    exact ⟨fun hne _ heq => hne heq.symm, fun himp heq => himp hzero heq.symm⟩
  · exact hmoved _ hvalid.1 hvalid.2 hne hnext
  · exact hmoved _ hvalid'.1 hvalid'.2 hne' hnext

/-! ## What a step submits -/

/-- What is left of an attempt's first request in the context. -/
structure Carries (sm : UeSmCtx) (f : UeSmPduSessionEstRequest) : Prop where
  pti : sm.pti = 0
  psi : sm.sessionId = (requestPsi f.pduSessionId).toUInt32
  pduType : sm.pduType = f.pduType
  sst : sm.sNssaiSst = f.sNssaiSst

structure LogInv (s : SmLogged) : Prop where
  sm : SmInv s.sm
  cursor : CursorAt s.sm.state s.sm.nextPti (lastFirst s.log)
  carries : s.sm.state = .establishing → ∀ f, lastFirst s.log = some f → Carries s.sm f

/-- A change of the context without an establishment request. -/
inductive QuietMove (sm sm' : UeSmCtx) : Prop
  | keeps (hstate : sm'.state = sm.state) (hpti : sm'.pti = sm.pti)
      (hpsi : sm'.sessionId = sm.sessionId) (htype : sm'.pduType = sm.pduType)
      (hsst : sm'.sNssaiSst = sm.sNssaiSst) (hnext : sm'.nextPti = sm.nextPti)
  | ends (hstate : sm'.state = .inactive) (hnext : sm'.nextPti = sm.nextPti)
  | establishes (hbefore : sm.state = .establishing) (hafter : sm'.state = .active)
      (hnext : sm'.nextPti = sm.nextPti)
  | forgets (hstate : sm'.state = .inactive) (hnext : sm'.nextPti = 0)
  | releases (hbefore : sm.state = .active) (hafter : sm'.state = .releasing)
      (hnext : sm'.nextPti = (smAllocPti sm).nextPti)

theorem QuietMove.cursor {sm sm' : UeSmCtx} (h : QuietMove sm sm')
    {f : Option UeSmPduSessionEstRequest} (hcursor : CursorAt sm.state sm.nextPti f) :
    CursorAt sm'.state sm'.nextPti f := by
  cases h with
  | keeps hstate _ _ _ _ hnext =>
    rw [hstate, hnext]
    exact hcursor
  | ends hstate hnext =>
    rw [hstate, hnext]
    exact hcursor.inactive
  | establishes hbefore hafter hnext =>
    rw [hbefore] at hcursor
    rw [hafter, hnext]
    cases f with
    | none => exact absurd hcursor.1 nofun
    | some f => exact hcursor
  | forgets hstate hnext =>
    rw [hstate, hnext]
    exact hcursor.forgotten
  | releases hbefore hafter hnext =>
    rw [hbefore] at hcursor
    rw [hafter, hnext]
    exact hcursor.released

theorem QuietMove.carries {sm sm' : UeSmCtx} (h : QuietMove sm sm') {f : UeSmPduSessionEstRequest}
    (hcarries : sm.state = .establishing → Carries sm f) (hstate' : sm'.state = .establishing) :
    Carries sm' f := by
  cases h with
  | keeps hstate hpti hpsi htype hsst _ =>
    have hbefore := hcarries (hstate ▸ hstate')
    exact ⟨hpti.trans hbefore.pti, hpsi.trans hbefore.psi, htype.trans hbefore.pduType,
      hsst.trans hbefore.sst⟩
  | ends hstate _ => exact absurd (hstate.symm.trans hstate') nofun
  | establishes _ hafter _ => exact absurd (hafter.symm.trans hstate') nofun
  | forgets hstate _ => exact absurd (hstate.symm.trans hstate') nofun
  | releases _ hafter _ => exact absurd (hafter.symm.trans hstate') nofun

/-- The context of an attempt that was just submitted, whose timer may run already. -/
structure Started (sm' : UeSmCtx) (q : UeSmPduSessionEstRequest) : Prop where
  state : sm'.state = .establishing
  carries : Carries sm' q
  pti : 1 ≤ q.pti ∧ q.pti ≤ 254
  next : sm'.nextPti = succPti q.pti

/-- What an event submits. -/
inductive Submits (sm : UeSmCtx) (e : SmEvent UeNet) (sm' : UeSmCtx) :
    List UeSmPduSessionEstRequest → Prop
  | nothing (hquiet : QuietMove sm sm') (hexpires : t3580Expires sm e = false)
      (hpicks : picksUpConnect sm e = false) : Submits sm e sm' []
  | again (hstate : sm.state = .establishing) (hexpires : t3580Expires sm e = true)
      (hpicks : picksUpConnect sm e = false) (hquiet : QuietMove sm sm') :
      Submits sm e sm' [smBuildEstablishRequest sm]
  | start (q : UeSmPduSessionEstRequest) (hexpires : t3580Expires sm e = false)
      (hpicks : picksUpConnect sm e = true ∨ sm.state = .establishing)
      (hpti : q.pti = (smAllocPti sm).pti) (hstarted : Started sm' q) : Submits sm e sm' [q]

/-- The adapter takes the request and answers with its session identity. -/
theorem smStartEstablishProcedure_smNetwork (sm : UeSmCtx) (net : Recorded UeNet) :
    let q := smBuildEstablishRequest (smBeginEstablish sm)
    ∃ net', smStartEstablishProcedure smNetwork.recorded sm net =
      (smEstablishSubmitted (smBeginEstablish sm)
        { submitted := true, selectedPsi := (requestPsi q.pduSessionId).toUInt32 },
        { net := net', submitted := net.submitted ++ [q] }) := by
  unfold smStartEstablishProcedure smStartEstablishFuel
  exact ⟨_, rfl⟩

theorem beginEstablish_pti (sm : UeSmCtx) :
    (smBuildEstablishRequest (smBeginEstablish sm)).pti = (smAllocPti sm).pti := by
  have hpos := (smAllocPti_pti sm).1
  show (if (smAllocPti sm).pti ≠ 0 then (smAllocPti sm).pti else 1) = _
  rw [if_pos]
  intro hzero
  rw [hzero] at hpos
  exact absurd hpos (by decide)

theorem started_of_establish (sm : UeSmCtx) :
    let q := smBuildEstablishRequest (smBeginEstablish sm)
    Started (smEstablishSubmitted (smBeginEstablish sm)
      { submitted := true, selectedPsi := (requestPsi q.pduSessionId).toUInt32 }) q := by
  obtain ⟨hlow, hhigh, hnext⟩ := smAllocPti_pti sm
  have hpti := beginEstablish_pti sm
  exact ⟨rfl, ⟨rfl, rfl, rfl, rfl⟩, ⟨hpti ▸ hlow, hpti ▸ hhigh⟩, hnext.trans (by rw [hpti])⟩

/-- The start of an attempt in the same tick only arms T3580. -/
theorem smTickT3580_started {sm : UeSmCtx} {q : UeSmPduSessionEstRequest} (h : Started sm q)
    (hdeadline : sm.nextStepDeadlineMs = 0) (nowMs : UInt64) (net : Recorded UeNet) :
    (smTickT3580 smNetwork.recorded nowMs sm net).2 = net ∧
      Started (smTickRelease nowMs (smTickT3580 smNetwork.recorded nowMs sm net).1) q := by
  have hrelease : ∀ sm' : UeSmCtx, Started sm' q → Started (smTickRelease nowMs sm') q := by
    intro sm' hstarted
    rw [smTickRelease, if_neg fun hcond => by cases hcond.1.symm.trans hstarted.state]
    exact hstarted
  unfold smTickT3580
  split
  · exact ⟨rfl, hrelease _ ⟨h.state, ⟨h.carries.pti, h.carries.psi, h.carries.pduType,
      h.carries.sst⟩, h.pti, h.next⟩⟩
  · exact ⟨rfl, hrelease _ h⟩

theorem recorded_submitted {N : Type} (network : SmNetwork N) (q : UeSmPduSessionEstRequest)
    (r : Recorded N) : (network.recorded.submitEstablish q r).2.submitted = r.submitted ++ [q] := rfl

/-- The timers are not part of a request. -/
theorem smBuildEstablishRequest_timer (sm : UeSmCtx) (retx : UInt8) (ms : UInt64) :
    smBuildEstablishRequest { sm with estRetxCount := retx, nextStepDeadlineMs := ms } =
      smBuildEstablishRequest sm := rfl

/-- The event submits what `Submits` says. -/
def StepSubmits (s : SmMachine UeNet) (e : SmEvent UeNet) : Prop :=
  ∃ qs, (smStep smNetwork s e).2.submitted = s.2.submitted ++ qs ∧
    Submits s.1 e (smStep smNetwork s e).1 qs

theorem stepSubmits_nothing {s : SmMachine UeNet} {e : SmEvent UeNet} {sm' : UeSmCtx}
    {net' : Recorded UeNet} (heq : smStep smNetwork s e = (sm', net'))
    (hnet : net'.submitted = s.2.submitted) (hquiet : QuietMove s.1 sm')
    (hexpires : t3580Expires s.1 e = false) (hpicks : picksUpConnect s.1 e = false) :
    StepSubmits s e := by
  unfold StepSubmits
  rw [heq]
  exact ⟨[], by rw [hnet, List.append_nil], .nothing hquiet hexpires hpicks⟩

/-- T3580 of an attempt: nothing, one request more, or the end. -/
theorem stepSubmits_establishing {s : SmMachine UeNet} (h : SmInv s.1) (nowMs : UInt64)
    (hdisconnect : s.1.disconnectRequested = false) (hstate : s.1.state = .establishing) :
    StepSubmits s (.tick nowMs true) := by
  have hstep : s.1.procStep = .waitEstablishResponse := (h.consistent.establishing.mp hstate).2
  have heq : smStep smNetwork s (.tick nowMs true) = smTickT3580 smNetwork.recorded nowMs s.1 s.2 :=
    ueSmTick_establishing smNetwork.recorded hdisconnect hstate nowMs s.2
  have hpicks : picksUpConnect s.1 (.tick nowMs true) = false := by simp [picksUpConnect, hstate]
  have hexpires : t3580Expires s.1 (.tick nowMs true) = (s.1.nextStepDeadlineMs ≠ 0 &&
      s.1.nextStepDeadlineMs ≤ nowMs && s.1.estRetxCount < ueSmT3580MaxRetx) := by
    simp [t3580Expires, hdisconnect, hstate, hstep]
  unfold smTickT3580 at heq
  rw [if_pos ⟨hstate, hstep⟩] at heq
  by_cases hunarmed : s.1.nextStepDeadlineMs = 0
  · rw [if_pos hunarmed] at heq
    refine stepSubmits_nothing heq rfl (.keeps rfl rfl rfl rfl rfl rfl) ?_ hpicks
    simp [hexpires, hunarmed]
  rw [if_neg hunarmed] at heq
  by_cases hpassed : nowMs ≥ s.1.nextStepDeadlineMs
  · rw [if_pos hpassed] at heq
    by_cases hmore : s.1.estRetxCount < ueSmT3580MaxRetx
    · rw [if_pos hmore] at heq
      refine ⟨[smBuildEstablishRequest s.1], ?_, .again hstate ?_ hpicks ?_⟩
      · rw [heq, recorded_submitted, smBuildEstablishRequest_timer]
      · simpa [hexpires, hunarmed, hmore] using hpassed
      · rw [heq]
        exact .keeps rfl rfl rfl rfl rfl rfl
    · rw [if_neg hmore] at heq
      refine stepSubmits_nothing heq rfl (.ends rfl rfl) ?_ hpicks
      simp [hexpires, hmore]
  · rw [if_neg hpassed] at heq
    refine stepSubmits_nothing heq rfl (.keeps rfl rfl rfl rfl rfl rfl) ?_ hpicks
    simp only [hexpires, hunarmed, ne_eq, not_false_eq_true, decide_true, Bool.true_and]
    rw [decide_eq_false hpassed, Bool.false_and]

/-- A tick that picks up a connect request starts one attempt. -/
theorem stepSubmits_connect {s : SmMachine UeNet} (nowMs : UInt64)
    (hdisconnect : s.1.disconnectRequested = false) (hstate : s.1.state = .inactive)
    (hconnect : s.1.connectRequested = true) : StepSubmits s (.tick nowMs true) := by
  obtain ⟨net', hstart⟩ :=
    smStartEstablishProcedure_smNetwork { s.1 with connectRequested := false } s.2
  have hstarted := started_of_establish { s.1 with connectRequested := false }
  have hpti := beginEstablish_pti { s.1 with connectRequested := false }
  have heq := ueSmTick_connect smNetwork.recorded hdisconnect hstate hconnect nowMs s.2
  rw [hstart] at heq
  generalize smBuildEstablishRequest (smBeginEstablish { s.1 with connectRequested := false }) = q
    at heq hstarted hpti
  dsimp only at heq
  obtain ⟨hnet, htick⟩ := smTickT3580_started hstarted rfl nowMs
    { net := net', submitted := s.2.submitted ++ [q] }
  refine ⟨[q], ?_, .start q ?_ (.inl ?_) hpti ?_⟩
  · show (ueSmTick smNetwork.recorded s.1 nowMs true s.2).2.submitted = _
    rw [heq, hnet]
  · simp [t3580Expires, hstate]
  · simp [picksUpConnect, hstate, hconnect]
  · show Started (ueSmTick smNetwork.recorded s.1 nowMs true s.2).1 q
    rw [heq]
    exact htick

/-- A disconnect request of an ACTIVE session starts a release. -/
theorem stepSubmits_release {s : SmMachine UeNet} (nowMs : UInt64)
    (hdisconnect : s.1.disconnectRequested = true) (hstate : s.1.state = .active) :
    StepSubmits s (.tick nowMs true) := by
  have heq := ueSmTick_release smNetwork.recorded (fun _ _ => rfl) hdisconnect hstate nowMs s.2
  exact stepSubmits_nothing heq rfl (.releases hstate rfl rfl) (by simp [t3580Expires, hstate])
    (by simp [picksUpConnect, hstate])

theorem stepSubmits_tick {s : SmMachine UeNet} (h : SmInv s.1) (nowMs : UInt64) :
    StepSubmits s (.tick nowMs true) := by
  cases hdisconnect : s.1.disconnectRequested with
  | true =>
    by_cases hactive : s.1.state = .active
    · exact stepSubmits_release nowMs hdisconnect hactive
    · refine stepSubmits_nothing (ueSmTick_disconnect smNetwork.recorded h hactive hdisconnect nowMs
        s.2) rfl (.ends rfl rfl) ?_ ?_
      · simp [t3580Expires, hdisconnect]
      · simp [picksUpConnect, h.not_connect hdisconnect]
  | false =>
    have hidle : s.1.state = .inactive ∧ s.1.connectRequested = false ∨ s.1.state = .active →
        StepSubmits s (.tick nowMs true) := by
      intro hrest
      refine stepSubmits_nothing (ueSmTick_idle smNetwork.recorded hdisconnect hrest nowMs s.2) rfl
        (.keeps rfl rfl rfl rfl rfl rfl) ?_ ?_
      · rcases hrest with ⟨hs, -⟩ | hs <;> simp [t3580Expires, hs]
      · rcases hrest with ⟨-, hc⟩ | hs
        · simp [picksUpConnect, hc]
        · simp [picksUpConnect, hs]
    cases hstate : s.1.state with
    | inactive =>
      cases hconnect : s.1.connectRequested with
      | true => exact stepSubmits_connect nowMs hdisconnect hstate hconnect
      | false => exact hidle (.inl ⟨hstate, hconnect⟩)
    | establishing => exact stepSubmits_establishing h nowMs hdisconnect hstate
    | active => exact hidle (.inr hstate)
    | releasing =>
      refine stepSubmits_nothing (ueSmTick_releasing smNetwork.recorded hstate hdisconnect nowMs s.2)
        rfl ?_ (by simp [t3580Expires, hstate]) (by simp [picksUpConnect, hstate])
      unfold smTickRelease
      repeat' split
      all_goals first | exact .ends rfl rfl | exact .keeps rfl rfl rfl rfl rfl rfl

/-- A reject ends the attempt or starts the next one. -/
theorem stepSubmits_reject (s : SmMachine UeNet) (cause : UeSmPduRejectCause) :
    StepSubmits s (.reject cause) := by
  by_cases hcond : s.1.state = .establishing ∧ s.1.procStep = .waitEstablishResponse
  · have hreject : smStep smNetwork s (.reject cause) = smHandleEstablishRejectByProcedure
        (smStartEstablishProcedure smNetwork.recorded) s.1 cause s.2 := if_pos hcond
    rcases smHandleEstablishRejectByProcedure_cases (smStartEstablishProcedure smNetwork.recorded)
      s.1 cause s.2 with heq | ⟨-, heq⟩
    · exact stepSubmits_nothing (hreject.trans heq) rfl (.ends rfl rfl) rfl rfl
    · obtain ⟨net', hstart⟩ := smStartEstablishProcedure_smNetwork (smRetry s.1 cause) s.2
      rw [hstart] at heq
      refine ⟨[smBuildEstablishRequest (smBeginEstablish (smRetry s.1 cause))], ?_,
        .start _ rfl (.inr hcond.1) (beginEstablish_pti _) ?_⟩
      · rw [hreject, heq]
      · rw [hreject, heq]
        exact started_of_establish (smRetry s.1 cause)
  · exact stepSubmits_nothing (if_neg hcond) rfl (.keeps rfl rfl rfl rfl rfl rfl) rfl rfl

theorem stepSubmits {s : SmMachine UeNet} (h : SmInv s.1) (e : SmEvent UeNet) : StepSubmits s e := by
  cases e with
  | connect dnn => exact stepSubmits_nothing rfl rfl (.keeps rfl rfl rfl rfl rfl rfl) rfl rfl
  | disconnect => exact stepSubmits_nothing rfl rfl (.keeps rfl rfl rfl rfl rfl rfl) rfl rfl
  | autoConnect =>
    refine stepSubmits_nothing rfl rfl ?_ rfl rfl
    show QuietMove s.1 (smAutoConnect s.1)
    unfold smAutoConnect
    split
    · exact .keeps rfl rfl rfl rfl rfl rfl
    · exact .keeps rfl rfl rfl rfl rfl rfl
  | tick nowMs mmRegistered =>
    cases mmRegistered with
    | true => exact stepSubmits_tick h nowMs
    | false => exact stepSubmits_nothing rfl rfl (.ends rfl rfl) rfl rfl
  | established =>
    refine stepSubmits_nothing rfl rfl ?_ rfl rfl
    show QuietMove s.1 (ueSmOnPduSessionEstablished s.1)
    unfold ueSmOnPduSessionEstablished
    split
    · rename_i hstate
      exact .establishes hstate rfl rfl
    · exact .keeps rfl rfl rfl rfl rfl rfl
  | reject cause => exact stepSubmits_reject s cause
  | released =>
    refine stepSubmits_nothing rfl rfl ?_ rfl rfl
    show QuietMove s.1 (ueSmOnPduSessionReleased s.1)
    unfold ueSmOnPduSessionReleased
    split
    · exact .ends rfl rfl
    · exact .keeps rfl rfl rfl rfl rfl rfl
  | radio on =>
    cases on with
    | true => exact stepSubmits_nothing rfl rfl (.keeps rfl rfl rfl rfl rfl rfl) rfl rfl
    | false => exact stepSubmits_nothing rfl rfl (.ends rfl rfl) rfl rfl
  | forget => exact stepSubmits_nothing rfl rfl (.forgets rfl rfl) rfl rfl
  | elsewhere net => exact stepSubmits_nothing rfl rfl (.keeps rfl rfl rfl rfl rfl rfl) rfl rfl

/-! ## The log -/

theorem lastFirst_first (log : List Submission) (q : UeSmPduSessionEstRequest) :
    lastFirst (log ++ [.first q]) = some q := by
  simp [lastFirst, Submission.first?]

theorem lastFirst_repeated (log : List Submission) (q : UeSmPduSessionEstRequest) :
    lastFirst (log ++ [.repeated q]) = lastFirst log := by
  simp [lastFirst, Submission.first?]

/-- A session identity that was sent is sent again. -/
theorem requestPsi_idem (psi : UInt32) : requestPsi (requestPsi psi).toUInt32 = requestPsi psi := by
  have hidem : ∀ p : UInt8, 1 ≤ p → p ≤ 15 → requestPsi p.toUInt32 = p := by
    intro p
    refine forall_octet (p := fun p => 1 ≤ p → p ≤ 15 → requestPsi p.toUInt32 = p) ?_ p
    decide +kernel
  by_cases hrange : 0 < psi ∧ psi ≤ 15
  · have hpsi : requestPsi psi = psi.toUInt8 := if_pos hrange
    have hlow := UInt32.lt_iff_toNat_lt.mp hrange.1
    have hhigh := UInt32.le_iff_toNat_le.mp hrange.2
    have hnat : psi.toUInt8.toNat = psi.toNat := by
      rw [UInt32.toNat_toUInt8]
      exact Nat.mod_eq_of_lt (Nat.lt_of_le_of_lt hhigh (by decide))
    rw [hpsi]
    exact hidem _ (UInt8.le_iff_toNat_le.mpr (by rw [hnat]; exact hlow))
      (UInt8.le_iff_toNat_le.mpr (by rw [hnat]; exact hhigh))
  · rw [requestPsi, requestPsi, if_neg hrange]
    rfl

theorem requestPsi_pos (psi : UInt32) : (requestPsi psi).toUInt32 ≠ 0 := by
  intro hzero
  have hidem := requestPsi_idem psi
  rw [hzero] at hidem
  rw [← hidem] at hzero
  exact absurd hzero (by decide)

/-- The repeated request is the first one with the identity 1 and the DNN of the moment. -/
theorem establishFields_again {sm : UeSmCtx} {f : UeSmPduSessionEstRequest} (h : Carries sm f) :
    establishFields (smBuildEstablishRequest sm) =
      { establishFields f with pti := 1, dnn := sm.activeDnn } := by
  have hpsi : sm.sessionId ≠ 0 := by
    rw [h.psi]
    exact requestPsi_pos _
  have hsent : requestPsi sm.sessionId = requestPsi f.pduSessionId := by
    rw [h.psi, requestPsi_idem]
  simp only [establishFields, smBuildEstablishRequest, h.pti, if_pos hpsi, hsent, h.pduType, h.sst]
  rfl

/-- An identity that was given out is sent as it is. -/
theorem establishFields_pti {q : UeSmPduSessionEstRequest} (h : 1 ≤ q.pti) :
    (establishFields q).pti = q.pti := by
  refine if_pos ?_
  intro hzero
  rw [hzero] at h
  exact absurd h (by decide)

theorem establishFields_again_iff {sm : UeSmCtx} {f : UeSmPduSessionEstRequest} (h : Carries sm f)
    (hpti : 1 ≤ f.pti) :
    establishFields (smBuildEstablishRequest sm) = establishFields f ↔
      f.pti = 1 ∧ sm.activeDnn = f.dnn := by
  rw [establishFields_again h, EstablishFields.ext_iff]
  simp only [true_and, and_true, establishFields_pti hpti]
  exact ⟨fun heq => ⟨heq.1.symm, heq.2⟩, fun heq => ⟨heq.1.symm, heq.2⟩⟩

section Entries

variable {s : SmLogged} {e : SmEvent UeNet}

/-- What T3580 submits is right exactly under `StepRepeats`. -/
theorem LogInv.again_iff (h : LogInv s) (hstate : s.sm.state = .establishing)
    (hexpires : t3580Expires s.sm e = true) (hpicks : picksUpConnect s.sm e = false) :
    StepRepeats s e ↔ EntrySound s.log (.repeated (smBuildEstablishRequest s.sm)) := by
  have hcursor := h.cursor
  cases hf : lastFirst s.log with
  | none =>
    rw [hf, hstate] at hcursor
    exact absurd hcursor.1 nofun
  | some f =>
    rw [hf] at hcursor
    have hiff := establishFields_again_iff (h.carries hstate f hf) hcursor.1.1
    constructor
    · intro hstep
      exact ⟨f, hf, hiff.mpr (hstep.expires hexpires f hf)⟩
    · rintro ⟨g, hg, hfields⟩
      refine ⟨fun _ g' hg' => ?_, fun hset => absurd (hpicks.symm.trans hset) nofun⟩
      cases hf.symm.trans hg
      cases hf.symm.trans hg'
      exact hiff.mp hfields

/-- A retry follows its attempt without a reset of the cursor. -/
theorem LogInv.nextPti_ne_zero (h : LogInv s) (hstate : s.sm.state = .establishing)
    {f : UeSmPduSessionEstRequest} (hf : lastFirst s.log = some f) : s.sm.nextPti ≠ 0 := by
  intro hzero
  have hcursor := h.cursor
  rw [hf, hstate, hzero] at hcursor
  have hvalid := (succPti_ne f.pti hcursor.1.1 hcursor.1.2).1.1
  rw [← show (0 : UInt8) = succPti f.pti from hcursor.2] at hvalid
  exact absurd hvalid (by decide)

/-- The first request of an attempt is right exactly under `StepRepeats`. -/
theorem LogInv.start_iff (h : LogInv s) {q : UeSmPduSessionEstRequest}
    (hexpires : t3580Expires s.sm e = false)
    (hpicks : picksUpConnect s.sm e = true ∨ s.sm.state = .establishing)
    (hpti : q.pti = (smAllocPti s.sm).pti) (hvalid : 1 ≤ q.pti) :
    StepRepeats s e ↔ EntrySound s.log (.first q) := by
  have hiff : ∀ f, lastFirst s.log = some f →
      ((establishFields q).pti ≠ (establishFields f).pti ↔ (s.sm.nextPti = 0 → f.pti ≠ 1)) := by
    intro f hf
    have hcursor := h.cursor
    rw [hf] at hcursor
    rw [establishFields_pti hvalid, establishFields_pti hcursor.1.1, hpti]
    exact hcursor.pti_ne_iff
  constructor
  · intro hstep f hf
    refine (hiff f hf).mpr fun hzero => ?_
    rcases hpicks with hpicked | hestablishing
    · exact hstep.starts hpicked hzero f hf
    · exact absurd hzero (h.nextPti_ne_zero hestablishing hf)
  · intro hentry
    refine ⟨fun hset => absurd (hexpires.symm.trans hset) nofun, fun _ hzero f hf => ?_⟩
    exact (hiff f hf).mp (hentry f hf) hzero

/-- The invariant after a step that starts no attempt. -/
theorem LogInv.quiet {s' : SmLogged} (h : LogInv s) (hsm : SmInv s'.sm)
    (hquiet : QuietMove s.sm s'.sm) (hlast : lastFirst s'.log = lastFirst s.log) : LogInv s' where
  sm := hsm
  cursor := by
    rw [hlast]
    exact hquiet.cursor h.cursor
  carries hstate f hf := by
    rw [hlast] at hf
    exact hquiet.carries (fun hbefore => h.carries hbefore f hf) hstate

end Entries

/-- A step keeps the invariant, and what it submits is right exactly under `StepRepeats`. -/
theorem loggedStep_spec {s : SmLogged} (h : LogInv s) (e : SmEvent UeNet) :
    LogInv (loggedStep s e) ∧
      (Journal.Sound EntrySound s.log →
        (StepRepeats s e ↔ Journal.Sound EntrySound (loggedStep s e).log)) := by
  obtain ⟨qs, hnet, hsubmits⟩ := stepSubmits h.sm e
  have hsm : (loggedStep s e).sm = (smStep smNetwork s.machine e).1 := rfl
  have hinv := (smStep_inv smNetwork h.sm e).1
  have hlog : (loggedStep s e).log =
      s.log ++ qs.map (if t3580Expires s.sm e then .repeated else .first) := by
    simp only [loggedStep, hnet, List.drop_left]
  cases hsubmits with
  | nothing hquiet hexpires hpicks =>
    rw [List.map_nil, List.append_nil] at hlog
    refine ⟨h.quiet hinv hquiet (by rw [hlog]), fun hsound => iff_of_true ?_ (hlog ▸ hsound)⟩
    exact ⟨fun hset => absurd (hexpires.symm.trans hset) nofun,
      fun hset => absurd (hpicks.symm.trans hset) nofun⟩
  | again hstate hexpires hpicks hquiet =>
    rw [hexpires, if_pos rfl, List.map_singleton] at hlog
    refine ⟨h.quiet hinv hquiet (by rw [hlog, lastFirst_repeated]), fun hsound => ?_⟩
    rw [hlog, Journal.sound_concat, and_iff_right hsound]
    exact h.again_iff hstate hexpires hpicks
  | start q hexpires hpicks hpti hstarted =>
    rw [hexpires, if_neg nofun, List.map_singleton] at hlog
    refine ⟨⟨hinv, ?_, ?_⟩, fun hsound => ?_⟩
    · rw [hlog, lastFirst_first, hsm, hstarted.state]
      exact ⟨hstarted.pti, hstarted.next⟩
    · intro _ f hf
      rw [hlog, lastFirst_first] at hf
      cases hf
      exact hstarted.carries
    · rw [hlog, Journal.sound_concat, and_iff_right hsound]
      exact h.start_iff hexpires hpicks hpti hstarted.pti.1

/-! ## Runs -/

theorem smStart_logInv (dnn pduType : Bytes) (net : UeNet) :
    LogInv { machine := smStart dnn pduType net } :=
  ⟨smStart_inv dnn pduType net, ⟨rfl, rfl⟩, nofun⟩

/-- The log is right in every state of a run exactly if T3580 runs out only in attempts with
the transaction identity 1 and their own DNN, and no attempt with that identity comes before
the first one after a reset. -/
theorem smRun_repeats_iff (dnn pduType : Bytes) (net : UeNet) (es : List (SmEvent UeNet)) :
    (∀ pre, pre <+: es → Journal.Sound EntrySound
        (run loggedStep { machine := smStart dnn pduType net } pre).log) ↔
      Along loggedStep StepRepeats { machine := smStart dnn pduType net } es := by
  refine (along_iff_property (I := fun s => LogInv s ∧ Journal.Sound EntrySound s.log)
    (fun _ hinv => hinv.2) ?_ ?_ ⟨smStart_logInv dnn pduType net, Journal.sound_nil⟩).symm
  · rintro s e ⟨hinv, hsound⟩ hstep
    obtain ⟨hnext, hiff⟩ := loggedStep_spec hinv e
    exact ⟨hnext, (hiff hsound).mp hstep⟩
  · rintro s e ⟨hinv, hsound⟩ hafter
    exact ((loggedStep_spec hinv e).2 hsound).mpr hafter

/-- The first attempt is rejected, and the second one is not answered in time. -/
def secondAttempt : List (SmEvent UeNet) :=
  [.connect [0x61], .tick 1 true, .reject .insufficientResources, .tick 2 true, .tick 16002 true]

/-- The second attempt begins with the transaction identity 2 and is repeated with 1. -/
theorem secondAttempt_repeats :
    let net : UeNet := { nasSec := nasSecNone, ran := {} }
    let log := (run loggedStep { machine := smStart [0x61] [] net } secondAttempt).log
    (∃ q₁ q₂ q₃, log = [.first q₁, .first q₂, .repeated q₃] ∧ (establishFields q₂).pti = 2 ∧
      (establishFields q₃).pti = 1) ∧ ¬Journal.Sound EntrySound log := by
  intro net log
  have hlog : ∃ q₁ q₂ q₃, log = [.first q₁, .first q₂, .repeated q₃] ∧
      (establishFields q₂).pti = 2 ∧ (establishFields q₃).pti = 1 := by
    refine ⟨⟨1, 1, 1, .initial, [0x61], [0x69, 0x70, 0x76, 0x34], 1, false⟩,
      ⟨2, 1, 2, .initial, [0x61], [0x69, 0x70, 0x76, 0x34], 1, true⟩,
      ⟨2, 1, 1, .initial, [0x61], [0x69, 0x70, 0x76, 0x34], 1, true⟩, ?_, by decide, by decide⟩
    decide +kernel
  refine ⟨hlog, ?_⟩
  obtain ⟨q₁, q₂, q₃, heq, h₂, h₃⟩ := hlog
  intro hsound
  obtain ⟨f, hf, hfields⟩ := hsound [.first q₁, .first q₂] (.repeated q₃) [] heq
  have hlast : lastFirst [.first q₁, .first q₂] = some q₂ := rfl
  cases hlast.symm.trans hf
  rw [hfields, h₂] at h₃
  exact absurd h₃ (by decide)

end VirtualLte.Sm
