import VirtualLte.Lib.SlotTable
import VirtualLte.Ims.Text

/-!
# The table of APN contexts

`apn_context.c`: sixteen slots, found by the name of the APN in any case, and never freed.  A
name is stored in 64 octets, but a lookup compares the caller's whole name with what is
stored.

* `apnContextUpsert_cases`: what one upsert does.
* `ApnContextManager.Sound`: the invariant of every run over names that are stored whole.
* `behavesAsMap_iff`: the table is a map over a set of names exactly if they are.
-/

namespace VirtualLte

open Engine Ims

/-! ## The manager -/

inductive ApnContextKind where
  | hostData
  | imsInternal
  deriving DecidableEq, Repr

inductive ApnContextSource where
  | hostProvisioned
  | hostLteAttach
  | hostConnect
  | internal
  deriving DecidableEq, Repr

structure ApnContext where
  used : Bool := false
  id : UInt32 := 0
  apn : Bytes := []
  ipType : UInt32 := 0
  source : ApnContextSource := .hostProvisioned
  kind : ApnContextKind := .hostData
  deriving DecidableEq, Repr

structure ApnContextManager where
  imsEnabled : Bool
  nextId : UInt32 := 1
  contexts : List ApnContext := List.replicate 16 {}
  deriving DecidableEq, Repr

/-- `!strcasecmp(a, b)`. -/
def sameName (a b : Bytes) : Bool := a.map asciiLower == b.map asciiLower

def apnContextClassify (imsEnabled : Bool) (apn : Bytes) : ApnContextKind :=
  if imsEnabled && sameName apn (asciiText "ims") then .imsInternal else .hostData

def findByApn (mgr : ApnContextManager) (apn : Bytes) : Option Nat :=
  mgr.contexts.findIdx? fun c => c.used && sameName c.apn apn

/-- The end of an upsert, for the context in slot `i`. -/
def apnContextFill (mgr : ApnContextManager) (i : Nat) (ctx : ApnContext) (apn : Bytes)
    (ipType : UInt32) (source : ApnContextSource) : Option UInt32 × ApnContextManager :=
  let ctx := { ctx with
    ipType := if ipType ≠ 0 then ipType else 1
    source
    kind := apnContextClassify mgr.imsEnabled apn }
  (some ctx.id, { mgr with contexts := mgr.contexts.set i ctx })

/-- The id, unless the upsert fails. -/
def apnContextUpsert (mgr : ApnContextManager) (apn : Bytes) (ipType : UInt32)
    (source : ApnContextSource) : Option UInt32 × ApnContextManager :=
  if apn = [] then (none, mgr)
  else
    match findByApn mgr apn with
    | some i => apnContextFill mgr i (mgr.contexts.getD i {}) apn ipType source
    | none =>
      match mgr.contexts.findIdx? (!·.used) with
      | some i =>
        apnContextFill { mgr with nextId := mgr.nextId + 1 } i
          { used := true, id := mgr.nextId, apn := snprintf 64 apn } apn ipType source
      | none => (none, mgr)

def apnContextGetIms (mgr : ApnContextManager) : Option ApnContext :=
  mgr.contexts.find? fun c => c.used && c.kind = .imsInternal

/-! ## One upsert -/

/-- Slot `i` is used, for the context `c`. -/
def ApnContextManager.Entry (mgr : ApnContextManager) (i : Nat) (c : ApnContext) : Prop :=
  mgr.contexts[i]? = some c ∧ c.used = true

/-- What an upsert of `apn` leaves in the slot it took. -/
structure Filled (mgr : ApnContextManager) (name : Bytes) (id : UInt32) (stored : Bytes)
    (x : ApnContext) : Prop where
  used : x.used = true
  id : x.id = id
  apn : x.apn = stored
  kind : x.kind = apnContextClassify mgr.imsEnabled name

/-- No context is found under `apn`. -/
def Unknown (mgr : ApnContextManager) (apn : Bytes) : Prop :=
  ∀ i c, mgr.Entry i c → sameName c.apn apn = false

inductive Upserted (mgr : ApnContextManager) (apn : Bytes) :
    Option UInt32 → ApnContextManager → Prop where
  | refused (h : apn = [] ∨ Unknown mgr apn ∧ ∀ c ∈ mgr.contexts, c.used = true) :
    Upserted mgr apn none mgr
  | found {i c x} (hc : mgr.Entry i c) (hsame : sameName c.apn apn = true)
      (hx : Filled mgr apn c.id c.apn x) :
    Upserted mgr apn (some c.id) { mgr with contexts := mgr.contexts.set i x }
  | added {i y x} (hnew : Unknown mgr apn) (hy : mgr.contexts[i]? = some y) (hfree : y.used = false)
      (hx : Filled mgr apn mgr.nextId (apn.take 63) x) :
    Upserted mgr apn (some mgr.nextId)
      { mgr with nextId := mgr.nextId + 1, contexts := mgr.contexts.set i x }

theorem apnContextUpsert_cases (mgr : ApnContextManager) (apn : Bytes) (ipType : UInt32)
    (source : ApnContextSource) :
    Upserted mgr apn (apnContextUpsert mgr apn ipType source).1
      (apnContextUpsert mgr apn ipType source).2 := by
  unfold apnContextUpsert
  split
  · exact .refused (.inl ‹_›)
  · cases hfind : findByApn mgr apn with
    | some i =>
      obtain ⟨hi, hc, -⟩ := List.findIdx?_eq_some_iff_getElem.mp hfind
      obtain ⟨hused, hsame⟩ := (Bool.and_eq_true ..).mp hc
      have hget : mgr.contexts.getD i {} = mgr.contexts[i] := by simp [hi]
      simp only [hget]
      exact .found (c := mgr.contexts[i]) ⟨List.getElem?_eq_getElem hi, hused⟩ hsame ⟨hused, rfl, rfl, rfl⟩
    | none =>
      have hnew : Unknown mgr apn := fun i c hc => by
        have hno := List.findIdx?_eq_none_iff.mp hfind c (List.mem_of_getElem? hc.1)
        simpa [hc.2] using hno
      cases hfree : mgr.contexts.findIdx? (!·.used) with
      | some i =>
        obtain ⟨hi, hc, -⟩ := List.findIdx?_eq_some_iff_getElem.mp hfree
        exact .added hnew (List.getElem?_eq_getElem hi) (by simpa using hc) ⟨rfl, rfl, rfl, rfl⟩
      | none =>
        refine .refused (.inr ⟨hnew, fun c hc => ?_⟩)
        simpa using List.findIdx?_eq_none_iff.mp hfree c hc

/-! ## The invariant -/

variable {mgr mgr' : ApnContextManager} {apn : Bytes} {i j : Nat} {c d x : ApnContext}
  {result : Option UInt32}

theorem sameName_iff {a b : Bytes} :
    sameName a b = true ↔ a.map asciiLower = b.map asciiLower := beq_iff_eq

/-- The entries after a slot was written. -/
theorem entry_set (hcontexts : mgr'.contexts = mgr.contexts.set i x) (h : mgr'.Entry j d) :
    (j = i ∧ d = x) ∨ (j ≠ i ∧ mgr.Entry j d) := by
  obtain ⟨hget, hused⟩ := h
  rw [hcontexts, List.getElem?_set] at hget
  split at hget
  · split at hget
    · exact .inl ⟨‹i = j›.symm, (Option.some.inj hget).symm⟩
    · cases hget
  · exact .inr ⟨fun h => ‹¬ i = j› h.symm, hget, hused⟩

theorem set_entry (hcontexts : mgr'.contexts = mgr.contexts.set i x) (hi : i < mgr.contexts.length)
    (hx : x.used = true) : mgr'.Entry i x := by
  refine ⟨?_, hx⟩
  rw [hcontexts, List.getElem?_set_self hi]

structure ApnContextManager.Sound (mgr : ApnContextManager) : Prop where
  length : mgr.contexts.length = 16
  nextId : mgr.nextId.toNat = 1 + (SlotTable.contents (·.used) mgr.contexts).length
  id_lt : ∀ i c, mgr.Entry i c → 0 < c.id.toNat ∧ c.id.toNat < mgr.nextId.toNat
  distinct : ∀ i j c d, mgr.Entry i c → mgr.Entry j d →
    sameName c.apn d.apn = true ∨ c.id = d.id → i = j
  kind : ∀ i c, mgr.Entry i c → c.kind = apnContextClassify mgr.imsEnabled c.apn

theorem ApnContextManager.Sound.init (ims : Bool) :
    ({ imsEnabled := ims } : ApnContextManager).Sound := by
  have hnone : ∀ i c, ¬ ({ imsEnabled := ims } : ApnContextManager).Entry i c := by
    rintro i c ⟨hget, hused⟩
    have hc := List.eq_of_mem_replicate (List.mem_of_getElem? hget)
    rw [hc] at hused
    cases hused
  exact ⟨rfl, rfl, fun i c h => (hnone i c h).elim, fun i _ c _ h => (hnone i c h).elim,
    fun i c h => (hnone i c h).elim⟩

/-- An entry of the name of `x`, in a table where `x` replaces `c`. -/
theorem ApnContextManager.Sound.found (h : mgr.Sound) (hc : mgr.Entry i c)
    (hsame : sameName c.apn apn = true) (hx : Filled mgr apn c.id c.apn x) :
    ApnContextManager.Sound { mgr with contexts := mgr.contexts.set i x } := by
  -- every entry has the name and the id of the entry that was in its slot
  have hold : ∀ j d, ApnContextManager.Entry { mgr with contexts := mgr.contexts.set i x } j d →
      ∃ d', mgr.Entry j d' ∧ d.id = d'.id ∧ d.apn = d'.apn := by
    intro j d hd
    obtain ⟨rfl, rfl⟩ | ⟨-, hd⟩ := entry_set rfl hd
    · exact ⟨c, hc, hx.id, hx.apn⟩
    · exact ⟨d, hd, rfl, rfl⟩
  refine ⟨?_, ?_, fun j d hd => ?_, fun j k d e hd he hsame => ?_, fun j d hd => ?_⟩
  · rw [List.length_set, h.length]
  · obtain ⟨rest, hbefore, hafter⟩ := SlotTable.contents_set_used hc.1 hc.2 hx.used
    rw [h.nextId, hbefore.length_eq, hafter.length_eq]
    rfl
  · obtain ⟨d', hd', hid, -⟩ := hold j d hd
    rw [hid]
    exact h.id_lt j d' hd'
  · obtain ⟨d', hd', hid, hname⟩ := hold j d hd
    obtain ⟨e', he', hid', hname'⟩ := hold k e he
    rw [hid, hname, hid', hname'] at hsame
    exact h.distinct j k d' e' hd' he' hsame
  · obtain ⟨rfl, rfl⟩ | ⟨-, hd⟩ := entry_set rfl hd
    · rw [hx.kind, hx.apn]
      simp only [apnContextClassify, sameName, sameName_iff.mp hsame]
      rfl
    · exact h.kind j d hd

theorem ApnContextManager.Sound.added {y : ApnContext} (h : mgr.Sound) (hnew : Unknown mgr apn)
    (hy : mgr.contexts[i]? = some y) (hfree : y.used = false)
    (hx : Filled mgr apn mgr.nextId apn x) :
    ApnContextManager.Sound
      { mgr with nextId := mgr.nextId + 1, contexts := mgr.contexts.set i x } := by
  have hi : i < mgr.contexts.length := (List.getElem?_eq_some_iff.mp hy).1
  have hperm : (SlotTable.contents (·.used) (mgr.contexts.set i x)).Perm _ :=
    SlotTable.contents_set_free hy hfree hx.used
  have hcount : (SlotTable.contents (·.used) (mgr.contexts.set i x)).length ≤ 16 :=
    Nat.le_trans (List.length_filter_le ..) (by rw [List.length_set, h.length])
  rw [hperm.length_eq, List.length_cons] at hcount
  have hnext : (mgr.nextId + 1).toNat = mgr.nextId.toNat + 1 := by
    have hbefore := h.nextId
    rw [UInt32.toNat_add]
    change (mgr.nextId.toNat + 1) % 2 ^ 32 = _
    omega
  have hpos : 0 < mgr.nextId.toNat := by rw [h.nextId]; omega
  -- the new entry differs from every other in its name and its id
  have hother : ∀ j d, mgr.Entry j d → sameName d.apn x.apn = false ∧ d.id ≠ x.id := by
    intro j d hd
    refine ⟨by rw [hx.apn]; exact hnew j d hd, fun hid => ?_⟩
    have hlt := (h.id_lt j d hd).2
    rw [hid, hx.id] at hlt
    exact Nat.lt_irrefl _ hlt
  refine ⟨?_, ?_, fun j d hd => ?_, fun j k d e hd he hsame => ?_, fun j d hd => ?_⟩
  · rw [List.length_set, h.length]
  · rw [hnext, hperm.length_eq, h.nextId, List.length_cons]
    omega
  · rw [hnext]
    obtain ⟨rfl, rfl⟩ | ⟨-, hd⟩ := entry_set rfl hd
    · rw [hx.id]
      omega
    · have := h.id_lt j d hd
      omega
  · obtain ⟨rfl, rfl⟩ | ⟨-, hd₀⟩ := entry_set rfl hd
    · obtain ⟨rfl, -⟩ | ⟨-, he₀⟩ := entry_set rfl he
      · rfl
      · obtain ⟨hname, hid⟩ := hother k e he₀
        rw [sameName_iff, eq_comm, ← sameName_iff, hname] at hsame
        simp [hid.symm] at hsame
    · obtain ⟨-, rfl⟩ | ⟨-, he₀⟩ := entry_set rfl he
      · obtain ⟨hname, hid⟩ := hother j d hd₀
        simp [hname, hid] at hsame
      · exact h.distinct j k d e hd₀ he₀ hsame
  · obtain ⟨rfl, rfl⟩ | ⟨-, hd⟩ := entry_set rfl hd
    · rw [hx.kind, hx.apn]
    · exact h.kind j d hd

theorem Upserted.sound (h : Upserted mgr apn result mgr') (hsound : mgr.Sound)
    (hshort : apn.length ≤ 63) : mgr'.Sound := by
  cases h with
  | refused h => exact hsound
  | found hc hsame hx => exact hsound.found hc hsame hx
  | added hnew hy hfree hx =>
    rw [List.take_of_length_le hshort] at hx
    exact hsound.added hnew hy hfree hx

/-- An entry that was not the one upserted is left alone, and the other keeps its name and
its id. -/
theorem Upserted.keeps (h : Upserted mgr apn result mgr') (hc : mgr.Entry i c) :
    (mgr'.Entry i c ∨ result = some c.id) ∧
      ∃ c', mgr'.Entry i c' ∧ c'.id = c.id ∧ c'.apn = c.apn := by
  have hi : i < mgr.contexts.length := (List.getElem?_eq_some_iff.mp hc.1).1
  -- a slot beside the one that was written
  have hbeside : ∀ {j x next}, j ≠ i → ApnContextManager.Entry
      { mgr with nextId := next, contexts := mgr.contexts.set j x } i c := fun hne =>
    ⟨(List.getElem?_set_ne hne).trans hc.1, hc.2⟩
  cases h with
  | refused h => exact ⟨.inl hc, c, hc, rfl, rfl⟩
  | @found j d x hd hsame hx =>
    by_cases hj : j = i
    · subst hj
      obtain rfl : d = c := Option.some.inj (hd.1.symm.trans hc.1)
      exact ⟨.inr rfl, x, set_entry rfl hi hx.used, hx.id, hx.apn⟩
    · exact ⟨.inl (hbeside hj), c, hbeside hj, rfl, rfl⟩
  | @added j y x hnew hy hfree hx =>
    have hj : j ≠ i := by
      rintro rfl
      obtain rfl : y = c := Option.some.inj (hy.symm.trans hc.1)
      exact Bool.noConfusion (hfree.symm.trans hc.2)
    exact ⟨.inl (hbeside hj), c, hbeside hj, rfl, rfl⟩

/-- After an upsert its id is that of an entry of the name. -/
theorem Upserted.stored {id : UInt32} (h : Upserted mgr apn (some id) mgr')
    (hshort : apn.length ≤ 63) :
    ∃ i c, mgr'.Entry i c ∧ c.id = id ∧ sameName c.apn apn = true := by
  cases h with
  | found hc hsame hx =>
    exact ⟨_, _, set_entry rfl (List.getElem?_eq_some_iff.mp hc.1).1 hx.used, hx.id, hx.apn ▸ hsame⟩
  | added hnew hy hfree hx =>
    rw [List.take_of_length_le hshort] at hx
    exact ⟨_, _, set_entry rfl (List.getElem?_eq_some_iff.mp hy).1 hx.used, hx.id,
      by rw [hx.apn, sameName_iff]⟩

/-! ## Runs -/

structure ApnUpsert where
  apn : Bytes
  ipType : UInt32 := 0
  source : ApnContextSource := .hostConnect

def ApnUpsert.apply (op : ApnUpsert) (mgr : ApnContextManager) : Option UInt32 × ApnContextManager :=
  apnContextUpsert mgr op.apn op.ipType op.source

/-- The manager after some upserts. -/
def upserts (mgr : ApnContextManager) (ops : List ApnUpsert) : ApnContextManager :=
  ops.foldl (fun mgr op => (op.apply mgr).2) mgr

theorem ApnUpsert.upserted (op : ApnUpsert) (mgr : ApnContextManager) :
    Upserted mgr op.apn (op.apply mgr).1 (op.apply mgr).2 :=
  apnContextUpsert_cases ..

theorem sound_upserts {ops : List ApnUpsert} (h : mgr.Sound) (hshort : ∀ op ∈ ops, op.apn.length ≤ 63) :
    (upserts mgr ops).Sound := by
  induction ops generalizing mgr with
  | nil => exact h
  | cons op ops ih =>
    obtain ⟨hop, hops⟩ := List.forall_mem_cons.mp hshort
    exact ih ((op.upserted mgr).sound h hop) hops

theorem keeps_upserts (ops : List ApnUpsert) (hc : mgr.Entry i c) :
    ∃ c', (upserts mgr ops).Entry i c' ∧ c'.id = c.id ∧ c'.apn = c.apn := by
  induction ops generalizing mgr c with
  | nil => exact ⟨c, hc, rfl, rfl⟩
  | cons op ops ih =>
    obtain ⟨-, c₁, hc₁, hid, hname⟩ := (op.upserted mgr).keeps hc
    obtain ⟨c', hc', hid', hname'⟩ := ih hc₁
    exact ⟨c', hc', hid'.trans hid, hname'.trans hname⟩

/-- The managers that upserts of some names lead to. -/
def Reached (names : Bytes → Prop) (mgr : ApnContextManager) : Prop :=
  ∃ ims ops, (∀ op ∈ ops, names op.apn) ∧ mgr = upserts { imsEnabled := ims } ops

/-- The table is a map over a set of names, in any case, to contexts. -/
structure BehavesAsMap (names : Bytes → Prop) : Prop where
  distinct : ∀ mgr, Reached names mgr → ∀ i j c d, mgr.Entry i c → mgr.Entry j d →
    c.id ≠ 0 ∧ (sameName c.apn d.apn = true ∨ c.id = d.id → i = j)
  sameId : ∀ mgr, Reached names mgr → ∀ (op op' : ApnUpsert) (ops : List ApnUpsert),
    names op.apn → names op'.apn → (∀ o ∈ ops, names o.apn) → sameName op.apn op'.apn = true →
    ∀ id id', (op.apply mgr).1 = some id →
      (op'.apply (upserts (op.apply mgr).2 ops)).1 = some id' → id' = id
  frame : ∀ mgr, Reached names mgr → ∀ op : ApnUpsert, names op.apn → ∀ i c, mgr.Entry i c →
    (op.apply mgr).1 ≠ some c.id → (op.apply mgr).2.Entry i c
  oneIms : ∀ mgr, Reached names mgr → ∀ i j c d, mgr.Entry i c → mgr.Entry j d →
    c.kind = .imsInternal → d.kind = .imsInternal → i = j ∧ apnContextGetIms mgr = some c
  fails : ∀ mgr, Reached names mgr → ∀ op : ApnUpsert, names op.apn → (op.apply mgr).1 = none →
    op.apn = [] ∨ Unknown mgr op.apn ∧ ∀ c ∈ mgr.contexts, c.used = true

theorem ApnContextManager.Sound.oneIms (h : mgr.Sound) (hc : mgr.Entry i c) (hd : mgr.Entry j d)
    (hckind : c.kind = .imsInternal) (hdkind : d.kind = .imsInternal) :
    i = j ∧ apnContextGetIms mgr = some c := by
  have hims : ∀ {k e}, mgr.Entry k e → e.kind = .imsInternal →
      e.apn.map asciiLower = (asciiText "ims").map asciiLower := by
    intro k e he hkind
    rw [h.kind k e he, apnContextClassify] at hkind
    split at hkind
    · exact sameName_iff.mp ((Bool.and_eq_true ..).mp ‹_›).2
    · cases hkind
  have hone : ∀ {k e}, mgr.Entry k e → e.kind = .imsInternal → i = k := fun he hkind =>
    h.distinct i _ c _ hc he (.inl (sameName_iff.mpr ((hims hc hckind).trans (hims he hkind).symm)))
  refine ⟨hone hd hdkind, ?_⟩
  have hget : ((fun c => c.used && c.kind = .imsInternal : ApnContext → Bool) c) = true := by
    simp [hc.2, hckind]
  cases hfind : apnContextGetIms mgr with
  | none => exact absurd hget (List.find?_eq_none.mp hfind c (List.mem_of_getElem? hc.1))
  | some e =>
    obtain ⟨k, hk⟩ := List.mem_iff_getElem?.mp (List.mem_of_find?_eq_some hfind)
    have he := List.find?_some hfind
    simp only [Bool.and_eq_true, decide_eq_true_eq] at he
    obtain rfl := hone ⟨hk, he.1⟩ he.2
    exact hk.symm.trans hc.1

/-- The entry that an upsert leaves is the one that a later upsert of the name finds. -/
theorem sameId_of_short {op op' : ApnUpsert} {ops : List ApnUpsert} (hsound : mgr.Sound)
    (hop : op.apn.length ≤ 63) (hop' : op'.apn.length ≤ 63) (hops : ∀ o ∈ ops, o.apn.length ≤ 63)
    (hname : sameName op.apn op'.apn = true) {id id' : UInt32} (hid : (op.apply mgr).1 = some id)
    (hid' : (op'.apply (upserts (op.apply mgr).2 ops)).1 = some id') : id' = id := by
  have hfirst := op.upserted mgr
  obtain ⟨i, c, hc, hcid, hcname⟩ := (hid ▸ hfirst).stored hop
  have hlater : (upserts (op.apply mgr).2 ops).Sound := sound_upserts (hfirst.sound hsound hop) hops
  obtain ⟨c₁, hc₁, hid₁, hname₁⟩ := keeps_upserts ops hc
  have hsecond := op'.upserted (upserts (op.apply mgr).2 ops)
  obtain ⟨-, c₂, hc₂, hid₂, hname₂⟩ := hsecond.keeps hc₁
  obtain ⟨j, d, hd, hdid, hdname⟩ := (hid' ▸ hsecond).stored hop'
  have hsame : sameName c₂.apn d.apn = true := by
    rw [sameName_iff] at *
    rw [hname₂, hname₁, hcname, hname, hdname]
  obtain rfl := (hsecond.sound hlater hop').distinct i j c₂ d hc₂ hd (.inl hsame)
  obtain rfl : c₂ = d := Option.some.inj (hc₂.1.symm.trans hd.1)
  rw [← hdid, hid₂, hid₁, hcid]

/-- Twice the same long name, from the start. -/
theorem long_name_twice {apn : Bytes} (h : 63 < apn.length) :
    (ApnUpsert.apply { apn } { imsEnabled := false }).1 = some 1 ∧
      (ApnUpsert.apply { apn } (ApnUpsert.apply { apn } { imsEnabled := false }).2).1 = some 2 := by
  have hne : apn ≠ [] := by
    rintro rfl
    exact absurd h (by decide)
  have hother : sameName (apn.take 63) apn = false := by
    refine Bool.eq_false_iff.mpr fun hsame => ?_
    have hlen := congrArg List.length (sameName_iff.mp hsame)
    rw [List.length_map, List.length_map, List.length_take] at hlen
    omega
  simp [ApnUpsert.apply, apnContextUpsert, apnContextFill, findByApn, snprintf, hne, hother,
    List.replicate, List.findIdx?_cons]

/-- The table is a map over a set of names exactly if each of them is stored whole. -/
theorem behavesAsMap_iff (names : Bytes → Prop) :
    BehavesAsMap names ↔ ∀ apn, names apn → apn.length ≤ 63 := by
  constructor
  · intro h apn hapn
    by_contra hlong
    obtain ⟨hfirst, hsecond⟩ := long_name_twice (Nat.not_le.mp hlong)
    have hsame := h.sameId { imsEnabled := false } ⟨false, [], by simp, rfl⟩ { apn } { apn } [] hapn
      hapn (by simp) (sameName_iff.mpr rfl) 1 2 hfirst hsecond
    exact absurd hsame (by decide)
  · intro h
    have hsound : ∀ mgr, Reached names mgr → mgr.Sound := by
      rintro mgr ⟨ims, ops, hops, rfl⟩
      exact sound_upserts (.init ims) fun op hop => h _ (hops op hop)
    refine ⟨fun mgr hmgr i j c d hc hd => ?_, fun mgr hmgr op op' ops hop hop' hops hname id id' => ?_,
      fun mgr _ op _ i c hc hne => ((op.upserted mgr).keeps hc).1.resolve_right hne,
      fun mgr hmgr i j c d hc hd => (hsound mgr hmgr).oneIms hc hd, fun mgr _ op _ hnone => ?_⟩
    · refine ⟨fun hzero => ?_, (hsound mgr hmgr).distinct i j c d hc hd⟩
      have hpos := ((hsound mgr hmgr).id_lt i c hc).1
      rw [hzero] at hpos
      exact absurd hpos (by decide)
    · exact sameId_of_short (hsound mgr hmgr) (h _ hop) (h _ hop') (fun o ho => h _ (hops o ho)) hname
    · have hcases := op.upserted mgr
      rw [hnone] at hcases
      generalize (op.apply mgr).2 = mgr' at hcases
      cases hcases with
      | refused h => exact h

/-- A name of 64 characters gets a new context each time. -/
theorem behavesAsMap_long_name : ¬ BehavesAsMap fun _ => True := by
  intro h
  have hsame := h.sameId { imsEnabled := false } ⟨false, [], by simp, rfl⟩
    { apn := List.replicate 64 0x61 } { apn := List.replicate 64 0x61 } [] trivial trivial (by simp)
    (by decide) 1 2 (by decide +kernel) (by decide +kernel)
  exact absurd hsame (by decide)

end VirtualLte
