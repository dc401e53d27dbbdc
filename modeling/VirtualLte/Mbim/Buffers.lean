import VirtualLte.Mbim.Handlers
import VirtualLte.Mbim.Layout
import VirtualLte.Mbim.ReadInfo

/-!
# The information buffers of the handlers

Each buffer that a handler builds is well formed for its layout and fits a response.

* `MbimWireBuilder.Draft` is what holds of the builder between two appended strings.
* One lemma for each handler that advertises a pair, such as `deviceCapsInfo_wellFormed`.
* `ListLayout.wellFormed_single` is shared by the two lists of contexts.
* `lteAttachConfiguration_holds` is the step of the attach configurations, and
  `foldl_lteAttachConfiguration` what several steps leave.
-/

namespace VirtualLte.Mbim

/-! ## Drafts -/

/-- A builder of a response whose frame starts at `base`, with at least `lo` and at most
`hi` octets so far. -/
structure MbimWireBuilder.Draft (b : MbimWireBuilder) (base lo hi : Nat) : Prop where
  cap : b.cap.toNat = 4048
  overflow : b.overflow = false
  frameBase : b.frameBase.toNat = base
  lo : lo ≤ b.len.toNat
  hi : b.len.toNat ≤ hi

/-- A string of at most 63 characters takes at most 128 octets. -/
theorem MbimWireBuilder.Draft.append {b : MbimWireBuilder} {base lo hi : Nat} (h : b.Draft base lo hi)
    (ascii : Bytes) (hascii : ascii.length ≤ 63) (hbase : base ≤ lo) (hroom : hi + 128 ≤ 4048) :
    ∃ ref b', mbimWireAppendString b ascii = (ref, b') ∧ b'.Draft base lo (hi + 128) ∧
      b.len.toNat ≤ b'.len.toNat ∧
      (∀ off data, b.Holds off data → off + data.length ≤ b.len.toNat → b'.Holds off data) ∧
      b'.HoldsText base ref ascii ∧
      (ascii ≠ [] → base + ref.offset.toNat = b.len.toNat) := by
  obtain ⟨hcap, hflag, hframe, hlo, hhi⟩ := h
  have hsize := utf16Room_le hascii
  obtain ⟨ref, b', heq, hext, href⟩ :=
    mbimWireAppendString_appended b ascii hascii hflag (by omega) (by omega)
  rw [hframe] at href
  have hlen := hext.len
  refine ⟨ref, b', heq, ⟨?_, ?_, ?_, ?_, ?_⟩, ?_, hext.keeps, href⟩
  · rw [hext.cap, hcap]
  · rw [hext.overflow, hflag]
  · rw [hext.frameBase, hframe]
  · omega
  · omega
  · omega

theorem MbimWireBuilder.Draft.info_length_le {b : MbimWireBuilder} {base lo hi : Nat}
    (h : b.Draft base lo hi) (hroom : hi ≤ 4048) {b' : MbimWireBuilder} (hlen : b'.len = b.len) :
    b'.info.length ≤ 4048 := by
  rw [MbimWireBuilder.info_length, hlen]
  exact Nat.le_trans h.hi hroom

theorem length_ite_le {c : Prop} [Decidable c] {a b : Bytes} {n : Nat} (ha : a.length ≤ n)
    (hb : b.length ≤ n) : (if c then a else b).length ≤ n := by
  split
  · exact ha
  · exact hb

/-! ## Buffers with strings -/

/-- Every string of the modem state ends inside its field. -/
structure ModemState.Terminated (m : ModemState) : Prop where
  imei : m.identity.imei.length < 32
  imsi : m.identity.imsi.length < 32
  iccid : m.identity.iccid.length < 40
  model : m.identity.model.length < 64
  firmware : m.identity.firmware.length < 64
  apn : m.apn.length < 64

theorem deviceCapsInfo_wellFormed (acts : HandlerActions) {st : HandlerState}
    (h : st.modem.Terminated) :
    deviceCapsLayout.WellFormed (deviceCapsInfo acts st) ∧ (deviceCapsInfo acts st).length ≤ 4048 := by
  obtain ⟨himei, -, -, hmodel, hfirmware, -⟩ := h
  have d₀ : (mbimWireReserve (mbimWireInit mbimInfobufCap) 64).2.Draft 0 64 64 := by
    constructor <;> decide
  obtain ⟨custom, b₁, h₁, d₁, l₁, -, ⟨-, r₁, -⟩, -⟩ := d₀.append [] (by decide) (by decide) (by decide)
  obtain ⟨devid, b₂, h₂, d₂, l₂, -, ⟨-, r₂, -⟩, -⟩ :=
    d₁.append st.modem.identity.imei (by omega) (by decide) (by decide)
  obtain ⟨fw, b₃, h₃, d₃, l₃, -, ⟨-, r₃, -⟩, -⟩ :=
    d₂.append st.modem.identity.firmware (by omega) (by decide) (by decide)
  obtain ⟨hw, b₄, h₄, d₄, l₄, -, ⟨-, r₄, -⟩, -⟩ :=
    d₃.append st.modem.identity.model (by omega) (by decide) (by decide)
  have hhi := d₄.hi
  generalize hsms : (if acts.smsEnabled && acts.imsEnabled then 3 else 0 : UInt32) = smscaps
  have hinfo : deviceCapsInfo acts st = (b₄.puts [(56, le32s [hw.offset, hw.length]),
      (48, le32s [fw.offset, fw.length]), (40, le32s [devid.offset, devid.length]),
      (32, le32s [custom.offset, custom.length]),
      (0, le32s [2, 1, 1, 2, 0x20, smscaps, 1, 1])]).info := by
    unfold deviceCapsInfo
    dsimp only
    rw [h₁, h₂, h₃, h₄, hsms]
    rfl
  rw [hinfo]
  refine ⟨InfoLayout.wellFormed_puts [(32, custom), (40, devid), (48, fw), (56, hw)] rfl nofun d₄.lo
    ?_ rfl ?_ ?_, ?_⟩
  · simp [WriteLog.Beside]
  · simp
  · simp only [List.forall_mem_cons, List.not_mem_nil, false_imp_iff, implies_true, and_true]
    omega
  · exact d₄.info_length_le (by decide) rfl

/-- Without a SIM both strings are empty. -/
theorem subscriberReadyStatusInfo_wellFormed {st : HandlerState} (h : st.modem.Terminated) :
    subscriberReadyLayout.WellFormed (subscriberReadyStatusInfo st) ∧
      (subscriberReadyStatusInfo st).length ≤ 4048 := by
  obtain ⟨-, himsi, hiccid, -, -, -⟩ := h
  have d₀ : (mbimWireReserve (mbimWireInit mbimInfobufCap) 32).2.Draft 0 32 32 := by
    constructor <;> decide
  obtain ⟨idRef, b₁, h₁, d₁, l₁, -, ⟨-, r₁, -⟩, -⟩ := d₀.append
    (if st.modem.simReady then st.modem.identity.imsi else [])
    (length_ite_le (by omega) (Nat.zero_le _)) (by decide) (by decide)
  obtain ⟨iccRef, b₂, h₂, d₂, l₂, -, ⟨-, r₂, -⟩, -⟩ := d₁.append
    (if st.modem.simReady then st.modem.identity.iccid else [])
    (length_ite_le (by omega) (Nat.zero_le _)) (by decide) (by decide)
  generalize hready : (if st.modem.simReady then 1 else 0 : UInt32) = ready
  have hinfo : subscriberReadyStatusInfo st = (b₂.puts [(20, le32s [0, 0, 0]),
      (12, le32s [iccRef.offset, iccRef.length]), (4, le32s [idRef.offset, idRef.length]),
      (0, putLe32 ready)]).info := by
    unfold subscriberReadyStatusInfo
    dsimp only
    rw [h₁, h₂, hready]
    rfl
  rw [hinfo]
  have hbeside : List.Pairwise WriteLog.Beside [(20, le32s [0, 0, 0]),
      (12, le32s [iccRef.offset, iccRef.length]), (4, le32s [idRef.offset, idRef.length]),
      (0, putLe32 ready)] := by
    simp [WriteLog.Beside]
  have hfixed : 32 ≤ b₂.len.toNat := d₂.lo
  refine ⟨InfoLayout.wellFormed_puts [(4, idRef), (12, iccRef)] rfl ?_ ?_ hbeside rfl ?_ ?_, ?_⟩
  · rintro elements ⟨⟩
    have hwords := MbimWireBuilder.holds_puts (b := b₂) hbeside List.mem_cons_self
    have hnone := wordAt_words (k := 1) hwords hfixed rfl
    exact ListLayout.wellFormed_of_held (n := 0) (fun _ => 0) (fun _ => 0) hnone
      (Nat.le_trans (by decide) hfixed) nofun nofun
  · exact Nat.le_trans (by decide) d₂.lo
  · simp
  · simp only [List.forall_mem_cons, List.not_mem_nil, false_imp_iff, implies_true, and_true]
    omega
  · exact d₂.info_length_le (by decide) rfl

theorem lteAttachStatus_wellFormed {apn : Bytes} (attached : Bool) (hapn : apn.length < 64) :
    lteAttachStatusLayout.WellFormed (lteAttachStatus mbimInfobufCap attached apn) ∧
      (lteAttachStatus mbimInfobufCap attached apn).length ≤ 4048 := by
  have d₀ : (mbimWireReserve (mbimWireInit mbimInfobufCap) 40).2.Draft 0 40 40 := by
    constructor <;> decide
  obtain ⟨accRef, b₁, h₁, d₁, l₁, -, ⟨-, r₁, -⟩, -⟩ := d₀.append (if attached then apn else [])
    (length_ite_le (by omega) (Nat.zero_le _)) (by decide) (by decide)
  obtain ⟨usrRef, b₂, h₂, d₂, l₂, -, ⟨-, r₂, -⟩, -⟩ := d₁.append [] (by decide) (by decide) (by decide)
  obtain ⟨pwdRef, b₃, h₃, d₃, l₃, -, ⟨-, r₃, -⟩, -⟩ := d₂.append [] (by decide) (by decide) (by decide)
  generalize hstate : (if attached then 1 else 0 : UInt32) = state
  have hinfo : lteAttachStatus mbimInfobufCap attached apn = (b₃.puts [(32, le32s [0, 0]),
      (24, le32s [pwdRef.offset, pwdRef.length]), (16, le32s [usrRef.offset, usrRef.length]),
      (8, le32s [accRef.offset, accRef.length]), (0, le32s [state, 1])]).info := by
    unfold lteAttachStatus
    dsimp only
    rw [h₁, h₂, h₃, hstate]
    rfl
  rw [hinfo]
  refine ⟨InfoLayout.wellFormed_puts [(8, accRef), (16, usrRef), (24, pwdRef)] rfl nofun d₃.lo
    ?_ rfl ?_ ?_, ?_⟩
  · simp [WriteLog.Beside]
  · simp
  · simp only [List.forall_mem_cons, List.not_mem_nil, false_imp_iff, implies_true, and_true]
    omega
  · exact d₃.info_length_le (by decide) rfl

/-! ## Buffers with a list -/

/-- A count and one reference. -/
def listStart : MbimWireBuilder where
  cap := mbimInfobufCap
  len := 12
  buf := WriteLog.clear 0 4 8 (WriteLog.clear 0 0 4 [])

theorem mbimWireReserve_listStart :
    mbimWireReserve (mbimWireReserve (mbimWireInit mbimInfobufCap) 4).2 8 = (4, listStart) := by
  rw [mbimWireReserve_fits (show (mbimWireInit mbimInfobufCap).len.toNat + (4 : UInt32).toNat ≤
    (mbimWireInit mbimInfobufCap).cap.toNat by decide)]
  exact mbimWireReserve_fits (by decide)

/-- The room for one element of `size` octets, which is the frame. -/
def singleStart (size : UInt32) : MbimWireBuilder :=
  { (mbimWireReserve listStart size).2 with frameBase := 12 }

theorem singleStart_draft (size : UInt32) (h : 12 + size.toNat ≤ 4048) :
    (singleStart size).Draft 12 (12 + size.toNat) (12 + size.toNat) ∧
      (singleStart size).Holds 12 (List.replicate size.toNat 0) := by
  obtain ⟨hext, hzero⟩ := mbimWireReserve_extends (b := listStart) (n := size) h
  exact ⟨⟨congrArg UInt32.toNat hext.cap, hext.overflow, rfl, Nat.le_of_eq hext.len.symm,
    Nat.le_of_eq hext.len⟩, hzero⟩

/-- A list of one element at 12, whose strings are empty except for the access string. -/
theorem ListLayout.wellFormed_single {l : ListLayout} {b : MbimWireBuilder} {hi : Nat}
    {ws : List (Nat × Bytes)} {apnRef : MbimString} (apnPos : Nat)
    (d : b.Draft 12 (12 + l.fixed) hi) (hrefs : l.refs + 8 ≤ 12)
    (hzero : b.Holds 12 (List.replicate l.fixed 0))
    (hend : 12 + (apnRef.offset.toNat + apnRef.length.toNat) ≤ b.len.toNat)
    (hbeside : ws.Pairwise WriteLog.Beside) (hcount : (l.count, le32s [1]) ∈ ws)
    (href : (l.refs, le32s [12, b.len - 12]) ∈ ws)
    (hapn : (12 + apnPos, le32s [apnRef.offset, apnRef.length]) ∈ ws)
    (hempty : ∀ pos ∈ l.strings, pos = apnPos ∨
      ∀ w ∈ ws, WriteLog.Beside (12 + pos, le32s [0, 0]) w) :
    l.WellFormed ({ b with frameBase := 0 }.puts ws).info := by
  have hbefore := l.count_before
  have hlo := d.lo
  have hsize : (b.len - 12).toNat = b.len.toNat - 12 :=
    UInt32.toNat_sub_of_le _ _ (UInt32.le_iff_toNat_le.mpr (Nat.le_trans (Nat.le_add_right _ _) hlo))
  have hword := wordAt_words (k := 0)
    (MbimWireBuilder.holds_puts (b := { b with frameBase := 0 }) hbeside hcount)
    (show l.count + 4 ≤ b.len.toNat by omega) rfl
  refine wellFormed_of_held (n := 1) (fun _ => 12) (fun _ => b.len - 12) hword ?_ ?_ ?_
  · change l.refs + 8 * 1 ≤ b.len.toNat
    omega
  · intro i hi
    obtain rfl : i = 0 := Nat.lt_one_iff.mp hi
    refine ⟨MbimWireBuilder.holds_puts hbeside href, ?_, ?_, fun pos hpos => ?_⟩
    · change 12 + (b.len - 12).toNat ≤ b.len.toNat
      omega
    · omega
    · rcases hempty pos hpos with rfl | hfree
      · exact ⟨apnRef, MbimWireBuilder.holds_puts hbeside hapn, by omega⟩
      · have hreach := l.strings_fixed pos hpos
        have hpair : b.Holds (12 + pos) (le32s [0, 0]) :=
          hzero.replicate_sub (m := 8) (Nat.le_add_right _ _) (by omega)
        exact ⟨{}, hpair.puts hfree, Nat.zero_le _⟩
  · intro i j hij hj
    omega

theorem provisionedContextsInfo_wellFormed {st : HandlerState} (h : st.modem.Terminated) :
    contextLayout.WellFormed (provisionedContextsInfo st) ∧
      (provisionedContextsInfo st).length ≤ 4048 := by
  have hapn : (if st.modem.apn ≠ [] then st.modem.apn else apnInternet).length ≤ 63 :=
    length_ite_le (Nat.lt_succ_iff.mp h.apn) (by decide)
  obtain ⟨d₀, z₀⟩ := singleStart_draft 60 (by decide)
  obtain ⟨apnRef, b₁, h₁, d₁, l₁, k₁, r₁, -⟩ := d₀.append _ hapn (by decide) (by decide)
  change mbimWireAppendString { (mbimWireReserve listStart 60).2 with frameBase := listStart.len } _ =
    _ at h₁
  have hinfo : provisionedContextsInfo st = ({ b₁ with frameBase := 0 }.puts
      [(4, le32s [12, b₁.len - 12]), (0, le32s [1]), (32, le32s [apnRef.offset, apnRef.length]),
        (16, contextTypeInternet), (12, le32s [1])]).info := by
    unfold provisionedContextsInfo
    dsimp only
    rw [mbimWireReserve_listStart, mbimWireReserve_fst]
    dsimp only
    rw [h₁]
    rfl
  rw [hinfo]
  refine ⟨ListLayout.wellFormed_single 20 d₁ (by decide) (k₁ _ _ z₀ (by decide)) r₁.inside ?_ ?_ ?_ ?_ ?_, ?_⟩
  · simp [WriteLog.Beside, contextTypeInternet]
  · simp [contextLayout]
  · simp [contextLayout]
  · simp
  · simp [contextLayout, WriteLog.Beside, contextTypeInternet]
  · exact d₁.info_length_le (by decide) rfl

theorem provisionedContextV2Info_wellFormed {st : HandlerState} (h : st.modem.Terminated) :
    contextV2Layout.WellFormed (provisionedContextV2Info st) ∧
      (provisionedContextV2Info st).length ≤ 4048 := by
  have hapn : (if st.modem.apn ≠ [] then st.modem.apn else apnInternet).length ≤ 63 :=
    length_ite_le (Nat.lt_succ_iff.mp h.apn) (by decide)
  obtain ⟨d₀, z₀⟩ := singleStart_draft 72 (by decide)
  obtain ⟨apnRef, b₁, h₁, d₁, l₁, k₁, r₁, -⟩ := d₀.append _ hapn (by decide) (by decide)
  change mbimWireAppendString { (mbimWireReserve listStart 72).2 with frameBase := listStart.len } _ =
    _ at h₁
  have hinfo : provisionedContextV2Info st = ({ b₁ with frameBase := 0 }.puts
      [(4, le32s [12, b₁.len - 12]), (0, le32s [1]), (52, le32s [apnRef.offset, apnRef.length]),
        (32, le32s [1, 1, 6, 0, 0]), (16, contextTypeInternet), (12, le32s [1])]).info := by
    unfold provisionedContextV2Info
    dsimp only
    rw [mbimWireReserve_listStart, mbimWireReserve_fst]
    dsimp only
    rw [h₁]
    rfl
  rw [hinfo]
  refine ⟨ListLayout.wellFormed_single 40 d₁ (by decide) (k₁ _ _ z₀ (by decide)) r₁.inside ?_ ?_ ?_ ?_ ?_, ?_⟩
  · simp [WriteLog.Beside, contextTypeInternet]
  · simp [contextV2Layout]
  · simp [contextV2Layout]
  · simp
  · simp [contextV2Layout, WriteLog.Beside, contextTypeInternet]
  · exact d₁.info_length_le (by decide) rfl

/-! ### The attach configurations -/

section AttachConfig

/-- Configuration `i`, at `off`: an element with its roaming condition and its access string. -/
structure MbimWireBuilder.HoldsAccess (b : MbimWireBuilder) (apn : Bytes) (i : Nat)
    (off size : UInt32) : Prop where
  element : b.HoldsElement lteAttachConfigLayout i off size
  behind : 28 ≤ off.toNat
  roaming : b.Holds (off.toNat + 4) (Mbim.putLe32 (UInt32.ofNat i))
  access : ∃ ref : MbimString, b.Holds (off.toNat + 12) (le32s [ref.offset, ref.length]) ∧
    b.HoldsText off.toNat ref apn

/-- The pair of configuration `j` stays, and so does what lies behind the pairs. -/
structure MbimWireBuilder.KeepsAccess (b b' : MbimWireBuilder) (j : Nat) : Prop where
  len : b.len.toNat ≤ b'.len.toNat
  keeps : ∀ p data, b.Holds p data → p + data.length ≤ b.len.toNat →
    (p = 4 + 8 * j ∧ data.length = 8 ∨ 28 ≤ p) → b'.Holds p data

variable {apn : Bytes} {b b' : MbimWireBuilder} {lo hi i j n : Nat}

theorem MbimWireBuilder.HoldsAccess.kept {off size : UInt32} (h : b.HoldsAccess apn j off size)
    (hj : j < 3) (hkeeps : b.KeepsAccess b' j) : b'.HoldsAccess apn j off size := by
  obtain ⟨⟨href, hinside, hfixed, hstrings⟩, hbehind, hroaming, ref, hpair, hlength, hend, htext⟩ := h
  obtain ⟨hlen, hkeeps⟩ := hkeeps
  change 44 ≤ _ at hfixed
  -- a pair of the element
  have hkept : ∀ {pos : Nat} {r : MbimString}, pos + 8 ≤ 44 →
      b.Holds (off.toNat + pos) (le32s [r.offset, r.length]) →
      b'.Holds (off.toNat + pos) (le32s [r.offset, r.length]) := fun {pos r} hpos hold =>
    hkeeps _ _ hold (by change off.toNat + pos + 8 ≤ _; omega) (.inr (by omega))
  refine ⟨⟨hkeeps _ _ href ?_ (.inl ⟨rfl, rfl⟩), by omega, hfixed, fun pos hpos => ?_⟩, hbehind,
    hkeeps _ _ hroaming ?_ (.inr (by omega)), ref, hkept (by decide) hpair, hlength, by omega,
    hkeeps _ _ htext ?_ (.inr (by omega))⟩
  · change 4 + 8 * j + 8 ≤ _
    omega
  · obtain ⟨ref', hpair', hend'⟩ := hstrings pos hpos
    exact ⟨ref', hkept (lteAttachConfigLayout.strings_fixed pos hpos) hpair', hend'⟩
  · change off.toNat + 4 + 4 ≤ _
    omega
  · rw [mbimWireWriteUtf16le_length]
    omega

/-- The writes of configuration `i` at `base`: its pair, its access string, its words. -/
def attachWrites (i : Nat) (base size : UInt32) (apnRef : MbimString) : List (Nat × Bytes) :=
  [(4 + i * 8, le32s [base, size]), (base.toNat + 12, le32s [apnRef.offset, apnRef.length]),
    (base.toNat, le32s [1, UInt32.ofNat i, 0])]

theorem attachWrites_pairwise {base size : UInt32} {apnRef : MbimString} (hbase : 28 ≤ base.toNat)
    (hi3 : i < 3) : (attachWrites i base size apnRef).Pairwise WriteLog.Beside := by
  simp only [attachWrites, WriteLog.Beside, List.pairwise_cons, List.forall_mem_cons, le32s_length,
    List.length_cons, List.length_nil, List.not_mem_nil, false_imp_iff, implies_true,
    List.Pairwise.nil, and_true]
  omega

/-- `b₁` has the body of a configuration behind `b`: 44 octets of zeros and the access string. -/
structure MbimWireBuilder.AccessBody (b b₁ : MbimWireBuilder) (apn : Bytes) (apnRef : MbimString) :
    Prop where
  draft : b₁.Draft b.len.toNat (b.len.toNat + 44) (b.len.toNat + 172)
  zero : b₁.Holds b.len.toNat (List.replicate 44 0)
  keeps : ∀ p data, b.Holds p data → p + data.length ≤ b.len.toNat → b₁.Holds p data
  access : b₁.HoldsText b.len.toNat apnRef apn
  start : apn ≠ [] → 44 ≤ apnRef.offset.toNat

/-- The configuration when its three writes are made. -/
def accessWritten (b b₁ : MbimWireBuilder) (i : Nat) (apnRef : MbimString) : MbimWireBuilder :=
  { b₁ with frameBase := 0 }.puts (attachWrites i b.len (b₁.len - b.len) apnRef)

theorem lteAttachConfiguration_written (hapn : apn.length ≤ 63) (d : b.Draft 0 lo hi)
    (hhi : hi + 172 ≤ 4048) (i : Nat) :
    ∃ b₁ apnRef, b.AccessBody b₁ apn apnRef ∧
      lteAttachConfiguration apn 4 b i = accessWritten b b₁ i apnRef := by
  obtain ⟨hcap, hflag, -, hlo, hlen⟩ := d
  obtain ⟨hext, hzero⟩ := mbimWireReserve_extends (b := b) (n := 44) (by
    change b.len.toNat + 44 ≤ _
    omega)
  have d₀ : ({ (mbimWireReserve b 44).2 with frameBase := b.len } : MbimWireBuilder).Draft
      b.len.toNat (b.len.toNat + 44) (b.len.toNat + 44) :=
    ⟨by rw [hext.cap, hcap], by rw [hext.overflow, hflag], rfl, Nat.le_of_eq hext.len.symm,
      Nat.le_of_eq hext.len⟩
  obtain ⟨apnRef, b₁, h₁, d₁, -, k₁, haccess, hstart⟩ := d₀.append apn hapn (by omega) (by omega)
  refine ⟨b₁, apnRef, ⟨d₁, k₁ _ _ hzero ?_, fun p data hold hfits => k₁ _ _
    (hext.keeps p data hold hfits) (Nat.le_trans hfits (hext.len ▸ Nat.le_add_right _ _)), haccess,
    fun hne => ?_⟩, ?_⟩
  · rw [List.length_replicate]
    exact Nat.le_of_eq hext.len.symm
  · exact Nat.le_of_eq (Nat.add_left_cancel ((hstart hne).trans hext.len)).symm
  · unfold lteAttachConfiguration
    dsimp only
    rw [mbimWireReserve_fst, h₁]
    rfl

section Written

variable {b₁ : MbimWireBuilder} {apnRef : MbimString}

/-- What lies beside the writes is as it was. -/
theorem holds_accessWritten {p : Nat} {data : Bytes} (hold : b₁.Holds p data)
    (hpair : p + data.length ≤ 4 + i * 8 ∨ 12 + i * 8 ≤ p)
    (hbody : p + data.length ≤ b.len.toNat ∨ b.len.toNat + 20 ≤ p) :
    (accessWritten b b₁ i apnRef).Holds p data := by
  refine MbimWireBuilder.Holds.puts hold ?_
  simp only [attachWrites, WriteLog.Beside, List.forall_mem_cons, le32s_length, List.length_cons,
    List.length_nil, List.not_mem_nil, false_imp_iff, implies_true, and_true]
  omega

variable (h : b.AccessBody b₁ apn apnRef) (hi3 : i < 3)
include h hi3

theorem accessWritten_keeps (hne : j ≠ i) :
    b.KeepsAccess (accessWritten b b₁ i apnRef) j :=
  ⟨Nat.le_trans (Nat.le_add_right _ _) h.draft.lo, fun p data hold hfits hfree =>
    holds_accessWritten (h.keeps p data hold hfits) (by omega) (.inl hfits)⟩

theorem accessWritten_holds (hbase : 28 ≤ b.len.toNat) :
    (accessWritten b b₁ i apnRef).HoldsAccess apn i b.len (b₁.len - b.len) := by
  obtain ⟨⟨-, -, -, hlo, hhi⟩, hzero, -, ⟨hlength, hend, htext⟩, hstart⟩ := h
  have hsize : (b₁.len - b.len).toNat = b₁.len.toNat - b.len.toNat :=
    UInt32.toNat_sub_of_le _ _ (UInt32.le_iff_toNat_le.mpr (by omega))
  have hwritten : ∀ w ∈ attachWrites i b.len (b₁.len - b.len) apnRef,
      (accessWritten b b₁ i apnRef).Holds w.1 w.2 := fun _ hw =>
    MbimWireBuilder.holds_puts (attachWrites_pairwise hbase hi3) hw
  simp only [attachWrites, List.forall_mem_cons] at hwritten
  obtain ⟨href, hpair, hwords, -⟩ := hwritten
  -- user name and password are as the reservation left them
  have hempty : ∀ pos, 20 ≤ pos → pos + 8 ≤ 44 →
      (accessWritten b b₁ i apnRef).Holds (b.len.toNat + pos) (le32s [0, 0]) := fun pos hpos hpos' =>
    holds_accessWritten (hzero.replicate_sub (m := 8) (by omega) (by omega)) (.inr (by omega))
      (.inr (by omega))
  refine ⟨⟨?_, ?_, ?_, ?_⟩, hbase, ?_, apnRef, hpair, hlength, hend, ?_⟩
  · rw [Nat.mul_comm 8 i]
    exact href
  · change _ ≤ b₁.len.toNat
    omega
  · change 44 ≤ _
    omega
  · simp only [lteAttachConfigLayout, List.forall_mem_cons, List.not_mem_nil, false_imp_iff,
      implies_true, and_true]
    exact ⟨⟨apnRef, hpair, by omega⟩, ⟨{}, hempty 20 (by decide) (by decide), Nat.zero_le _⟩,
      ⟨{}, hempty 28 (by decide) (by decide), Nat.zero_le _⟩⟩
  · exact (MbimWireBuilder.holds_le32s_cons.mp (MbimWireBuilder.holds_le32s_cons.mp hwords).2).1
  · by_cases hnil : apn = []
    · rw [hnil]
      exact WriteLog.holds_nil _ _
    · have hplace := hstart hnil
      exact holds_accessWritten htext (.inr (by omega)) (.inr (by omega))

end Written

/-- One configuration is put behind the others, and the others are kept. -/
theorem lteAttachConfiguration_holds (hapn : apn.length ≤ 63) (d : b.Draft 0 lo hi) (hlo : 28 ≤ lo)
    (hhi : hi + 172 ≤ 4048) (hi3 : i < 3) :
    ∃ size, (lteAttachConfiguration apn 4 b i).Draft 0 lo (hi + 172) ∧
      (lteAttachConfiguration apn 4 b i).HoldsAccess apn i b.len size ∧
      ∀ j, j ≠ i → b.KeepsAccess (lteAttachConfiguration apn 4 b i) j := by
  obtain ⟨b₁, apnRef, hbody, heq⟩ := lteAttachConfiguration_written hapn d hhi i
  have hdraft := hbody.draft
  rw [heq]
  refine ⟨_, ⟨hdraft.cap, hdraft.overflow, rfl, ?_, ?_⟩, accessWritten_holds hbody hi3 (Nat.le_trans hlo d.lo),
    fun _ hne => accessWritten_keeps hbody hi3 hne⟩
  · exact Nat.le_trans d.lo (Nat.le_trans (Nat.le_add_right _ _) hdraft.lo)
  · exact Nat.le_trans hdraft.hi (Nat.add_le_add_right d.hi 172)

/-- The first `n` configurations, one behind the other. -/
structure MbimWireBuilder.HoldsConfigurations (b : MbimWireBuilder) (apn : Bytes) (n : Nat)
    (off size : Nat → UInt32) : Prop where
  draft : b.Draft 0 28 (28 + n * 172)
  held : ∀ i < n, b.HoldsAccess apn i (off i) (size i)
  ordered : ∀ i j, i < j → j < n → (off i).toNat + (size i).toNat ≤ (off j).toNat

/-- The room in front of the configurations. -/
def attachStart : MbimWireBuilder where
  cap := mbimInfobufCap
  len := 28
  buf := WriteLog.clear 0 4 24 (WriteLog.clear 0 0 4 [])

theorem mbimWireReserve_attachStart :
    mbimWireReserve (mbimWireReserve (mbimWireInit mbimInfobufCap) 4).2 (8 * 3) =
      (4, attachStart) := by
  rw [mbimWireReserve_fits (show (mbimWireInit mbimInfobufCap).len.toNat + (4 : UInt32).toNat ≤
    (mbimWireInit mbimInfobufCap).cap.toNat by decide)]
  exact mbimWireReserve_fits (by decide)

theorem foldl_lteAttachConfiguration (hapn : apn.length ≤ 63) (hn : n ≤ 3) :
    ∃ off size, ((List.range n).foldl (lteAttachConfiguration apn 4) attachStart).HoldsConfigurations
      apn n off size := by
  induction n with
  | zero =>
    exact ⟨fun _ => 0, fun _ => 0, ⟨rfl, rfl, rfl, Nat.le_refl _, Nat.le_refl _⟩,
      fun i hi => absurd hi (Nat.not_lt_zero i), fun _ j _ hj => absurd hj (Nat.not_lt_zero j)⟩
  | succ n ih =>
    obtain ⟨off, size, hdraft, hheld, hordered⟩ := ih (by omega)
    rw [List.range_succ, List.foldl_append, List.foldl_cons, List.foldl_nil]
    generalize (List.range n).foldl (lteAttachConfiguration apn 4) attachStart = b at *
    obtain ⟨last, hdraft', hlast, hkeeps⟩ := lteAttachConfiguration_holds hapn hdraft (Nat.le_refl _)
      (by omega) (by omega : n < 3)
    refine ⟨Function.update off n b.len, Function.update size n last, ?_, fun i hi => ?_,
      fun i j hij hj => ?_⟩
    · rw [Nat.succ_mul, ← Nat.add_assoc]
      exact hdraft'
    · by_cases heq : i = n
      · rw [heq, Function.update_self, Function.update_self]
        exact hlast
      · rw [Function.update_of_ne heq, Function.update_of_ne heq]
        exact (hheld i (by omega)).kept (by omega) (hkeeps i heq)
    · rw [Function.update_of_ne (by omega), Function.update_of_ne (by omega)]
      by_cases heq : j = n
      · rw [heq, Function.update_self]
        exact (hheld i (by omega)).element.inside
      · rw [Function.update_of_ne heq]
        exact hordered i j hij (by omega)

/-- The buffer has three configurations. -/
theorem lteAttachConfigInfo_holds (hapn : apn.length ≤ 63) :
    ∃ (b : MbimWireBuilder) (off size : Nat → UInt32), lteAttachConfigInfo apn = b.info ∧
      lteAttachConfigLayout.items b.info = 3 ∧ b.HoldsConfigurations apn 3 off size := by
  obtain ⟨off, size, hdraft, hheld, hordered⟩ := foldl_lteAttachConfiguration hapn (Nat.le_refl 3)
  have hinfo : lteAttachConfigInfo apn = (((List.range 3).foldl (lteAttachConfiguration apn 4)
      attachStart).puts [(0, le32s [3])]).info := by
    unfold lteAttachConfigInfo
    dsimp only
    rw [mbimWireReserve_attachStart]
    rfl
  generalize (List.range 3).foldl (lteAttachConfiguration apn 4) attachStart = b at *
  have hlo := hdraft.lo
  have hkeeps (j : Nat) : b.KeepsAccess (b.puts [(0, le32s [3])]) j :=
    ⟨Nat.le_refl _, fun p data hold _ hfree =>
      hold.puts (List.forall_mem_singleton.mpr (.inr (by change 0 + 4 ≤ p; omega)))⟩
  refine ⟨_, off, size, hinfo, ?_, ⟨hdraft.cap, hdraft.overflow, hdraft.frameBase, hlo, hdraft.hi⟩,
    fun i hi => (hheld i hi).kept hi (hkeeps i), hordered⟩
  exact wordAt_words (k := 0) (MbimWireBuilder.holds_puts (b := b)
    (List.pairwise_singleton _ (0, le32s [3])) List.mem_cons_self)
    (by change 0 + 4 ≤ b.len.toNat; omega) rfl

theorem lteAttachConfigInfo_wellFormed (hapn : apn.length < 64) :
    lteAttachConfigLayout.WellFormed (lteAttachConfigInfo apn) ∧
      (lteAttachConfigInfo apn).length ≤ 4048 := by
  obtain ⟨b, off, size, hinfo, hcount, hdraft, hheld, hordered⟩ :=
    lteAttachConfigInfo_holds (Nat.lt_succ_iff.mp hapn)
  rw [hinfo]
  exact ⟨ListLayout.wellFormed_of_held off size hcount hdraft.lo (fun i hi => (hheld i hi).element)
    hordered, hdraft.info_length_le (by decide) rfl⟩

end AttachConfig

/-! ### The stored messages -/

theorem recordsSize_le {es : List MbimSmsStoreEntry} (h : ∀ e ∈ es, e.Short) :
    recordsSize es ≤ es.length * 275 := by
  induction es with
  | nil => exact Nat.zero_le _
  | cons e es ih =>
    obtain ⟨he, hes⟩ := List.forall_mem_cons.mp h
    have hrest := ih hes
    have hpad := align4_le e.pdu.length
    change e.pdu.length ≤ 256 at he
    rw [recordsSize_cons, MbimSmsStoreEntry.recordSize, List.length_cons]
    omega

/-- A response always has room for the whole store. -/
theorem SmsStore.Wf.readInfoSize_le {store : SmsStore} (h : store.Wf) (mode : SmsReadMode) :
    store.readInfoSize mode ≤ 4048 := by
  have hcount := store.selected_length_le mode
  have hsize := recordsSize_le (h.selected mode)
  unfold SmsStore.readInfoSize
  omega

section Messages

variable {b : MbimWireBuilder} {es : List MbimSmsStoreEntry}

/-- Where record `i` stands and how long it is, as the reference list has them. -/
theorem HoldsMessages.place (h : HoldsMessages b es) {i : Nat} {e : MbimSmsStoreEntry}
    (he : es[i]? = some e) :
    (UInt32.ofNat (8 + es.length * 8 + recordsSize (es.take i))).toNat =
        8 + es.length * 8 + recordsSize (es.take i) ∧
      (UInt32.ofNat e.recordSize).toNat = e.recordSize := by
  have hlen := h.len
  have hlt := b.len.toNat_lt
  have hin := recordsSize_take_le he
  exact ⟨UInt32.toNat_ofNat_of_lt' (by change _ < 2 ^ 32; omega),
    UInt32.toNat_ofNat_of_lt' (by change _ < 2 ^ 32; omega)⟩

theorem HoldsMessages.holdsElement (h : HoldsMessages b es) {i : Nat} {e : MbimSmsStoreEntry}
    (he : es[i]? = some e) :
    b.HoldsElement smsRecordLayout i
      (UInt32.ofNat (8 + es.length * 8 + recordsSize (es.take i))) (UInt32.ofNat e.recordSize) := by
  obtain ⟨href, hheader, -⟩ := h.record i e he
  obtain ⟨hbase, hsize⟩ := h.place he
  have hlen := h.len
  have hin := recordsSize_take_le he
  have hpad := le_align4 e.pdu.length
  have hrec : e.recordSize = 16 + align4 e.pdu.length := rfl
  refine ⟨?_, ?_, ?_, ?_⟩
  · rw [show smsRecordLayout.refs + 8 * i = 8 + i * 8 by rw [Nat.mul_comm]; rfl]
    exact href
  · rw [hbase, hsize]
    omega
  · rw [hsize]
    exact Nat.le_add_right _ _
  · rw [hbase, hsize]
    simp only [smsRecordLayout, List.forall_mem_cons, List.not_mem_nil, false_imp_iff,
      implies_true, and_true]
    simp only [MbimWireBuilder.holds_le32s_cons] at hheader
    refine ⟨{ offset := 16, length := UInt32.ofNat e.pdu.length }, ?_, ?_⟩
    · simp only [MbimWireBuilder.holds_le32s_cons]
      exact hheader.2.2
    · have hpdu := Nat.mod_le e.pdu.length (2 ^ 32)
      change 16 + (UInt32.ofNat e.pdu.length).toNat ≤ _
      rw [UInt32.toNat_ofNat']
      omega

/-- The records of a read are elements one behind the other. -/
theorem HoldsMessages.wellFormed (h : HoldsMessages b es) : smsRecordLayout.WellFormed b.info := by
  have hlen := h.len
  have hlt := b.len.toNat_lt
  have hcount : wordAt b.info 4 = es.length := by
    rw [show 4 = 0 + 4 * 1 from rfl, wordAt_words (k := 1) h.words (by change 8 ≤ _; omega) rfl]
    exact UInt32.toNat_ofNat_of_lt' (by change _ < 2 ^ 32; omega)
  refine ListLayout.wellFormed_of_held
    (fun i => UInt32.ofNat (8 + es.length * 8 + recordsSize (es.take i)))
    (fun i => UInt32.ofNat ((es[i]?.map (·.recordSize)).getD 0)) hcount ?_ ?_ ?_
  · change 8 + 8 * es.length ≤ _
    omega
  · intro i hi
    have he := List.getElem?_eq_getElem hi
    rw [he]
    exact h.holdsElement he
  · intro i j hij hj
    have he := List.getElem?_eq_getElem (Nat.lt_trans hij hj)
    have htake : (es.take j)[i]? = some _ := (List.getElem?_take_of_lt hij).trans he
    have hbefore := recordsSize_take_le htake
    rw [List.take_take, Nat.min_eq_left (Nat.le_of_lt hij)] at hbefore
    rw [he, Option.map_some, Option.getD_some, (h.place he).1, (h.place he).2,
      (h.place (List.getElem?_eq_getElem hj)).1]
    omega

end Messages

theorem smsReadInfo_wellFormed {store : SmsStore} (hwf : store.Wf) (mode : SmsReadMode) :
    smsRecordLayout.WellFormed (smsReadInfo (smsBuildReadInfo store mbimInfobufCap mode).1) ∧
      (smsReadInfo (smsBuildReadInfo store mbimInfobufCap mode).1).length ≤ 4048 := by
  have hfits : store.readInfoSize mode ≤ mbimInfobufCap.toNat := hwf.readInfoSize_le mode
  have hheld := smsBuildReadInfo_holds hwf (by decide) hfits
  rw [smsReadInfo, mbimWireFinalize_read hwf (by decide), decide_eq_true hfits, if_pos rfl]
  refine ⟨hheld.wellFormed, ?_⟩
  rw [MbimWireBuilder.info_length, hheld.len]
  exact hfits

/-! ## Fixed buffers -/

theorem smsConfigurationInfo_wellFormed : smsConfigurationLayout.WellFormed smsConfigurationInfo :=
  InfoLayout.wellFormed_fixed rfl rfl (by decide +kernel) (by decide +kernel)

theorem deviceServicesInfo_wellFormed : deviceServiceLayout.WellFormed deviceServicesInfo := by
  decide +kernel

/-- The addresses behind the fixed part are where the words say. -/
theorem ipConfigurationInfo_wellFormed (st : HandlerState) :
    ipConfigurationLayout.WellFormed (ipConfigurationInfo st) := by
  have hlen : (ipConfigurationInfo st).length = 76 := by
    simp [ipConfigurationInfo]
  have hword : ∀ {k : Nat} {v : UInt32}, [st.modem.connectSessionId, 0x0f, 0, 1, 60, 0, 0, 68, 0, 1,
      72, 0, 0, st.modem.ip.mtu, 0][k]? = some v → wordAt (ipConfigurationInfo st) (4 * k) = v.toNat := by
    intro k v hk
    unfold ipConfigurationInfo
    rw [List.append_assoc, List.append_assoc, List.append_assoc]
    exact wordAt_le32s hk _
  refine ⟨?_, nofun, ?_, nofun⟩
  · rw [hlen]
    decide
  · rw [hlen]
    simp only [ipConfigurationLayout, ArrayLayout.items, List.forall_mem_cons, List.not_mem_nil,
      false_imp_iff, implies_true, and_true]
    rw [hword (k := 1) rfl, hword (k := 2) rfl, hword (k := 3) rfl, hword (k := 4) rfl,
      hword (k := 5) rfl, hword (k := 6) rfl, hword (k := 7) rfl, hword (k := 8) rfl,
      hword (k := 9) rfl, hword (k := 10) rfl, hword (k := 11) rfl, hword (k := 12) rfl]
    decide

end VirtualLte.Mbim
