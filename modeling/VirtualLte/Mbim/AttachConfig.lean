import VirtualLte.Mbim.Answers

/-!
# Setting and querying the LTE attach configurations

A set request of LTE_ATTACH_CONFIG is a list of configurations, each with a roaming condition
and strings of its own.  The handler does not read the list: it takes the last 64 octets of
the request for a string, and a query gives that string back for every condition.

* `lteAttachConfigInfo_configurations`: what a host reads in the answer to a query.
* `attachRoundTrip_iff`: when the answer has what was set.
-/

namespace VirtualLte.Mbim

/-! ## What a host writes and reads -/

/-- A configuration, as far as set and query have to agree. -/
structure AttachConfiguration where
  roaming : Nat
  access : Bytes
  deriving DecidableEq, Repr

/-- The characters of a UTF-16LE string. -/
def utf16Characters : Bytes → Bytes
  | c :: _ :: rest => c :: utf16Characters rest
  | _ => []

/-- The octets of the string whose pair is at `pos` of the element at `base`. -/
def elementString (info : Bytes) (base pos : Nat) : Bytes :=
  slice info (base + wordAt info (base + pos)) (wordAt info (base + pos + 4))

/-- The configurations of a buffer with the layout `l`. -/
def attachConfigurations (l : ListLayout) (info : Bytes) : List AttachConfiguration :=
  (List.range (l.items info)).map fun i =>
    let base := l.elementOffset info i
    { roaming := wordAt info (base + 4), access := utf16Characters (elementString info base 12) }

/-- A request as a host has to write it: every pair is inside, and every access string is a
text of at most 63 ASCII characters for one of the three roaming conditions. -/
structure AttachRequest (info : Bytes) : Prop where
  layout : lteAttachSetLayout.WellFormed info
  roaming : ∀ c ∈ attachConfigurations lteAttachSetLayout info, c.roaming < 3
  short : ∀ c ∈ attachConfigurations lteAttachSetLayout info, c.access.length ≤ 63
  ascii : ∀ i < lteAttachSetLayout.items info,
    let text := elementString info (lteAttachSetLayout.elementOffset info i) 12
    text = mbimWireWriteUtf16le (utf16Characters text) ∧
      ∀ c ∈ utf16Characters text, 0 < c ∧ c < 0x80

/-! ## The answer to a query -/

theorem utf16Characters_write (s : Bytes) : utf16Characters (mbimWireWriteUtf16le s) = s := by
  induction s with
  | nil => rfl
  | cons c s ih => exact congrArg (c :: ·) ih

/-- What a host reads of a configuration that the builder holds. -/
theorem MbimWireBuilder.HoldsAccess.read {b : MbimWireBuilder} {apn : Bytes} {i : Nat}
    {off size : UInt32} (h : b.HoldsAccess apn i off size) (hi : i < 3) :
    let base := lteAttachConfigLayout.elementOffset b.info i
    wordAt b.info (base + 4) = i ∧ elementString b.info base 12 = mbimWireWriteUtf16le apn := by
  obtain ⟨ref, hpair, htext⟩ := h.access
  have hinside := h.element.inside
  have hbehind := h.behind
  have hfixed : 44 ≤ size.toNat := h.element.fixed
  have hlength : ref.length.toNat = (mbimWireWriteUtf16le apn).length := by
    rw [mbimWireWriteUtf16le_length, htext.length]
  obtain ⟨hoff, -⟩ := wordAt_pair h.element.ref (by change 4 + 8 * i + 8 ≤ _; omega)
  obtain ⟨hoffset, hlen⟩ := wordAt_pair hpair (by omega)
  change wordAt b.info (wordAt b.info (4 + 8 * i) + 4) = i ∧
    elementString b.info (wordAt b.info (4 + 8 * i)) 12 = _
  change wordAt b.info (4 + 8 * i) = _ at hoff
  rw [hoff]
  refine ⟨?_, ?_⟩
  · rw [wordAt, MbimWireBuilder.getLe32_info h.roaming (by omega), UInt32.toNat_ofNat']
    exact Nat.mod_eq_of_lt (by omega)
  · rw [elementString, hoffset, hlen, hlength]
    refine MbimWireBuilder.slice_info htext.text ?_
    have hend := htext.inside
    omega

/-- A query answers with the same access string for each roaming condition. -/
theorem lteAttachConfigInfo_configurations {apn : Bytes} (hapn : apn.length ≤ 63) :
    attachConfigurations lteAttachConfigLayout (lteAttachConfigInfo apn) =
      (List.range 3).map fun i => ⟨i, apn⟩ := by
  obtain ⟨b, off, size, hinfo, hcount, -, hheld, -⟩ := lteAttachConfigInfo_holds hapn
  rw [hinfo, attachConfigurations, hcount]
  refine List.map_congr_left fun i hi => ?_
  obtain ⟨hroaming, haccess⟩ := (hheld i (List.mem_range.mp hi)).read (List.mem_range.mp hi)
  dsimp only at hroaming haccess ⊢
  rw [hroaming, haccess, utf16Characters_write]

/-! ## A set and a query -/

/-- The state that a command leaves. -/
def Outcome.stateOr (st : HandlerState) : Outcome → HandlerState
  | .done st' _ _ _ => st'
  | .qmiCtlSync _ => st

def Outcome.info : Outcome → Bytes
  | .done _ _ _ info => info
  | .qmiCtlSync _ => []

/-- A set request with the information buffer `info`, behind a header of 48 octets; `stale` is
left in the command buffer from before. -/
def attachSet (st : HandlerState) (header info stale : Bytes) : HandlerState :=
  (basicConnectExtensions st (header ++ (info ++ stale)) 3 1 (UInt32.ofNat info.length)).stateOr st

def attachQuery (st : HandlerState) (cmd : Bytes) (len : UInt32) : Bytes :=
  (basicConnectExtensions st cmd 3 0 len).info

/-- A query after the set finds every configuration of the request, and the APN is not changed
to anything else. -/
def AttachRoundTrip (st : HandlerState) (header info stale : Bytes) : Prop :=
  let st' := attachSet st header info stale
  let requested := attachConfigurations lteAttachSetLayout info
  (∀ cmd len, ∀ c ∈ requested,
    ∃ a ∈ attachConfigurations lteAttachConfigLayout (attachQuery st' cmd len),
      a.roaming = c.roaming ∧ a.access = c.access) ∧
  (attachApn st' = attachApn st ∨ ∃ c ∈ requested, attachApn st' = c.access)

/-- What the last 64 octets of a request spell, up to a zero. -/
def spelled (info : Bytes) : Bytes :=
  (utf16Characters (info.drop (info.length - 64))).takeWhile (· ≠ 0)

/-- The handler reads these octets so. -/
theorem utf16leAsciiToCstr_eq (room : Nat) (src : Bytes) :
    utf16leAsciiToCstr room src = ((utf16Characters src).takeWhile (· ≠ 0)).take room := by
  fun_induction utf16Characters src generalizing room with
  | case1 c _ rest ih =>
    cases room with
    | zero => simp [utf16leAsciiToCstr]
    | succ room =>
      rw [utf16leAsciiToCstr, ih]
      by_cases hzero : c = 0
      · simp [hzero]
      · simp [hzero]
  | case2 src hshort =>
    rw [List.takeWhile_nil, List.take_nil]
    unfold utf16leAsciiToCstr
    split
    · exact (hshort _ _ _ rfl).elim
    · rfl

theorem utf16Characters_length_le (b : Bytes) : 2 * (utf16Characters b).length ≤ b.length := by
  fun_induction utf16Characters b with
  | case1 c _ rest ih =>
    rw [List.length_cons, List.length_cons, List.length_cons]
    omega
  | case2 => exact Nat.zero_le _

theorem spelled_length_le (info : Bytes) : (spelled info).length ≤ 32 := by
  have htake := (List.takeWhile_prefix (l := utf16Characters (info.drop (info.length - 64)))
    (· ≠ 0)).length_le
  have hle := utf16Characters_length_le (info.drop (info.length - 64))
  rw [List.length_drop] at hle
  exact Nat.le_trans htake (by omega)

theorem spelled_eq (info : Bytes) :
    utf16leAsciiToCstr 63 (info.drop (info.length - 64)) = spelled info := by
  rw [utf16leAsciiToCstr_eq]
  exact List.take_of_length_le (Nat.le_trans (spelled_length_le info) (by decide))

/-- The end of the request spells the access string of each configuration, or nothing and they
have the APN in force; without configurations it spells nothing or the APN in force. -/
structure AttachSpelled (st : HandlerState) (info : Bytes) : Prop where
  each : ∀ c ∈ attachConfigurations lteAttachSetLayout info,
    c.access ≠ [] ∧ spelled info = c.access ∨ spelled info = [] ∧ c.access = attachApn st
  none : attachConfigurations lteAttachSetLayout info = [] →
    spelled info = [] ∨ spelled info = attachApn st

/-- The APN after the request. -/
def apnAfter (st : HandlerState) (info : Bytes) : Bytes :=
  if spelled info = [] then attachApn st else spelled info

section SetQuery

variable {st : HandlerState} {header info stale : Bytes}

theorem attachApn_attachSet (hheader : header.length = 48) (hshort : info.length < 2 ^ 32)
    (hlen : 8 ≤ info.length) : attachApn (attachSet st header info stale) = apnAfter st info := by
  have hnat : (UInt32.ofNat info.length).toNat = info.length := by
    rw [UInt32.toNat_ofNat']
    exact Nat.mod_eq_of_lt hshort
  have hmin : UInt32.ofNat info.length ≥ 8 := by
    rw [ge_iff_le, UInt32.le_iff_toNat_le, hnat]
    exact hlen
  -- the candidate is the end of the information buffer
  have hcand : ∀ tail : UInt32, tail.toNat = min 64 info.length →
      slice (header ++ (info ++ stale)) (48 + (UInt32.ofNat info.length - tail).toNat) tail.toNat =
        info.drop (info.length - 64) := by
    intro tail htail
    have hstart : (UInt32.ofNat info.length - tail).toNat = info.length - 64 := by
      rw [UInt32.toNat_sub_of_le _ _ (UInt32.le_iff_toNat_le.mpr (by omega)), hnat]
      omega
    have hmid := slice_append_mid (header ++ info.take (info.length - 64))
      (info.drop (info.length - 64)) stale
    rw [List.append_assoc, ← List.append_assoc (info.take _), List.take_append_drop,
      List.length_append, List.length_take, List.length_drop] at hmid
    rw [hstart, htail, ← hmid]
    congr 1 <;> omega
  have htail : (if UInt32.ofNat info.length > 64 then 64 else UInt32.ofNat info.length).toNat =
      min 64 info.length := by
    split
    · rename_i hgt
      rw [gt_iff_lt, UInt32.lt_iff_toNat_lt, hnat] at hgt
      change 64 = _
      change 64 < _ at hgt
      omega
    · rename_i hle
      rw [gt_iff_lt, UInt32.lt_iff_toNat_lt, hnat] at hle
      change ¬ 64 < _ at hle
      omega
  have hset : attachSet st header info stale =
      { st with bce := lteAttachConfigSet st.bce (header ++ (info ++ stale)) (UInt32.ofNat info.length) } :=
    if_pos (by rw [Bool.and_eq_true]; exact ⟨rfl, decide_eq_true hmin⟩)
  rw [hset, attachApn, lteAttachConfigSet, hcand _ htail, spelled_eq, apnAfter, attachApn]
  by_cases hnil : spelled info = []
  · simp [hnil]
  · simp [hnil, List.length_pos_iff.mpr hnil]

theorem attachConfigurations_query (hst : st.Terminated) (hheader : header.length = 48)
    (hshort : info.length < 2 ^ 32) (hlen : 8 ≤ info.length) (cmd : Bytes) (len : UInt32) :
    attachConfigurations lteAttachConfigLayout
        (attachQuery (attachSet st header info stale) cmd len) =
      (List.range 3).map fun i => ⟨i, apnAfter st info⟩ := by
  have hquery : attachQuery (attachSet st header info stale) cmd len =
      lteAttachConfigInfo (attachApn (attachSet st header info stale)) := rfl
  rw [hquery, attachApn_attachSet hheader hshort hlen]
  refine lteAttachConfigInfo_configurations ?_
  unfold apnAfter
  split
  · exact Nat.lt_succ_iff.mp hst.apn
  · exact Nat.le_trans (spelled_length_le info) (by decide)

theorem attachSpelled_iff : AttachSpelled st info ↔
    (∀ c ∈ attachConfigurations lteAttachSetLayout info, c.access = apnAfter st info) ∧
      (attachConfigurations lteAttachSetLayout info = [] → apnAfter st info = attachApn st) := by
  have heach (c : AttachConfiguration) : c.access = apnAfter st info ↔
      c.access ≠ [] ∧ spelled info = c.access ∨ spelled info = [] ∧ c.access = attachApn st := by
    unfold apnAfter
    by_cases hnil : spelled info = []
    · simp [hnil, eq_comm]
    · simp only [hnil, false_and, or_false, eq_comm (a := c.access)]
      exact ⟨fun h => ⟨h ▸ hnil, h⟩, And.right⟩
  have hnone : apnAfter st info = attachApn st ↔ spelled info = [] ∨ spelled info = attachApn st := by
    unfold apnAfter
    by_cases hnil : spelled info = []
    · simp [hnil]
    · simp [hnil]
  rw [hnone]
  exact ⟨fun h => ⟨fun c hc => (heach c).mpr (h.each c hc), h.none⟩,
    fun h => ⟨fun c hc => (heach c).mp (h.1 c hc), h.2⟩⟩

/-- A set of well-formed attach configurations is found again by a query exactly if the end
of the request spells the access string of each of them. -/
theorem attachRoundTrip_iff (hst : st.Terminated) (hheader : header.length = 48)
    (hshort : info.length < 2 ^ 32) (hreq : AttachRequest info) :
    AttachRoundTrip st header info stale ↔ AttachSpelled st info := by
  rw [attachSpelled_iff]
  have hlen : 8 ≤ info.length := Nat.le_trans (Nat.le_add_right _ _) hreq.layout.refs
  unfold AttachRoundTrip
  simp only [attachConfigurations_query hst hheader hshort hlen,
    attachApn_attachSet hheader hshort hlen]
  constructor
  · rintro ⟨hfound, hapn⟩
    refine ⟨fun c hc => ?_, fun hnone => ?_⟩
    · obtain ⟨a, ha, -, haccess⟩ := hfound [] 0 c hc
      obtain ⟨i, -, rfl⟩ := List.mem_map.mp ha
      exact haccess.symm
    · simpa [hnone] using hapn
  · rintro ⟨hsame, hnone⟩
    refine ⟨fun _ _ c hc => ⟨⟨c.roaming, apnAfter st info⟩, ?_, rfl, (hsame c hc).symm⟩, ?_⟩
    · exact List.mem_map.mpr ⟨c.roaming, List.mem_range.mpr (hreq.roaming c hc), rfl⟩
    · cases hlist : attachConfigurations lteAttachSetLayout info with
      | nil => exact .inl (hnone hlist)
      | cons c cs => exact .inr ⟨c, List.mem_cons_self, (hsame c (hlist ▸ List.mem_cons_self)).symm⟩

/-- A request with one configuration is well formed if that is. -/
theorem attachRequest_of_one (hcount : lteAttachSetLayout.items info = 1) (hlen : 16 ≤ info.length)
    (hinside : lteAttachSetLayout.ElementInside info 0)
    (hroaming : ∀ c ∈ attachConfigurations lteAttachSetLayout info, c.roaming < 3)
    (hshort : ∀ c ∈ attachConfigurations lteAttachSetLayout info, c.access.length ≤ 63)
    (hascii : ∀ i < lteAttachSetLayout.items info,
      let text := elementString info (lteAttachSetLayout.elementOffset info i) 12
      text = mbimWireWriteUtf16le (utf16Characters text) ∧
        ∀ c ∈ utf16Characters text, 0 < c ∧ c < 0x80) : AttachRequest info := by
  refine ⟨⟨?_, fun i hi => ?_, fun i j hij hj => ?_⟩, hroaming, hshort, hascii⟩
  · rw [hcount]
    exact hlen
  · obtain rfl : i = 0 := by omega
    exact hinside
  · omega

/-- One configuration, for the home network, with this access string at its end. -/
def homeRequest (access : Bytes) : Bytes :=
  le32s [0, 1, 16, UInt32.ofNat (44 + utf16Room access.length), 0, 0, 0, 44,
      UInt32.ofNat (2 * access.length), 0, 0, 0, 0, 0, 0] ++ mbimWireWriteUtf16le access ++
    List.replicate (utf16Room access.length - 2 * access.length) 0

/-- Thirty-two characters. -/
def longAccess : Bytes := List.replicate 32 0x61

theorem terminated_default : HandlerState.Terminated {} :=
  ⟨⟨by decide, by decide, by decide, by decide, by decide, by decide⟩, by decide⟩

/-- An access string that fills the last 64 octets is found again. -/
theorem attachRoundTrip_long :
    AttachRoundTrip {} (List.replicate 48 0) (homeRequest longAccess) [] :=
  (attachRoundTrip_iff terminated_default (by decide) (by decide +kernel)
    (attachRequest_of_one (by decide +kernel) (by decide +kernel)
      ⟨by decide +kernel, by decide +kernel, by decide +kernel⟩ (by decide +kernel)
      (by decide +kernel) (by decide +kernel))).mpr ⟨by decide +kernel, by decide +kernel⟩

/-- `"ims"`. -/
def imsRequest : Bytes := homeRequest [0x69, 0x6D, 0x73]

/-- Setting `ims` for the home network leaves an APN of one control character. -/
theorem attachRoundTrip_fails :
    ¬ ∀ st header info stale, HandlerState.Terminated st → header.length = 48 →
      info.length < 2 ^ 32 → AttachRequest info → AttachRoundTrip st header info stale := by
  intro h
  obtain ⟨hfound, -⟩ := h {} (List.replicate 48 0) imsRequest [] terminated_default (by decide)
    (by decide +kernel) (attachRequest_of_one (by decide +kernel) (by decide +kernel)
      ⟨by decide +kernel, by decide +kernel, by decide +kernel⟩ (by decide +kernel)
      (by decide +kernel) (by decide +kernel))
  obtain ⟨a, ha, -, haccess⟩ := hfound [] 0 ⟨0, [0x69, 0x6D, 0x73]⟩ (by decide +kernel)
  rw [attachConfigurations_query terminated_default (by decide) (by decide +kernel)
    (by decide +kernel)] at ha
  revert a
  decide +kernel

end SetQuery

end VirtualLte.Mbim
