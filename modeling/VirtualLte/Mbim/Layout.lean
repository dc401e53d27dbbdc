import VirtualLte.Mbim.Builder

/-!
# Layouts of the information buffers

Where the information buffer of each CID has its offset and length pairs, and what it is
for such a buffer to be well formed.

* `InfoLayout` gives the places of the pairs: strings of the fixed part, arrays of
  addresses, and a list of elements with strings of their own.
* `InfoLayout.WellFormed` reads the pairs out of the octets.  Pairs of the fixed part and
  of the reference list count from the buffer, pairs of an element from the element.
* `infoLayout` is the table of the layouts by service and CID.
* `HoldsString`, `HoldsElement` and `ListLayout.wellFormed_of_held` lead from a builder to
  its octets.
-/

namespace VirtualLte.Mbim

/-! ## What a buffer advertises -/

/-- How many items an array has: a word says so, or a bit says whether there is one. -/
inductive ItemCount where
  | word (pos : Nat)
  | bit (pos index : Nat)

/-- An array of addresses. -/
structure ArrayLayout where
  count : ItemCount
  offset : Nat
  size : Nat

/-- A list of elements: the count, the reference list, and inside each element the fixed
part and its string pairs. -/
structure ListLayout where
  count : Nat
  refs : Nat
  fixed : Nat
  strings : List Nat
  count_before : count + 4 ≤ refs := by decide
  strings_fixed : ∀ pos ∈ strings, pos + 8 ≤ fixed := by decide

structure InfoLayout where
  fixed : Nat := 0
  strings : List Nat := []
  arrays : List ArrayLayout := []
  list : Option ListLayout := none
  strings_fixed : ∀ pos ∈ strings, pos + 8 ≤ fixed := by decide

/-- A word as an offset or a length. -/
def wordAt (info : Bytes) (pos : Nat) : Nat := (getLe32 info pos).toNat

/-- The pair at `pos` of a frame gives a range of that frame. -/
def PairInside (info : Bytes) (base size pos : Nat) : Prop :=
  wordAt info (base + pos) + wordAt info (base + pos + 4) ≤ size

instance (info : Bytes) (base size pos : Nat) : Decidable (PairInside info base size pos) :=
  Nat.decLe _ _

def ArrayLayout.items (l : ArrayLayout) (info : Bytes) : Nat :=
  match l.count with
  | .word pos => wordAt info pos
  | .bit pos index => ((wordAt info pos).testBit index).toNat

namespace ListLayout

variable (l : ListLayout) (info : Bytes)

def items : Nat := wordAt info l.count
def elementOffset (i : Nat) : Nat := wordAt info (l.refs + 8 * i)
def elementSize (i : Nat) : Nat := wordAt info (l.refs + 8 * i + 4)

/-- An element is inside the buffer and its strings are inside the element. -/
structure ElementInside (i : Nat) : Prop where
  inside : l.elementOffset info i + l.elementSize info i ≤ info.length
  fixed : l.fixed ≤ l.elementSize info i
  strings : ∀ pos ∈ l.strings,
    PairInside info (l.elementOffset info i) (l.elementSize info i) pos

structure WellFormed : Prop where
  refs : l.refs + 8 * l.items info ≤ info.length
  elements : ∀ i, i < l.items info → l.ElementInside info i
  disjoint : ∀ i j, i < j → j < l.items info →
    l.elementOffset info i + l.elementSize info i ≤ l.elementOffset info j ∨
      l.elementOffset info j + l.elementSize info j ≤ l.elementOffset info i

end ListLayout

/-- Every pair that the buffer advertises is a range inside it. -/
structure InfoLayout.WellFormed (l : InfoLayout) (info : Bytes) : Prop where
  fixed : l.fixed ≤ info.length
  strings : ∀ pos ∈ l.strings, PairInside info 0 info.length pos
  arrays : ∀ a ∈ l.arrays, wordAt info a.offset + a.items info * a.size ≤ info.length
  list : ∀ elements, l.list = some elements → elements.WellFormed info

/-! ### The layouts of MBIM -/

/-- Custom data class, device id, firmware and hardware. -/
def deviceCapsLayout : InfoLayout := { fixed := 64, strings := [32, 40, 48, 56] }

/-- Subscriber id, ICCID, and the list of telephone numbers. -/
def subscriberReadyLayout : InfoLayout where
  fixed := 28
  strings := [4, 12]
  list := some { count := 24, refs := 28, fixed := 0, strings := [] }

/-- Provider id, provider name and roaming text. -/
def registerStateLayout : InfoLayout := { fixed := 44, strings := [20, 28, 36] }

/-- Access string, user name, password and provider id. -/
def contextLayout : ListLayout := { count := 0, refs := 4, fixed := 60, strings := [20, 28, 36, 52] }

/-- Addresses with their prefix lengths, gateways and DNS servers, each for IPv4 and IPv6.  A
gateway is there if bit 1 of the configuration available says so. -/
def ipConfigurationLayout : InfoLayout where
  fixed := 60
  arrays := [⟨.word 12, 16, 8⟩, ⟨.word 20, 24, 20⟩, ⟨.bit 4 1, 28, 4⟩, ⟨.bit 8 1, 32, 16⟩,
    ⟨.word 36, 40, 4⟩, ⟨.word 44, 48, 16⟩]

def deviceServiceLayout : ListLayout := { count := 0, refs := 8, fixed := 28, strings := [] }

/-- Access string, user name and password. -/
def contextV2Layout : ListLayout := { count := 0, refs := 4, fixed := 72, strings := [40, 48, 56] }

/-- Access string, user name and password. -/
def lteAttachConfigLayout : ListLayout := { count := 0, refs := 4, fixed := 44, strings := [12, 20, 28] }

/-- A set request has its operation in front. -/
def lteAttachSetLayout : ListLayout := { count := 4, refs := 8, fixed := 44, strings := [12, 20, 28] }

/-- Access string, user name and password. -/
def lteAttachStatusLayout : InfoLayout := { fixed := 40, strings := [8, 16, 24] }

/-- Service centre address. -/
def smsConfigurationLayout : InfoLayout := { fixed := 24, strings := [16] }

/-- The PDU of a message. -/
def smsRecordLayout : ListLayout := { count := 4, refs := 8, fixed := 16, strings := [8] }

/-- What each CID of `UUID_BASIC_CONNECT` advertises; most advertise nothing. -/
def basicConnectLayout : Nat → InfoLayout
  | 1 => deviceCapsLayout
  | 2 => subscriberReadyLayout
  | 9 => registerStateLayout
  | 13 => { list := some contextLayout }
  | 15 => ipConfigurationLayout
  | 16 => { list := some deviceServiceLayout }
  | _ => {}

def basicConnectExtensionsLayout : Nat → InfoLayout
  | 1 => { list := some contextV2Layout }
  | 3 => { list := some lteAttachConfigLayout }
  | 4 => lteAttachStatusLayout
  | _ => {}

def smsLayout : Nat → InfoLayout
  | 1 => smsConfigurationLayout
  | 2 => { list := some smsRecordLayout }
  | _ => {}

def infoLayout (service : Bytes) (cid : UInt32) : InfoLayout :=
  if service = uuidBasicConnect then basicConnectLayout cid.toNat
  else if service = uuidBasicConnectExtensions then basicConnectExtensionsLayout cid.toNat
  else if service = uuidSms then smsLayout cid.toNat
  else {}

/-! ## From a builder to its octets -/

section Held

variable {b : MbimWireBuilder}

/-- The pair at `pos` of the buffer, counted from `base`, ends inside `size` octets. -/
def MbimWireBuilder.HoldsString (b : MbimWireBuilder) (base size pos : Nat) : Prop :=
  ∃ ref : MbimString, b.Holds (base + pos) (le32s [ref.offset, ref.length]) ∧
    ref.offset.toNat + ref.length.toNat ≤ size

/-- The reference number `i` gives an element at `off` whose strings are inside it. -/
structure MbimWireBuilder.HoldsElement (b : MbimWireBuilder) (l : ListLayout) (i : Nat)
    (off size : UInt32) : Prop where
  ref : b.Holds (l.refs + 8 * i) (le32s [off, size])
  inside : off.toNat + size.toNat ≤ b.len.toNat
  fixed : l.fixed ≤ size.toNat
  strings : ∀ pos ∈ l.strings, b.HoldsString off.toNat size.toNat pos

theorem wordAt_words {vs : List UInt32} {pos k : Nat} {v : UInt32} (h : b.Holds pos (le32s vs))
    (hlen : pos + 4 * vs.length ≤ b.len.toNat) (hk : vs[k]? = some v) :
    wordAt b.info (pos + 4 * k) = v.toNat := by
  induction vs generalizing pos k with
  | nil => cases hk
  | cons w vs ih =>
    obtain ⟨hw, hvs⟩ := MbimWireBuilder.holds_le32s_cons.mp h
    rw [List.length_cons] at hlen
    cases k with
    | zero =>
      obtain rfl : w = v := Option.some.inj hk
      exact congrArg UInt32.toNat (MbimWireBuilder.getLe32_info hw (by omega))
    | succ k =>
      rw [show pos + 4 * (k + 1) = pos + 4 + 4 * k by omega]
      exact ih hvs (by omega) hk

theorem wordAt_pair {pos : Nat} {v w : UInt32} (h : b.Holds pos (le32s [v, w]))
    (hlen : pos + 8 ≤ b.len.toNat) :
    wordAt b.info pos = v.toNat ∧ wordAt b.info (pos + 4) = w.toNat :=
  ⟨wordAt_words (k := 0) h hlen rfl, wordAt_words (k := 1) h hlen rfl⟩

theorem MbimWireBuilder.HoldsString.pairInside {base size pos : Nat}
    (h : b.HoldsString base size pos) (hlen : base + pos + 8 ≤ b.len.toNat) :
    PairInside b.info base size pos := by
  obtain ⟨ref, hpair, hsize⟩ := h
  obtain ⟨hoff, hlength⟩ := wordAt_pair hpair hlen
  rw [PairInside, hoff, hlength]
  exact hsize

/-- A list whose elements follow one another. -/
theorem ListLayout.wellFormed_of_held {l : ListLayout} {n : Nat} (off size : Nat → UInt32)
    (hcount : wordAt b.info l.count = n) (hrefs : l.refs + 8 * n ≤ b.len.toNat)
    (helements : ∀ i, i < n → b.HoldsElement l i (off i) (size i))
    (hordered : ∀ i j, i < j → j < n → (off i).toNat + (size i).toNat ≤ (off j).toNat) :
    l.WellFormed b.info := by
  have hread : ∀ i, i < n →
      l.elementOffset b.info i = (off i).toNat ∧ l.elementSize b.info i = (size i).toNat :=
    fun i hi => wordAt_pair (helements i hi).ref (by omega)
  refine ⟨?_, ?_, ?_⟩
  · rw [items, hcount, MbimWireBuilder.info_length]
    exact hrefs
  · intro i hi
    rw [items, hcount] at hi
    obtain ⟨hoff, hsize⟩ := hread i hi
    have helem := helements i hi
    have hinside := helem.inside
    have hfixed := helem.fixed
    constructor
    · rw [hoff, hsize, MbimWireBuilder.info_length]
      exact hinside
    · rw [hsize]
      exact hfixed
    · intro pos hpos
      have hreach := l.strings_fixed pos hpos
      rw [hoff, hsize]
      exact (helem.strings pos hpos).pairInside (by omega)
  · intro i j hij hj
    rw [items, hcount] at hj
    obtain ⟨hoffi, hsizei⟩ := hread i (by omega)
    obtain ⟨hoffj, -⟩ := hread j hj
    rw [hoffi, hsizei, hoffj]
    exact .inl (hordered i j hij hj)

theorem InfoLayout.wellFormed_of_list {l : ListLayout} {info : Bytes} (h : l.WellFormed info) :
    InfoLayout.WellFormed { list := some l } info :=
  ⟨Nat.zero_le _, nofun, nofun, fun _ hsome => Option.some.inj hsome ▸ h⟩

/-- A buffer whose last writes are pairs of its fixed part and words beside them. -/
theorem InfoLayout.wellFormed_puts {l : InfoLayout} {ws : List (Nat × Bytes)}
    (refs : List (Nat × MbimString)) (harrays : l.arrays = [])
    (hlist : ∀ elements, l.list = some elements → elements.WellFormed (b.puts ws).info)
    (hfixed : l.fixed ≤ b.len.toNat) (hbeside : ws.Pairwise WriteLog.Beside)
    (hstrings : l.strings = refs.map (·.1))
    (hmem : ∀ r ∈ refs, (r.1, le32s [r.2.offset, r.2.length]) ∈ ws)
    (hend : ∀ r ∈ refs, r.2.offset.toNat + r.2.length.toNat ≤ b.len.toNat) :
    l.WellFormed (b.puts ws).info := by
  refine ⟨?_, ?_, ?_, hlist⟩
  · rw [MbimWireBuilder.info_length]
    exact hfixed
  · intro pos hpos
    have hreach := l.strings_fixed pos hpos
    rw [hstrings] at hpos
    obtain ⟨r, hr, rfl⟩ := List.mem_map.mp hpos
    have hheld : (b.puts ws).HoldsString 0 (b.puts ws).info.length r.1 := by
      refine ⟨r.2, ?_, ?_⟩
      · rw [Nat.zero_add]
        exact MbimWireBuilder.holds_puts hbeside (hmem r hr)
      · rw [MbimWireBuilder.info_length]
        exact hend r hr
    refine hheld.pairInside ?_
    rw [Nat.zero_add]
    exact Nat.le_trans hreach hfixed
  · rw [harrays]
    exact nofun

end Held

/-! ## Octets without a builder -/

theorem wordAt_le32s {vs : List UInt32} {k : Nat} {v : UInt32} (hk : vs[k]? = some v) (rest : Bytes) :
    wordAt (le32s vs ++ rest) (4 * k) = v.toNat := by
  induction vs generalizing k with
  | nil => cases hk
  | cons w vs ih =>
    rw [show le32s (w :: vs) ++ rest = putLe32 w ++ (le32s vs ++ rest) from List.append_assoc ..]
    cases k with
    | zero =>
      obtain rfl : w = v := Option.some.inj hk
      exact congrArg UInt32.toNat (getLe32_putLe32 w _)
    | succ k =>
      rw [← ih hk, wordAt, wordAt, show 4 * (k + 1) = (putLe32 w).length + 4 * k by
        rw [putLe32_length]
        omega, getLe32_append_right]

/-- A buffer without arrays and lists. -/
theorem InfoLayout.wellFormed_fixed {l : InfoLayout} {info : Bytes} (harrays : l.arrays = [])
    (hlist : l.list = none) (hfixed : l.fixed ≤ info.length)
    (hstrings : ∀ pos ∈ l.strings, PairInside info 0 info.length pos) : l.WellFormed info :=
  ⟨hfixed, hstrings, harrays ▸ nofun, hlist ▸ nofun⟩

section Decide

variable (info : Bytes)

instance (l : ListLayout) (i : Nat) : Decidable (l.ElementInside info i) :=
  decidable_of_iff (l.elementOffset info i + l.elementSize info i ≤ info.length ∧
      l.fixed ≤ l.elementSize info i ∧
      ∀ pos ∈ l.strings, PairInside info (l.elementOffset info i) (l.elementSize info i) pos)
    ⟨fun ⟨h, h', h''⟩ => ⟨h, h', h''⟩, fun ⟨h, h', h''⟩ => ⟨h, h', h''⟩⟩

instance (l : ListLayout) : Decidable (l.WellFormed info) :=
  decidable_of_iff (l.refs + 8 * l.items info ≤ info.length ∧
      (∀ i, i < l.items info → l.ElementInside info i) ∧
      ∀ j, j < l.items info → ∀ i, i < j →
        l.elementOffset info i + l.elementSize info i ≤ l.elementOffset info j ∨
          l.elementOffset info j + l.elementSize info j ≤ l.elementOffset info i)
    ⟨fun ⟨h, h', h''⟩ => ⟨h, h', fun i j hij hj => h'' j hj i hij⟩,
      fun ⟨h, h', h''⟩ => ⟨h, h', fun j hj i hij => h'' i j hij hj⟩⟩

end Decide

end VirtualLte.Mbim
