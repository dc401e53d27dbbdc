import VirtualLte.Nas.Decode

/-!
# What the decoder reads

`ue_nas_decode.c` once more, this time as it walks the message: by index, with a read that
fails outside the message and loops that fail when they run on.  `none` is such a failure and
`some` an answer.

* One function per loop and per branch of the source, with the source's positions and guards.
* Each comes with the lemma that it answers, and that the answer is the one `Nas.Decode` gives
  for the rest of the message from that position (`…_eq`).
* `decodeEvent_safe` is the whole, and adds where GUTI, ABBA and inner message lie.
-/

namespace VirtualLte.Nas

open Crypto

variable {i fuel : Nat} (b : Bytes) (wantedId : Nat)

/-! ## Reads -/

def readAt (b : Bytes) (i : Nat) : Option UInt8 := b[i]?

/-- `memcpy` from the message. -/
def readSlice (b : Bytes) (i n : Nat) : Option Bytes :=
  if i + n ≤ b.length then some ((b.drop i).take n) else none

def readBe16 (b : Bytes) (i : Nat) : Option Nat := do
  let hi ← readAt b i
  let lo ← readAt b (i + 1)
  some (getBe16 hi lo)

theorem readAt_of_lt {b : Bytes} (h : i < b.length) : readAt b i = some (octet b i) := by
  rw [readAt, List.getElem?_eq_getElem h, octet_eq_getElem h]

theorem readBe16_of_lt {b : Bytes} (h : i + 1 < b.length) :
    readBe16 b i = some (getBe16 (octet b i) (octet b (i + 1))) := by
  rw [readBe16, readAt_of_lt (by omega), readAt_of_lt h]
  rfl

theorem readSlice_of_le {b : Bytes} {n : Nat} (h : i + n ≤ b.length) :
    readSlice b i n = some ((b.drop i).take n) := if_pos h

/-! ## Registration Accept -/

/-- `for (i = 5; i + 2 < len; i++)`. -/
def checkedT3512 (b : Bytes) : Nat → Nat → Option (Option UInt32)
  | 0, i => if i + 2 < b.length then none else some none
  | fuel + 1, i =>
    if i + 2 < b.length then do
      let a ← readAt b i
      if a = 0x5E then do
        let c ← readAt b (i + 1)
        if c = 0x01 then do
          let v ← readAt b (i + 2)
          some (some (gprsTimer3Seconds v))
        else checkedT3512 b fuel (i + 1)
      else checkedT3512 b fuel (i + 1)
    else some none

theorem parseT3512_drop {b : Bytes} (h : i + 2 < b.length) :
    parseT3512 (b.drop i) =
      if octet b i = 0x5E ∧ octet b (i + 1) = 0x01 then some (gprsTimer3Seconds (octet b (i + 2)))
      else parseT3512 (b.drop (i + 1)) := by
  have hnext : b.drop (i + 1) = octet b (i + 1) :: octet b (i + 2) :: b.drop (i + 3) := by
    rw [drop_eq_octet_cons (by omega), drop_eq_octet_cons (by omega)]
  rw [drop_eq_octet_cons (by omega : i < b.length), hnext, parseT3512]

theorem parseT3512_short {b : Bytes} (h : b.length < 3) : parseT3512 b = none := by
  match b, h with
  | [], _ => rfl
  | [_], _ => rfl
  | [_, _], _ => rfl

theorem checkedT3512_eq (h : b.length ≤ fuel + i) :
    checkedT3512 b fuel i = some (parseT3512 (b.drop i)) := by
  induction fuel generalizing i with
  | zero =>
    rw [checkedT3512, if_neg (by omega), parseT3512_short (by rw [List.length_drop]; omega)]
  | succ fuel ih =>
    rw [checkedT3512]
    split
    · rename_i hlt
      rw [readAt_of_lt (by omega), readAt_of_lt (by omega), readAt_of_lt hlt,
        ih (by omega : b.length ≤ fuel + (i + 1)), parseT3512_drop hlt]
      simp only [Option.bind_eq_bind, Option.bind_some]
      split
      · rename_i ha
        simp only [ha, true_and]
        split
        · rfl
        · rfl
      · rename_i ha
        simp only [ha, false_and, if_false]
    · rw [parseT3512_short (by rw [List.length_drop]; omega)]

/-- `while (pos < len)` over the half-octet elements. -/
def checkedHalfOctets (b : Bytes) : Nat → Nat → Option Nat
  | 0, pos => if pos < b.length then none else some pos
  | fuel + 1, pos =>
    if pos < b.length then do
      let x ← readAt b pos
      if isHalfOctetIe x then checkedHalfOctets b fuel (pos + 1) else some pos
    else some pos

/-- The walk stops, and what it has passed is what `dropWhile` drops. -/
theorem checkedHalfOctets_eq {pos : Nat} (h : b.length ≤ fuel + pos) :
    ∃ pos', checkedHalfOctets b fuel pos = some pos' ∧
      b.drop pos' = (b.drop pos).dropWhile isHalfOctetIe := by
  induction fuel generalizing pos with
  | zero =>
    have hend : b.drop pos = [] := List.drop_of_length_le (by omega)
    refine ⟨pos, if_neg (by omega), ?_⟩
    rw [hend, List.dropWhile_nil]
  | succ fuel ih =>
    rw [checkedHalfOctets]
    split
    · rename_i hlt
      rw [readAt_of_lt hlt, drop_eq_octet_cons hlt, List.dropWhile_cons]
      simp only [Option.bind_eq_bind, Option.bind_some]
      split
      · exact ih (by omega)
      · exact ⟨pos, rfl, drop_eq_octet_cons hlt⟩
    · have hend : b.drop pos = [] := List.drop_of_length_le (by omega)
      refine ⟨pos, rfl, ?_⟩
      rw [hend, List.dropWhile_nil]

def checkedGuti (b : Bytes) (pos : Nat) : Option (Option Bytes) :=
  if pos + 3 ≤ b.length then do
    let iei ← readAt b pos
    if iei = 0x77 then do
      let glen ← readBe16 b (pos + 1)
      if 0 < glen ∧ glen ≤ 16 ∧ pos + 3 + glen ≤ b.length then do
        let kind ← readAt b (pos + 3)
        if kind &&& 0x07 = 0x02 then do
          let guti ← readSlice b (pos + 3) glen
          some (some guti)
        else some none
      else some none
    else some none
  else some none

theorem checkedGuti_eq (pos : Nat) : checkedGuti b pos = some (parseGuti (b.drop pos)) := by
  unfold checkedGuti parseGuti
  simp only [octet_drop, List.length_drop, Nat.add_zero, List.drop_drop]
  by_cases hlen : pos + 3 ≤ b.length
  · rw [if_pos hlen, readAt_of_lt (by omega), readBe16_of_lt (by omega)]
    simp only [Option.bind_eq_bind, Option.bind_some, Nat.add_assoc, Nat.reduceAdd]
    generalize getBe16 (octet b (pos + 1)) (octet b (pos + 2)) = glen
    split
    · rename_i hiei
      split
      · rename_i hglen
        rw [readAt_of_lt (by omega), readSlice_of_le (by omega)]
        simp only [Option.bind_some]
        split
        · rename_i hkind
          rw [if_pos ⟨by omega, hiei, hglen.1, hglen.2.1, by omega, hkind⟩]
        · rename_i hkind
          rw [if_neg fun h => hkind h.2.2.2.2.2]
      · rename_i hglen
        rw [if_neg fun h => hglen ⟨h.2.2.1, h.2.2.2.1, by omega⟩]
    · rename_i hiei
      rw [if_neg fun h => hiei h.2.1]
  · rw [if_neg hlen, if_neg fun h => hlen (by omega)]

def checkedRegistrationAccept (b : Bytes) : Option UeNasEvent :=
  if 5 ≤ b.length then do
    let resultLen ← readAt b 3
    let pos ← checkedHalfOctets b b.length (4 + resultLen.toNat)
    let guti ← checkedGuti b pos
    let t3512Seconds ← checkedT3512 b b.length 5
    some { type := .registrationAccept, guti, t3512Seconds }
  else some { type := .registrationAccept }

theorem checkedRegistrationAccept_eq :
    checkedRegistrationAccept b = some (decodeRegistrationAccept b) := by
  unfold checkedRegistrationAccept decodeRegistrationAccept
  split
  · rename_i hlen
    obtain ⟨pos, hpos, hdrop⟩ := checkedHalfOctets_eq b
      (Nat.le_add_right b.length (4 + (octet b 3).toNat))
    rw [readAt_of_lt (by omega)]
    simp only [Option.bind_eq_bind, Option.bind_some, hpos, checkedGuti_eq, hdrop,
      checkedT3512_eq b (Nat.le_add_right b.length 5)]
  · rfl

/-! ## Authentication Request -/

/-- `pos + need <= len && pdu[pos] == iei`. -/
def checkedTag (b : Bytes) (iei : UInt8) (need pos : Nat) : Option Bool :=
  if pos + need ≤ b.length then do
    let x ← readAt b pos
    some (x = iei)
  else some false

theorem checkedTag_eq (iei : UInt8) {need : Nat} (hneed : 0 < need) (pos : Nat) :
    checkedTag b iei need pos = some (decide (need ≤ (b.drop pos).length ∧
      octet (b.drop pos) 0 = iei)) := by
  unfold checkedTag
  rw [List.length_drop, octet_drop]
  split
  · rename_i hlen
    rw [readAt_of_lt (by omega)]
    simp only [Option.bind_eq_bind, Option.bind_some, Nat.add_zero,
      show need ≤ b.length - pos by omega, true_and]
  · rename_i hlen
    simp only [show ¬ need ≤ b.length - pos by omega, false_and, decide_false]

def checkedRand (b : Bytes) (pos : Nat) : Option (Option Block) := do
  let hasRand ← checkedTag b 0x21 17 pos
  if hasRand then (readSlice b (pos + 1) 16).map fun v => some (vecOf 16 v) else some none

def checkedAutn (b : Bytes) (pos : Nat) : Option (Option Block) := do
  let hasAutn ← checkedTag b 0x20 18 pos
  if hasAutn then do
    let len ← readAt b (pos + 1)
    if len = 16 then (readSlice b (pos + 2) 16).map fun v => some (vecOf 16 v) else some none
  else some none

/-- RAND and AUTN from `pos` on. -/
def checkedAuthVector (b : Bytes) (pos : Nat) : Option (Option Block × Option Block) := do
  let rand ← checkedRand b pos
  let autn ← checkedAutn b (if rand.isSome then pos + 17 else pos)
  some (rand, autn)

theorem checkedRand_eq (pos : Nat) :
    checkedRand b pos = some (if 17 ≤ (b.drop pos).length ∧ octet (b.drop pos) 0 = 0x21 then
      some (vecOf 16 ((b.drop pos).drop 1)) else none) := by
  unfold checkedRand
  rw [checkedTag_eq b 0x21 (by decide)]
  simp only [Option.bind_eq_bind, Option.bind_some, decide_eq_true_eq]
  split
  · rename_i h
    rw [List.length_drop] at h
    rw [readSlice_of_le (by omega), Option.map_some, vecOf_take (Nat.le_refl _), List.drop_drop]
  · rfl

theorem checkedAutn_eq (pos : Nat) :
    checkedAutn b pos = some (if 18 ≤ (b.drop pos).length ∧ octet (b.drop pos) 0 = 0x20 ∧
      octet (b.drop pos) 1 = 16 then some (vecOf 16 ((b.drop pos).drop 2)) else none) := by
  unfold checkedAutn
  rw [checkedTag_eq b 0x20 (by decide)]
  simp only [Option.bind_eq_bind, Option.bind_some, decide_eq_true_eq]
  split
  · rename_i htag
    have hlong : 18 ≤ b.length - pos := by
      rw [List.length_drop] at htag
      exact htag.1
    rw [readAt_of_lt (by omega), octet_drop b pos 1, List.drop_drop]
    simp only [Option.bind_some]
    split
    · rename_i hlen
      rw [readSlice_of_le (by omega), Option.map_some, vecOf_take (Nat.le_refl _), if_pos ⟨htag.1, htag.2, hlen⟩]
    · rename_i hlen
      rw [if_neg fun h => hlen h.2.2]
  · rename_i htag
    rw [if_neg fun h => htag ⟨h.1, h.2.1⟩]

theorem checkedAuthVector_eq (pos : Nat) :
    checkedAuthVector b pos = some (parseAuthVector (b.drop pos)) := by
  unfold checkedAuthVector parseAuthVector
  rw [checkedRand_eq]
  simp only [Option.bind_eq_bind, Option.bind_some, checkedAutn_eq]
  by_cases hrand : 17 ≤ (b.drop pos).length ∧ octet (b.drop pos) 0 = 0x21
  · simp only [if_pos hrand, Option.isSome_some, if_true, List.drop_drop]
  · simp only [if_neg hrand, Option.isSome_none, Bool.false_eq_true, if_false]

/-- The octets of the ABBA that go into the log text: two characters each, of 256. -/
def abbaLogged (abbaLen : Nat) : Nat := min abbaLen 127

def checkedAbba (b : Bytes) (abbaLen : Nat) : Option (Option Bytes) :=
  if 5 + abbaLen ≤ b.length then do
    let _ ← readSlice b 5 (abbaLogged abbaLen)
    if abbaLen ≤ 16 then (readSlice b 5 abbaLen).map some else some none
  else some none

def checkedAuthenticationRequest (b : Bytes) : Option UeNasEvent :=
  if 3 + 1 + 2 + 17 + 18 ≤ b.length then do
    let ngksi ← readAt b 3
    let abbaLen ← readAt b 4
    let authAbba ← checkedAbba b abbaLen.toNat
    let v ← checkedAuthVector b (5 + abbaLen.toNat)
    some {
      type := .authenticationRequest
      ngksi := some (ngksi &&& 0x07)
      authAbba
      authRand := v.1
      authAutn := v.2 }
  else some { type := .authenticationRequest }

theorem checkedAbba_eq (abbaLen : Nat) :
    checkedAbba b abbaLen = some (if 5 + abbaLen ≤ b.length ∧ abbaLen ≤ 16 then
      some ((b.drop 5).take abbaLen) else none) := by
  unfold checkedAbba
  by_cases hlen : 5 + abbaLen ≤ b.length
  · have hlog : 5 + abbaLogged abbaLen ≤ b.length := by
      unfold abbaLogged
      omega
    rw [if_pos hlen, readSlice_of_le hlog, readSlice_of_le hlen]
    simp only [Option.bind_eq_bind, Option.bind_some, Option.map_some, hlen, true_and]
    split
    · rfl
    · rfl
  · rw [if_neg hlen, if_neg fun h => hlen h.1]

theorem checkedAuthenticationRequest_eq :
    checkedAuthenticationRequest b = some (decodeAuthenticationRequest b) := by
  unfold checkedAuthenticationRequest decodeAuthenticationRequest
  split
  · rw [readAt_of_lt (by omega), readAt_of_lt (by omega)]
    simp only [Option.bind_eq_bind, Option.bind_some, checkedAbba_eq, checkedAuthVector_eq]
  · rfl

/-! ## Security Mode Command -/

/-- `while (pos + 2 <= len)` up to the first octet `0x36`. -/
def checkedSecInfo (b : Bytes) : Nat → Nat → Option (Option UInt8)
  | 0, pos => if pos + 2 ≤ b.length then none else some none
  | fuel + 1, pos =>
    if pos + 2 ≤ b.length then do
      let x ← readAt b pos
      if x = 0x36 then do
        let ieLen ← readAt b (pos + 1)
        if 1 ≤ ieLen ∧ pos + 2 + ieLen.toNat ≤ b.length then (readAt b (pos + 2)).map some
        else some none
      else checkedSecInfo b fuel (pos + 1)
    else some none

theorem parseAdditional5gSecInfo_short {b : Bytes} (h : b.length < 2) :
    parseAdditional5gSecInfo b = none := by
  match b, h with
  | [], _ => rfl
  | [_], _ => rfl

theorem parseAdditional5gSecInfo_drop {b : Bytes} {pos : Nat} (h : pos + 2 ≤ b.length) :
    parseAdditional5gSecInfo (b.drop pos) =
      if octet b pos = 0x36 then
        if 1 ≤ octet b (pos + 1) ∧ pos + 2 + (octet b (pos + 1)).toNat ≤ b.length then
          some (octet b (pos + 2))
        else none
      else parseAdditional5gSecInfo (b.drop (pos + 1)) := by
  have hnext : b.drop (pos + 1) = octet b (pos + 1) :: b.drop (pos + 2) :=
    drop_eq_octet_cons (by omega)
  rw [drop_eq_octet_cons (by omega : pos < b.length), hnext, parseAdditional5gSecInfo,
    octet_drop, List.length_drop]
  have hroom : (octet b (pos + 1)).toNat ≤ b.length - (pos + 2) ↔
      pos + 2 + (octet b (pos + 1)).toNat ≤ b.length := by omega
  simp only [hroom, Nat.add_zero]

theorem checkedSecInfo_eq {pos : Nat} (h : b.length ≤ fuel + pos) :
    checkedSecInfo b fuel pos = some (parseAdditional5gSecInfo (b.drop pos)) := by
  induction fuel generalizing pos with
  | zero =>
    rw [checkedSecInfo, if_neg (by omega),
      parseAdditional5gSecInfo_short (by rw [List.length_drop]; omega)]
  | succ fuel ih =>
    rw [checkedSecInfo]
    split
    · rename_i hlen
      rw [readAt_of_lt (by omega), readAt_of_lt (by omega),
        ih (by omega : b.length ≤ fuel + (pos + 1)), parseAdditional5gSecInfo_drop hlen]
      simp only [Option.bind_eq_bind, Option.bind_some]
      split
      · split
        · rename_i hie
          have hpos : 1 ≤ (octet b (pos + 1)).toNat := UInt8.le_iff_toNat_le.mp hie.1
          rw [readAt_of_lt (by omega), Option.map_some]
        · rfl
      · rfl
    · rw [parseAdditional5gSecInfo_short (by rw [List.length_drop]; omega)]

def checkedSecurityModeCommand (b : Bytes) : Option UeNasEvent :=
  if 5 ≤ b.length then do
    let algs ← readAt b 3
    let ngksi ← readAt b 4
    let additional5gSecInfo ← checkedSecInfo b b.length 5
    some {
      type := .securityModeCommand
      secAlgs := some ((algs >>> 4) &&& 0x0F, algs &&& 0x0F)
      ngksi := some (ngksi &&& 0x07)
      additional5gSecInfo }
  else some { type := .securityModeCommand }

theorem checkedSecurityModeCommand_eq :
    checkedSecurityModeCommand b = some (decodeSecurityModeCommand b) := by
  unfold checkedSecurityModeCommand decodeSecurityModeCommand
  split
  · rw [readAt_of_lt (by omega), readAt_of_lt (by omega),
      checkedSecInfo_eq b (Nat.le_add_right b.length 5)]
    rfl
  · rfl

/-! ## PDU Session Establishment Accept -/

/-- `while (p + 3 <= end)` over the container items. -/
def checkedEpcoItems (b : Bytes) (wantedId : Nat) : Nat → Nat → Nat → Option (Option Ipv4)
  | 0, p, stop => if p + 3 ≤ stop then none else some none
  | fuel + 1, p, stop =>
    if p + 3 ≤ stop then do
      let id ← readBe16 b p
      let clen ← readAt b (p + 2)
      if p + 3 + clen.toNat > stop then some none
      else if id = wantedId ∧ clen.toNat = 4 then
        (readSlice b (p + 3) 4).map fun v => some (vecOf 4 v)
      else checkedEpcoItems b wantedId fuel (p + 3 + clen.toNat) stop
    else some none

/-- The items from `p` to `stop`. -/
theorem checkedEpcoItems_eq {p stop : Nat} (hstop : stop ≤ b.length) (h : stop ≤ fuel + p) :
    checkedEpcoItems b wantedId fuel p stop =
      some (epcoItems wantedId fuel ((b.drop p).take (stop - p))) := by
  induction fuel generalizing p with
  | zero => rw [checkedEpcoItems, if_neg (by omega), epcoItems]
  | succ fuel ih =>
    have hlen : ((b.drop p).take (stop - p)).length = stop - p := by
      rw [List.length_take, List.length_drop]
      omega
    rw [checkedEpcoItems, epcoItems, hlen]
    split
    · rename_i hroom
      rw [readBe16_of_lt (by omega), readAt_of_lt (by omega), if_neg (by omega : ¬ stop - p < 3),
        octet_take (by omega), octet_take (by omega), octet_take (by omega), octet_drop, octet_drop,
        octet_drop]
      simp only [Option.bind_eq_bind, Option.bind_some, Nat.add_zero]
      generalize (octet b (p + 2)).toNat = clen
      by_cases hlong : p + 3 + clen > stop
      · rw [if_pos hlong, if_pos (by omega : stop - p < 3 + clen)]
      rw [if_neg hlong, if_neg (by omega : ¬ stop - p < 3 + clen), List.drop_take, List.drop_take,
        List.drop_drop, List.drop_drop]
      split
      · rename_i hfound
        rw [readSlice_of_le (by omega), Option.map_some, vecOf_take (Nat.le_refl _),
          vecOf_take (by omega)]
      · rw [ih (by omega), Nat.sub_sub, Nat.add_assoc]
    · rw [if_pos (by omega)]

/-- The body of `for (i = 4; i + 4 < len; i++)`. -/
def checkedEpcoAt (b : Bytes) (wantedId i : Nat) : Option (Option Ipv4) := do
  let iei ← readAt b i
  if iei = 0x7B then do
    let epcoLen ← readBe16 b (i + 1)
    if epcoLen < 1 ∨ i + 3 + epcoLen > b.length then some none
    else do
      let config ← readAt b (i + 3)
      if config = 0x80 then checkedEpcoItems b wantedId (b.length - i) (i + 4) (i + 3 + epcoLen)
      else some none
  else some none

theorem checkedEpcoAt_eq (h : i + 4 < b.length) :
    checkedEpcoAt b wantedId i = some (epcoAt wantedId (b.drop i)) := by
  unfold checkedEpcoAt epcoAt
  rw [readAt_of_lt (by omega), readBe16_of_lt (by omega), readAt_of_lt (by omega)]
  simp only [octet_drop, List.length_drop, Nat.add_zero, List.drop_drop, Option.bind_eq_bind,
    Option.bind_some, Nat.add_assoc, Nat.reduceAdd]
  generalize getBe16 (octet b (i + 1)) (octet b (i + 2)) = epcoLen
  split
  · rename_i hiei
    split
    · rename_i hbad
      rw [if_neg fun hok => by omega]
    · rename_i hgood
      split
      · rename_i hconfig
        rw [if_pos ⟨hiei, by omega, by omega, hconfig⟩,
          checkedEpcoItems_eq b wantedId (by omega) (by omega),
          show i + (3 + epcoLen) - (i + 4) = epcoLen - 1 by omega]
      · rename_i hconfig
        rw [if_neg fun hok => hconfig hok.2.2.2]
  · rename_i hiei
    rw [if_neg fun hok => hiei hok.1]

def checkedEpco (b : Bytes) (wantedId : Nat) : Nat → Nat → Option (Option Ipv4)
  | 0, i => if i + 4 < b.length then none else some none
  | fuel + 1, i =>
    if i + 4 < b.length then do
      let found ← checkedEpcoAt b wantedId i
      match found with
      | some ip => some (some ip)
      | none => checkedEpco b wantedId fuel (i + 1)
    else some none

theorem parseEpcoContainerIpv4_short {b : Bytes} (h : b.length < 5) :
    parseEpcoContainerIpv4 wantedId b = none := by
  cases b with
  | nil => rfl
  | cons x rest => rw [parseEpcoContainerIpv4, if_pos h]

theorem parseEpcoContainerIpv4_drop {b : Bytes} (h : i + 4 < b.length) :
    parseEpcoContainerIpv4 wantedId (b.drop i) =
      match epcoAt wantedId (b.drop i) with
      | some ip => some ip
      | none => parseEpcoContainerIpv4 wantedId (b.drop (i + 1)) := by
  have hlong : ¬ (octet b i :: b.drop (i + 1)).length < 5 := by
    rw [List.length_cons, List.length_drop]
    omega
  rw [drop_eq_octet_cons (by omega : i < b.length), parseEpcoContainerIpv4]
  exact if_neg hlong

theorem checkedEpco_eq (h : b.length ≤ fuel + i) :
    checkedEpco b wantedId fuel i = some (parseEpcoContainerIpv4 wantedId (b.drop i)) := by
  induction fuel generalizing i with
  | zero =>
    rw [checkedEpco, if_neg (by omega),
      parseEpcoContainerIpv4_short wantedId (by rw [List.length_drop]; omega)]
  | succ fuel ih =>
    rw [checkedEpco]
    split
    · rename_i hlt
      rw [checkedEpcoAt_eq b wantedId hlt, parseEpcoContainerIpv4_drop wantedId hlt,
        ih (by omega : b.length ≤ fuel + (i + 1))]
      simp only [Option.bind_eq_bind, Option.bind_some]
      cases epcoAt wantedId (b.drop i) with
      | none => rfl
      | some ip => rfl
    · rw [parseEpcoContainerIpv4_short wantedId (by rw [List.length_drop]; omega)]

/-- The element `0x29` at `pos`. -/
def checkedAddressAt (b : Bytes) (pos : Nat) : Option (Option (UInt8 × Ipv4)) := do
  let ieLen ← readAt b (pos + 1)
  if pos + 2 + ieLen.toNat ≤ b.length ∧ 5 ≤ ieLen.toNat then do
    let addrType ← readAt b (pos + 2)
    if addrType = 1 then do
      let addr ← readSlice b (pos + 3) 4
      some (some (addrType, vecOf 4 addr))
    else some (some (addrType, Vector.replicate 4 0))
  else some none

/-- `while (pos + 2 < len)` over the optional elements. -/
def checkedAddress (b : Bytes) : Nat → Nat → Option (Option (UInt8 × Ipv4))
  | 0, pos => if pos + 2 < b.length then none else some none
  | fuel + 1, pos =>
    if pos + 2 < b.length then do
      let iei ← readAt b pos
      if iei = 0x29 then checkedAddressAt b pos
      else if iei ≥ 0x80 then checkedAddress b fuel (pos + 1)
      else do
        let ieLen ← readAt b (pos + 1)
        checkedAddress b fuel (pos + (2 + ieLen.toNat))
    else some none

theorem checkedAddressAt_eq {b : Bytes} {pos : Nat} (h : pos + 2 < b.length) :
    checkedAddressAt b pos = some (
      if 2 + (octet b (pos + 1)).toNat ≤ b.length - pos ∧ 5 ≤ (octet b (pos + 1)).toNat then
        some (octet b (pos + 2), if octet b (pos + 2) = 1 then vecOf 4 (b.drop (pos + 3))
          else Vector.replicate 4 0)
      else none) := by
  unfold checkedAddressAt
  rw [readAt_of_lt (by omega)]
  simp only [Option.bind_eq_bind, Option.bind_some]
  split
  · rename_i hie
    rw [readAt_of_lt h, if_pos ⟨by omega, hie.2⟩]
    simp only [Option.bind_some]
    split
    · rw [readSlice_of_le (by omega)]
      simp only [Option.bind_some, vecOf_take (Nat.le_refl 4)]
    · rfl
  · rename_i hie
    rw [if_neg fun hok => hie ⟨by omega, hok.2⟩]

theorem checkedAddress_eq {pos : Nat} (h : b.length ≤ fuel + pos) :
    checkedAddress b fuel pos = some (scanPduAddress fuel (b.drop pos)) := by
  induction fuel generalizing pos with
  | zero => rw [checkedAddress, if_neg (by omega), scanPduAddress]
  | succ fuel ih =>
    rw [checkedAddress, scanPduAddress]
    simp only [octet_drop, List.length_drop, Nat.add_zero, List.drop_drop]
    split
    · rename_i hlt
      rw [if_neg (by omega : ¬ b.length - pos < 3), readAt_of_lt (by omega),
        readAt_of_lt (by omega)]
      simp only [Option.bind_eq_bind, Option.bind_some]
      split
      · exact checkedAddressAt_eq hlt
      · split
        · exact ih (by omega)
        · exact ih (by omega)
    · rw [if_pos (by omega)]

/-- Behind the QoS rules, which start at octet 5. -/
def checkedSkipQos (b : Bytes) : Option Nat :=
  if 7 ≤ b.length then (readBe16 b 5).map fun qosLen => 5 + (2 + qosLen) else some 5

/-- Behind the session AMBR. -/
def checkedSkipAmbr (b : Bytes) (pos : Nat) : Option Nat :=
  if pos + 1 ≤ b.length then (readAt b pos).map fun ambrLen => pos + (1 + ambrLen.toNat)
  else some pos

theorem checkedSkipQos_eq {b : Bytes} (h : 5 ≤ b.length) :
    ∃ pos, checkedSkipQos b = some pos ∧ b.drop pos =
      if 2 ≤ (b.drop 5).length then
        (b.drop 5).drop (2 + getBe16 (octet (b.drop 5) 0) (octet (b.drop 5) 1))
      else b.drop 5 := by
  unfold checkedSkipQos
  rw [List.length_drop, octet_drop, octet_drop, List.drop_drop]
  by_cases hqos : 7 ≤ b.length
  · rw [if_pos hqos, if_pos (by omega), readBe16_of_lt (by omega)]
    exact ⟨_, rfl, rfl⟩
  · rw [if_neg hqos, if_neg (by omega)]
    exact ⟨5, rfl, rfl⟩

theorem checkedSkipAmbr_eq (pos : Nat) :
    ∃ pos', checkedSkipAmbr b pos = some pos' ∧ b.drop pos' =
      if 1 ≤ (b.drop pos).length then (b.drop pos).drop (1 + (octet (b.drop pos) 0).toNat)
      else b.drop pos := by
  unfold checkedSkipAmbr
  rw [List.length_drop, octet_drop, List.drop_drop]
  by_cases hpos : pos + 1 ≤ b.length
  · rw [if_pos hpos, if_pos (by omega), readAt_of_lt hpos]
    exact ⟨_, rfl, rfl⟩
  · rw [if_neg hpos, if_neg (by omega)]
    exact ⟨pos, rfl, rfl⟩

def checkedPduAddress (b : Bytes) : Option (Option (UInt8 × Ipv4)) :=
  if 5 ≤ b.length then do
    let pos ← checkedSkipQos b
    let pos ← checkedSkipAmbr b pos
    checkedAddress b b.length pos
  else some none

theorem checkedPduAddress_eq :
    checkedPduAddress b =
      some (if 5 ≤ b.length then scanPduAddress b.length (skipEstAcceptMandatory b) else none) := by
  unfold checkedPduAddress
  split
  · rename_i hlen
    obtain ⟨p, hqos, hp⟩ := checkedSkipQos_eq hlen
    obtain ⟨q, hambr, hq⟩ := checkedSkipAmbr_eq b p
    simp only [Option.bind_eq_bind, hqos, Option.bind_some, hambr,
      checkedAddress_eq b (Nat.le_add_right b.length q)]
    rw [hq, hp]
    rfl
  · rfl

def checkedEstAccept (b : Bytes) (psi pti : UInt8) : Option UeNasEvent := do
  let pduAddress ← checkedPduAddress b
  let dnsIpv4 ← checkedEpco b 0x000D b.length 4
  let pcscfIpv4 ← checkedEpco b 0x000C b.length 4
  some { type := .pduSessionEstAccept, psi, pti, pduAddress, dnsIpv4, pcscfIpv4 }

theorem checkedEstAccept_eq (psi pti : UInt8) :
    checkedEstAccept b psi pti = some {
      type := .pduSessionEstAccept, psi, pti
      pduAddress :=
        if 5 ≤ b.length then scanPduAddress b.length (skipEstAcceptMandatory b) else none
      dnsIpv4 := parseEpcoDns b
      pcscfIpv4 := parseEpcoPcscf b } := by
  unfold checkedEstAccept parseEpcoDns parseEpcoPcscf
  simp only [Option.bind_eq_bind, checkedPduAddress_eq, Option.bind_some,
    checkedEpco_eq b _ (Nat.le_add_right b.length 4)]

/-! ## Dispatch -/

/-- The cause in octet 4, when it is there. -/
def checkedCause (b : Bytes) (i : Nat) : Option UInt8 :=
  if i + 1 ≤ b.length then readAt b i else some 0

def checkedSmMessage (b : Bytes) : Option (Option UeNasEvent) :=
  if b.length < 4 then some none
  else do
    let epd ← readAt b 0
    if epd ≠ nasEpd5gsm then some none
    else do
      let psi ← readAt b 1
      let pti ← readAt b 2
      let msgType ← readAt b 3
      if msgType = nasMsgPduSessionEstAccept then (checkedEstAccept b psi pti).map some
      else if msgType = nasMsgPduSessionEstReject then do
        let smCause ← checkedCause b 4
        some (some { type := .pduSessionEstReject, psi, pti, smCause })
      else if msgType = nasMsgPduSessionReleaseCommand then do
        let smCause ← checkedCause b 4
        some (some { type := .pduSessionReleaseCmd, psi, pti, smCause })
      else some none

theorem checkedCause_eq (i : Nat) :
    checkedCause b i = some (if i + 1 ≤ b.length then octet b i else 0) := by
  unfold checkedCause
  split
  · rename_i hlen
    exact readAt_of_lt hlen
  · rfl

theorem checkedSmMessage_eq : checkedSmMessage b = some (decodeSmMessage b) := by
  unfold checkedSmMessage decodeSmMessage
  split
  · rfl
  rename_i hlen
  rw [readAt_of_lt (by omega), readAt_of_lt (by omega), readAt_of_lt (by omega),
    readAt_of_lt (by omega)]
  simp only [Option.bind_eq_bind, Option.bind_some, checkedEstAccept_eq, checkedCause_eq,
    Option.map_some]
  split
  · rfl
  split
  · rfl
  split
  · rfl
  split
  · rfl
  · rfl

/-- Offset and length of the 5GSM message in a DL NAS Transport. -/
def checkedInnerSm (b : Bytes) : Option (Option (Nat × Nat)) :=
  if 6 ≤ b.length then do
    let pct ← readAt b 3
    if pct &&& 0x0F = 0x01 then do
      let containerLen ← readBe16 b 4
      if 0 < containerLen ∧ containerLen + 6 ≤ b.length then some (some (6, containerLen))
      else some none
    else some none
  else some none

/-- The PDU session identity behind a container of `innerLen` octets. -/
def checkedPsi (b : Bytes) (innerLen : Nat) : Option UInt8 :=
  if 6 ≤ b.length ∧ 6 + innerLen + 1 < b.length then do
    let iei ← readAt b (6 + innerLen)
    if iei = 0x12 then readAt b (6 + innerLen + 1) else some 0
  else some 0

theorem checkedInnerSm_eq :
    ∃ inner, checkedInnerSm b = some inner ∧
      innerSmOf b = inner.map (fun m => (b.drop m.1).take m.2) ∧
      ∀ m ∈ inner, 0 < m.2 ∧ m.1 + m.2 ≤ b.length := by
  unfold checkedInnerSm innerSmOf
  dsimp only
  by_cases hlen : 6 ≤ b.length
  · rw [if_pos hlen, readAt_of_lt (by omega), readBe16_of_lt (by omega)]
    simp only [Option.bind_eq_bind, Option.bind_some, hlen, true_and, Nat.reduceAdd]
    generalize getBe16 (octet b 4) (octet b 5) = containerLen
    split
    · rename_i hpct
      simp only [hpct, true_and]
      split
      · rename_i hroom
        refine ⟨_, rfl, rfl, fun m hm => ?_⟩
        cases hm
        exact ⟨hroom.1, by omega⟩
      · exact ⟨none, rfl, rfl, nofun⟩
    · rename_i hpct
      refine ⟨none, rfl, ?_, nofun⟩
      rw [if_neg fun h => hpct h.1]
      rfl
  · refine ⟨none, if_neg hlen, ?_, nofun⟩
    rw [if_neg fun h => hlen h.1]
    rfl

theorem checkedPsi_eq {b : Bytes} {inner : Option (Nat × Nat)}
    (hinner : innerSmOf b = inner.map fun m => (b.drop m.1).take m.2)
    (hroom : ∀ m ∈ inner, 0 < m.2 ∧ m.1 + m.2 ≤ b.length) :
    checkedPsi b ((inner.map Prod.snd).getD 0) = some (dlNasTransportPsi b) := by
  have hlen : ((innerSmOf b).map List.length).getD 0 = (inner.map Prod.snd).getD 0 := by
    rw [hinner]
    cases inner with
    | none => rfl
    | some m =>
      have hm := hroom m rfl
      simp only [Option.map_some, Option.getD_some, List.length_take, List.length_drop]
      omega
  unfold checkedPsi dlNasTransportPsi
  rw [hlen]
  generalize (inner.map Prod.snd).getD 0 = n
  simp only [octet_drop, List.length_drop, Nat.add_zero]
  split
  · rename_i h
    rw [readAt_of_lt (by omega), readAt_of_lt (by omega)]
    simp only [Option.bind_eq_bind, Option.bind_some, h.1, true_and,
      show 2 ≤ b.length - (6 + n) by omega]
    split
    · rfl
    · rfl
  · rename_i h
    rw [if_neg fun hok => h ⟨hok.1, by omega⟩]

/-- What the decoder leaves behind: its answer, and the inner message it pointed to. -/
structure DecodeOutcome where
  event : Option UeNasEvent
  innerSm : Option (Nat × Nat) := none
  deriving DecidableEq, Repr

/-- The answer for a DL NAS Transport: that of the inner message, if there is one. -/
def checkedDlNasTransport (b : Bytes) : Option DecodeOutcome := do
  let innerSm ← checkedInnerSm b
  let psi ← checkedPsi b ((innerSm.map Prod.snd).getD 0)
  match innerSm with
  | none => some { event := some { type := .dlNasTransport, psi } }
  | some (off, len) => do
    let sm ← readSlice b off len
    let event ← checkedSmMessage sm
    some { event, innerSm := some (off, len) }

def checkedMmMessage (b : Bytes) : Option DecodeOutcome :=
  if b.length < 3 then some { event := none }
  else do
    let msgType ← readAt b 2
    if msgType = nasMsgRegistrationAccept then
      (checkedRegistrationAccept b).map fun ev => { event := some ev }
    else if msgType = nasMsgRegistrationReject then do
      let mmCause ← checkedCause b 3
      some { event := some { type := .registrationReject, mmCause } }
    else if msgType = nasMsgAuthenticationRequest then
      (checkedAuthenticationRequest b).map fun ev => { event := some ev }
    else if msgType = nasMsgSecurityModeCommand then
      (checkedSecurityModeCommand b).map fun ev => { event := some ev }
    else if msgType = nasMsgIdentityRequest then
      some { event := some { type := .identityRequest } }
    else if msgType = nasMsgConfigurationUpdateCommand then do
      let indication ← checkedCause b 3
      some {
        event := some {
          type := .configUpdateCommand
          configUpdateAckRequested :=
            4 ≤ b.length && indication >>> 4 = 0x0D && indication &&& 0x01 ≠ 0 } }
    else if msgType = nasMsgDlNasTransport then checkedDlNasTransport b
    else some { event := none }

def checkedDecodeEvent (b : Bytes) : Option DecodeOutcome :=
  if b.length < 2 then some { event := none }
  else do
    let epd ← readAt b 0
    let sht ← readAt b 1
    if epd = nasEpd5gmm ∧ sht ≠ nasShtNotProtected then some { event := none }
    else if epd = nasEpd5gmm then checkedMmMessage b
    else if epd = nasEpd5gsm then (checkedSmMessage b).map fun event => { event }
    else some { event := none }

/-! ## The whole decoder -/

theorem ueNasDecodeInnerSm_eq (sm : Bytes) : ueNasDecodeInnerSm sm = decodeSmMessage sm := by
  unfold ueNasDecodeInnerSm
  split
  · rename_i hlen
    rw [decodeSmMessage, if_pos hlen]
  rename_i hlen
  split
  · rename_i hepd
    rw [decodeSmMessage, if_neg hlen, if_pos hepd]
  · rfl

/-- An outcome with the given answer whose inner message lies in `b`. -/
def Answers (b : Bytes) (event : Option UeNasEvent) (r : Option DecodeOutcome) : Prop :=
  ∃ innerSm, r = some { event, innerSm } ∧ ∀ m ∈ innerSm, 0 < m.2 ∧ m.1 + m.2 ≤ b.length

theorem answers_of_eq {b : Bytes} {event : Option UeNasEvent} {r : Option DecodeOutcome}
    (h : r = some { event }) : Answers b event r :=
  ⟨none, h, nofun⟩

theorem checkedDlNasTransport_answers :
    Answers b (match innerSmOf b with
      | some sm => ueNasDecodeInnerSm sm
      | none => some { type := .dlNasTransport, psi := dlNasTransportPsi b })
      (checkedDlNasTransport b) := by
  obtain ⟨inner, hchecked, hinner, hroom⟩ := checkedInnerSm_eq b
  unfold checkedDlNasTransport
  rw [hchecked]
  simp only [Option.bind_eq_bind, Option.bind_some, checkedPsi_eq hinner hroom]
  rw [hinner]
  cases inner with
  | none => exact answers_of_eq rfl
  | some m =>
    obtain ⟨off, len⟩ := m
    have hm := hroom (off, len) rfl
    refine ⟨some (off, len), ?_, hroom⟩
    simp only [readSlice_of_le hm.2, Option.bind_some, checkedSmMessage_eq, Option.map_some,
      ueNasDecodeInnerSm_eq]

/-- The event of a plain 5GMM message, with a transported message decoded in its turn. -/
def mmEvent (b : Bytes) : Option UeNasEvent :=
  match decodeMmMessage b with
  | none => none
  | some ev =>
    if ev.type = .dlNasTransport then
      match innerSmOf b with
      | some sm => ueNasDecodeInnerSm sm
      | none => some ev
    else some ev

theorem decodeRegistrationAccept_type :
    (decodeRegistrationAccept b).type = .registrationAccept := by
  unfold decodeRegistrationAccept
  split
  · rfl
  · rfl

theorem decodeAuthenticationRequest_type :
    (decodeAuthenticationRequest b).type = .authenticationRequest := by
  unfold decodeAuthenticationRequest
  split
  · rfl
  · rfl

theorem decodeSecurityModeCommand_type :
    (decodeSecurityModeCommand b).type = .securityModeCommand := by
  unfold decodeSecurityModeCommand
  split
  · rfl
  · rfl

theorem checkedMmMessage_answers {b : Bytes} (hepd : octet b 0 = nasEpd5gmm) :
    Answers b (mmEvent b) (checkedMmMessage b) := by
  unfold checkedMmMessage mmEvent decodeMmMessage
  by_cases hlen : b.length < 3
  · rw [if_pos hlen, if_pos hlen]
    exact answers_of_eq rfl
  rw [if_neg hlen, if_neg hlen, if_neg (not_not.mpr hepd), readAt_of_lt (by omega)]
  simp only [Option.bind_eq_bind, Option.bind_some, checkedRegistrationAccept_eq,
    checkedAuthenticationRequest_eq, checkedSecurityModeCommand_eq, Option.map_some,
    checkedCause_eq, Nat.reduceAdd]
  by_cases haccept : octet b 2 = nasMsgRegistrationAccept
  · simp only [if_pos haccept, decodeRegistrationAccept_type, reduceCtorEq, if_false]
    exact answers_of_eq rfl
  rw [if_neg haccept, if_neg haccept]
  by_cases hreject : octet b 2 = nasMsgRegistrationReject
  · simp only [if_pos hreject, reduceCtorEq, if_false]
    exact answers_of_eq rfl
  rw [if_neg hreject, if_neg hreject]
  by_cases hauth : octet b 2 = nasMsgAuthenticationRequest
  · simp only [if_pos hauth, decodeAuthenticationRequest_type, reduceCtorEq, if_false]
    exact answers_of_eq rfl
  rw [if_neg hauth, if_neg hauth]
  by_cases hsmc : octet b 2 = nasMsgSecurityModeCommand
  · simp only [if_pos hsmc, decodeSecurityModeCommand_type, reduceCtorEq, if_false]
    exact answers_of_eq rfl
  rw [if_neg hsmc, if_neg hsmc]
  by_cases hident : octet b 2 = nasMsgIdentityRequest
  · simp only [if_pos hident, reduceCtorEq, if_false]
    exact answers_of_eq rfl
  rw [if_neg hident, if_neg hident]
  by_cases hconfig : octet b 2 = nasMsgConfigurationUpdateCommand
  · simp only [if_pos hconfig, reduceCtorEq, if_false]
    refine answers_of_eq ?_
    by_cases hlong : 4 ≤ b.length
    · simp only [if_pos hlong]
    · simp only [hlong, decide_false, Bool.false_and]
  rw [if_neg hconfig, if_neg hconfig]
  by_cases hdl : octet b 2 = nasMsgDlNasTransport
  · simp only [if_pos hdl, if_true]
    exact checkedDlNasTransport_answers b
  · simp only [if_neg hdl]
    exact answers_of_eq rfl

/-- The index-by-index decoder always answers, with the event of `ueNasDecodeEvent`. -/
theorem checkedDecodeEvent_answers : Answers b (ueNasDecodeEvent b) (checkedDecodeEvent b) := by
  unfold checkedDecodeEvent ueNasDecodeEvent
  by_cases hlen : b.length < 2
  · rw [if_pos hlen, if_pos hlen]
    exact answers_of_eq rfl
  rw [if_neg hlen, if_neg hlen, readAt_of_lt (by omega), readAt_of_lt (by omega)]
  simp only [Option.bind_eq_bind, Option.bind_some]
  by_cases hprot : octet b 0 = nasEpd5gmm ∧ octet b 1 ≠ nasShtNotProtected
  · rw [if_pos hprot, if_pos hprot]
    exact answers_of_eq rfl
  rw [if_neg hprot, if_neg hprot]
  by_cases hmm : octet b 0 = nasEpd5gmm
  · rw [if_pos hmm, if_pos hmm]
    exact checkedMmMessage_answers hmm
  rw [if_neg hmm, if_neg hmm]
  by_cases hsm : octet b 0 = nasEpd5gsm
  · rw [if_pos hsm, if_pos hsm, checkedSmMessage_eq]
    exact answers_of_eq rfl
  · rw [if_neg hsm, if_neg hsm]
    exact answers_of_eq rfl

/-! ## The variable-size fields -/

/-- GUTI and ABBA fit their arrays of sixteen octets and are octets of the message. -/
structure FieldsWithin (b : Bytes) (ev : UeNasEvent) : Prop where
  guti : ∀ g ∈ ev.guti, g.length ≤ 16 ∧ g <:+: b
  abba : ∀ a ∈ ev.authAbba, a.length ≤ 16 ∧ a <:+: b

theorem fieldsWithin_of_none {b : Bytes} {ev : UeNasEvent} (hguti : ev.guti = none)
    (habba : ev.authAbba = none) : FieldsWithin b ev := by
  constructor
  · intro g hg
    rw [hguti] at hg
    cases hg
  · intro a ha
    rw [habba] at ha
    cases ha

theorem take_drop_infix (i n : Nat) : (b.drop i).take n <:+: b :=
  (List.take_prefix n (b.drop i)).isInfix.trans (List.drop_suffix i b).isInfix

theorem parseGuti_within {rest g : Bytes} (h : parseGuti rest = some g) :
    g.length ≤ 16 ∧ g <:+: rest := by
  unfold parseGuti at h
  dsimp only at h
  split at h
  · rename_i hguard
    cases h
    refine ⟨?_, take_drop_infix rest 3 _⟩
    rw [List.length_take]
    omega
  · cases h

theorem decodeRegistrationAccept_within : FieldsWithin b (decodeRegistrationAccept b) := by
  unfold decodeRegistrationAccept
  split
  · refine ⟨fun g hg => ?_, nofun⟩
    obtain ⟨hlen, hinfix⟩ := parseGuti_within hg
    exact ⟨hlen, hinfix.trans ((List.dropWhile_suffix _).trans (List.drop_suffix _ b)).isInfix⟩
  · exact fieldsWithin_of_none rfl rfl

theorem decodeAuthenticationRequest_within : FieldsWithin b (decodeAuthenticationRequest b) := by
  unfold decodeAuthenticationRequest
  split
  · refine ⟨nofun, fun a ha => ?_⟩
    dsimp only at ha
    split at ha
    · rename_i hguard
      cases ha
      refine ⟨?_, take_drop_infix b 5 _⟩
      rw [List.length_take]
      omega
    · cases ha
  · exact fieldsWithin_of_none rfl rfl

theorem decodeSecurityModeCommand_within : FieldsWithin b (decodeSecurityModeCommand b) := by
  unfold decodeSecurityModeCommand
  split
  · exact fieldsWithin_of_none rfl rfl
  · exact fieldsWithin_of_none rfl rfl

/-- What both branches report. -/
theorem forall_mem_ite {α : Type} {P : α → Prop} {c : Prop} [Decidable c] {x y : Option α}
    (hx : ∀ a ∈ x, P a) (hy : ∀ a ∈ y, P a) : ∀ a ∈ (if c then x else y), P a := by
  split
  · exact hx
  · exact hy

theorem forall_mem_some {α : Type} {P : α → Prop} {a : α} (h : P a) : ∀ a' ∈ some a, P a' := by
  rintro a' ⟨⟩
  exact h

theorem decodeSmMessage_within {sm : Bytes} : ∀ ev ∈ decodeSmMessage sm, FieldsWithin b ev := by
  have hnone : ∀ ev ∈ (none : Option UeNasEvent), FieldsWithin b ev := fun _ h => nomatch h
  unfold decodeSmMessage
  refine forall_mem_ite hnone (forall_mem_ite hnone ?_)
  dsimp only
  refine forall_mem_ite (forall_mem_some ?_) (forall_mem_ite (forall_mem_some ?_)
    (forall_mem_ite (forall_mem_some ?_) hnone))
  all_goals exact fieldsWithin_of_none rfl rfl

theorem decodeMmMessage_within : ∀ ev ∈ decodeMmMessage b, FieldsWithin b ev := by
  have hnone : ∀ ev ∈ (none : Option UeNasEvent), FieldsWithin b ev := fun _ h => nomatch h
  unfold decodeMmMessage
  refine forall_mem_ite hnone (forall_mem_ite hnone ?_)
  dsimp only
  refine forall_mem_ite (forall_mem_some (decodeRegistrationAccept_within b)) ?_
  refine forall_mem_ite (forall_mem_some ?_) ?_
  · exact fieldsWithin_of_none rfl rfl
  refine forall_mem_ite (forall_mem_some (decodeAuthenticationRequest_within b)) ?_
  refine forall_mem_ite (forall_mem_some (decodeSecurityModeCommand_within b)) ?_
  refine forall_mem_ite (forall_mem_some ?_) (forall_mem_ite (forall_mem_some ?_)
    (forall_mem_ite (forall_mem_some ?_) hnone))
  all_goals exact fieldsWithin_of_none rfl rfl

theorem ueNasDecodeEvent_within {b : Bytes} {ev : UeNasEvent} (h : ueNasDecodeEvent b = some ev) :
    FieldsWithin b ev := by
  unfold ueNasDecodeEvent at h
  split at h
  · cases h
  split at h
  · cases h
  split at h
  · split at h
    · cases h
    rename_i mm hmm
    split at h
    · split at h
      · rw [ueNasDecodeInnerSm_eq] at h
        exact decodeSmMessage_within b ev h
      · cases h
        exact decodeMmMessage_within b ev hmm
    · cases h
      exact decodeMmMessage_within b ev hmm
  split at h
  · exact decodeSmMessage_within b ev h
  · cases h

/-- On any octets the decoder comes to an end without a read outside them, and what it reports
of variable size is within its array and within the input. -/
theorem decodeEvent_safe (pdu : Bytes) :
    ∃ r, checkedDecodeEvent pdu = some r ∧ r.event = ueNasDecodeEvent pdu ∧
      (∀ ev ∈ r.event, FieldsWithin pdu ev) ∧
      ∀ m ∈ r.innerSm, 0 < m.2 ∧ m.1 + m.2 ≤ pdu.length := by
  obtain ⟨innerSm, hr, hroom⟩ := checkedDecodeEvent_answers pdu
  exact ⟨_, hr, rfl, fun ev hev => ueNasDecodeEvent_within hev, hroom⟩

end VirtualLte.Nas
