import VirtualLte.Lib.Scan
import VirtualLte.Lib.Tlv
import VirtualLte.Nas.Encode

/-!
# The establishment accept

A PDU Session Establishment Accept as TS 24.501 8.3.2 formats it, against the addresses the
decoder reports of it.

* `EstAccept`: a well-formed message.  Its extended protocol configuration options are a row of
  containers (`PcoItem`) behind the octet `0x80`.
* DNS server and P-CSCF address: the decoder looks for the options by their signature, from the
  selected type on.  At their own place it reads the container (`epcoHit_optionsAt`), and it
  reports the container exactly when the first hit reads the same (`parseEpco_iff`).
* PDU address: the decoder walks the elements, taking each for half an octet or for a value
  behind one octet of length.  It reports the address when the elements in front of it are of
  these two kinds (`scanPduAddress_octets`).
-/

namespace VirtualLte.Nas

open Tlv

/-- Optional elements of the establishment accept. -/
def smFormat (iei : UInt8) : Format :=
  if 0x80 ≤ iei then .half
  else if iei = 0x59 ∨ iei = 0x56 then .fixed 1
  else if iei ∈ ([0x72, 0x75, 0x77, 0x78, 0x79, 0x7B] : List UInt8) then .long
  else .short

/-! ## Protocol configuration options -/

/-- A container of the protocol configuration options. -/
structure PcoItem where
  id : Nat
  value : Bytes
  idLt : id < 65536
  valueLt : value.length < 256

def PcoItem.octets (c : PcoItem) : Bytes :=
  putBe16 c.id ++ UInt8.ofNat c.value.length :: c.value

def pcoOctets (items : List PcoItem) : Bytes := items.flatMap PcoItem.octets

/-- The address in the container `wantedId`, if it has four octets. -/
def pcoIpv4 (wantedId : Nat) (items : List PcoItem) : Option Ipv4 :=
  (items.find? fun c => c.id = wantedId ∧ c.value.length = 4).map fun c => vecOf 4 c.value

theorem getBe16_putBe16 {n : Nat} (h : n < 65536) :
    getBe16 (UInt8.ofNat (n / 256)) (UInt8.ofNat n) = n := by
  rw [getBe16, UInt8.toNat_ofNat', UInt8.toNat_ofNat']
  omega

/-- The walk over the containers finds the one that is wanted. -/
theorem epcoItems_octets (wantedId : Nat) {items : List PcoItem} {fuel : Nat}
    (hfuel : (pcoOctets items).length ≤ fuel) :
    epcoItems wantedId fuel (pcoOctets items) = pcoIpv4 wantedId items := by
  induction items generalizing fuel with
  | nil =>
    cases fuel with
    | zero => rfl
    | succ fuel => rfl
  | cons c items ih =>
    have hoctets : pcoOctets (c :: items) = UInt8.ofNat (c.id / 256) :: UInt8.ofNat c.id ::
        UInt8.ofNat c.value.length :: (c.value ++ pcoOctets items) := rfl
    have hclen : (UInt8.ofNat c.value.length).toNat = c.value.length := by
      rw [UInt8.toNat_ofNat', Nat.mod_eq_of_lt c.valueLt]
    rw [hoctets] at hfuel ⊢
    simp only [List.length_cons, List.length_append] at hfuel
    cases fuel with
    | zero => omega
    | succ fuel =>
      rw [epcoItems]
      simp only [octet_cons_zero, octet_cons_succ, hclen, List.length_cons, List.length_append,
        getBe16_putBe16 c.idLt, pcoIpv4, List.find?_cons]
      rw [if_neg (by omega), if_neg (by omega)]
      by_cases hfound : c.id = wantedId ∧ c.value.length = 4
      · have hvalue : vecOf 4 (c.value ++ pcoOctets items) = vecOf 4 c.value :=
          vecOf_append (by omega) _
        simp only [hfound, and_self, if_true, decide_true, Option.map_some, List.drop_succ_cons,
          List.drop_zero, hvalue]
      · have hdrop : (UInt8.ofNat (c.id / 256) :: UInt8.ofNat c.id ::
            UInt8.ofNat c.value.length :: (c.value ++ pcoOctets items)).drop (3 + c.value.length) =
            pcoOctets items := by
          rw [← List.drop_drop, List.drop_succ_cons, List.drop_succ_cons, List.drop_succ_cons,
            List.drop_zero, List.drop_left]
        rw [if_neg hfound, hdrop, ih (by omega), decide_eq_false hfound]
        rfl

/-! ## The message -/

/-- A well-formed PDU Session Establishment Accept. -/
structure EstAccept where
  psi : UInt8
  pti : UInt8
  selected : UInt8
  qosRules : Bytes
  ambr : Bytes
  ies : List Element
  pco : List PcoItem
  qosRulesLen : qosRules.length < 65536
  ambrLen : ambr.length < 256
  wf : ∀ e ∈ ies, e.Wf smFormat
  once : ies.Pairwise fun e f => e.iei ≠ f.iei
  pcoOnce : pco.Pairwise fun c d => c.id ≠ d.id
  /-- A type and an address of four, eight or twelve octets. -/
  addressLen : ∀ e ∈ ies, e.iei = 0x29 → octet e.value 0 = 1 ∧ e.value.length = 5 ∨
    octet e.value 0 = 2 ∧ e.value.length = 9 ∨ octet e.value 0 = 3 ∧ e.value.length = 13
  /-- The options are the containers behind their first octet. -/
  epco : ∀ v, value? 0x7B ies = some v → v = 0x80 :: pcoOctets pco
  noEpco : value? 0x7B ies = none → pco = []

/-- The mandatory part behind the message type. -/
def EstAccept.mandatory (m : EstAccept) : Bytes :=
  m.selected :: (putBe16 m.qosRules.length ++ m.qosRules ++ UInt8.ofNat m.ambr.length :: m.ambr)

/-- What stands behind the message type. -/
def EstAccept.tail (m : EstAccept) : Bytes := m.mandatory ++ octets smFormat m.ies

def EstAccept.pdu (m : EstAccept) : Bytes :=
  nasEpd5gsm :: m.psi :: m.pti :: nasMsgPduSessionEstAccept :: m.tail

/-- The address of element `0x29`, when it is of type IPv4. -/
def EstAccept.ipv4 (m : EstAccept) : Option Ipv4 :=
  ((value? 0x29 m.ies).filter fun v => octet v 0 = 1).map fun v => vecOf 4 (v.drop 1)

def EstAccept.dns (m : EstAccept) : Option Ipv4 := pcoIpv4 0x000D m.pco

def EstAccept.pcscf (m : EstAccept) : Option Ipv4 := pcoIpv4 0x000C m.pco

/-- The address an event reports, when it is of type IPv4. -/
def reportedIpv4 (ev : UeNasEvent) : Option Ipv4 :=
  (ev.pduAddress.filter fun a => a.1 = 1).map Prod.snd

/-! ## DNS server and P-CSCF -/

/-- The signature of the options with five octets left, and the container in them. -/
def epcoHit (wantedId : Nat) (b : Bytes) : Option Ipv4 :=
  if b.length < 5 then none else epcoAt wantedId b

theorem parseEpcoContainerIpv4_eq_first (wantedId : Nat) (b : Bytes) :
    parseEpcoContainerIpv4 wantedId b = Scan.first (epcoHit wantedId) b := by
  induction b with
  | nil => rfl
  | cons x rest ih =>
    rw [parseEpcoContainerIpv4]
    by_cases hshort : (x :: rest).length < 5
    · rw [if_pos hshort, Scan.first_of_no_hit fun p _ => ?_]
      rw [epcoHit, if_pos (by rw [List.length_drop]; omega)]
    · rw [if_neg hshort, Scan.first, epcoHit, if_neg hshort, ih]
      cases epcoAt wantedId (x :: rest) with
      | none => rfl
      | some ip => rfl

/-- The octets of the options. -/
theorem epco_octets (items : List PcoItem) (rest : Bytes) :
    Element.octets smFormat ⟨0x7B, 0x80 :: pcoOctets items⟩ ++ rest =
      0x7B :: UInt8.ofNat ((0x80 :: pcoOctets items).length / 256) ::
        UInt8.ofNat (0x80 :: pcoOctets items).length :: 0x80 :: (pcoOctets items ++ rest) := by
  have hlong : smFormat 0x7B = .long := by decide
  simp only [Element.octets, hlong]
  rfl

/-- At the options themselves the container is found. -/
theorem epcoAt_element (wantedId : Nat) {items : List PcoItem}
    (hlen : (0x80 :: pcoOctets items).length < 65536) (rest : Bytes) :
    epcoAt wantedId (Element.octets smFormat ⟨0x7B, 0x80 :: pcoOctets items⟩ ++ rest) =
      pcoIpv4 wantedId items := by
  rw [epco_octets, epcoAt]
  simp only [octet_cons_zero, octet_cons_succ, getBe16_putBe16 hlen]
  have htake : (pcoOctets items ++ rest).take ((0x80 :: pcoOctets items).length - 1) =
      pcoOctets items := List.take_left
  have hwithin : 3 + (0x80 :: pcoOctets items).length ≤
      (0x7B :: UInt8.ofNat ((0x80 :: pcoOctets items).length / 256) ::
        UInt8.ofNat (0x80 :: pcoOctets items).length :: 0x80 :: (pcoOctets items ++ rest)).length := by
    simp only [List.length_cons, List.length_append]
    omega
  rw [if_pos ⟨trivial, Nat.succ_pos _, hwithin, trivial⟩, List.drop_succ_cons, List.drop_succ_cons,
    List.drop_succ_cons, List.drop_succ_cons, List.drop_zero, htake, epcoItems_octets]
  simp only [List.length_cons, List.length_append]
  omega

theorem epcoHit_element (wantedId : Nat) {items : List PcoItem}
    (hlen : (0x80 :: pcoOctets items).length < 65536) (rest : Bytes) :
    epcoHit wantedId (Element.octets smFormat ⟨0x7B, 0x80 :: pcoOctets items⟩ ++ rest) =
      pcoIpv4 wantedId items := by
  rw [epcoHit]
  split
  · rename_i hshort
    cases items with
    | nil => rfl
    | cons c items =>
      rw [epco_octets] at hshort
      simp only [pcoOctets, List.flatMap_cons, PcoItem.octets, putBe16, List.length_cons,
        List.length_append] at hshort
      omega
  · exact epcoAt_element wantedId hlen rest

/-- Where the options stand, counted from the selected type. -/
def EstAccept.OptionsAt (m : EstAccept) (p : Nat) : Prop :=
  ∃ pre v post, m.ies = pre ++ ⟨0x7B, v⟩ :: post ∧
    p = m.mandatory.length + (octets smFormat pre).length

/-- At their own place the options are read as they are. -/
theorem epcoHit_optionsAt {m : EstAccept} {p : Nat} (h : m.OptionsAt p) (wantedId : Nat) :
    p ≤ m.tail.length ∧ epcoHit wantedId (m.tail.drop p) = pcoIpv4 wantedId m.pco := by
  obtain ⟨pre, v, post, heq, rfl⟩ := h
  have hmem : Element.mk 0x7B v ∈ m.ies := heq ▸ List.mem_append_right pre List.mem_cons_self
  have hlen : v.length < 65536 := m.wf _ hmem
  have hvalue : value? 0x7B m.ies = some v := by
    have honce := m.once
    rw [heq] at honce ⊢
    rw [value?, List.find?_append, List.find?_eq_none.mpr fun e he => ?_]
    · rfl
    · simpa using (List.pairwise_append.mp honce).2.2 e he _ List.mem_cons_self
  obtain rfl := m.epco v hvalue
  constructor
  · rw [EstAccept.tail, heq, octets_append, List.length_append, List.length_append]
    omega
  · rw [EstAccept.tail, heq, ← List.drop_drop, List.drop_left, drop_octets]
    exact epcoHit_element wantedId hlen _

/-- The search for a container finds it if and only if its first hit reads the same. -/
theorem parseEpco_iff (m : EstAccept) (wantedId : Nat) :
    parseEpcoContainerIpv4 wantedId m.tail = pcoIpv4 wantedId m.pco ↔
      ∀ p, Scan.FirstHit (epcoHit wantedId) m.tail p →
        epcoHit wantedId (m.tail.drop p) = pcoIpv4 wantedId m.pco := by
  rw [parseEpcoContainerIpv4_eq_first]
  refine Scan.first_eq_iff id fun hpresent => ?_
  cases hvalue : value? 0x7B m.ies with
  | none =>
    rw [m.noEpco hvalue] at hpresent
    exact absurd rfl hpresent
  | some v =>
    obtain ⟨pre, post, heq, -⟩ := value?_eq_some hvalue
    obtain ⟨hle, hread⟩ := epcoHit_optionsAt ⟨pre, v, post, heq, rfl⟩ wantedId
    exact ⟨_, hle, hread ▸ hpresent⟩

/-! ## PDU address -/

theorem scanPduAddress_short {b : Bytes} (h : b.length < 3) (fuel : Nat) :
    scanPduAddress fuel b = none := by
  cases fuel with
  | zero => rfl
  | succ fuel => exact if_pos h

/-- An element of half an octet is passed over. -/
theorem scanPduAddress_half {e : Element} (hwf : e.Wf smFormat) (hformat : smFormat e.iei = .half)
    (rest : Bytes) (fuel : Nat) :
    scanPduAddress (fuel + 1) (e.octets smFormat ++ rest) = scanPduAddress fuel rest := by
  unfold Element.Wf at hwf
  rw [hformat] at hwf
  obtain ⟨v, hvalue, -, -, hhalf⟩ := hwf
  have hoctets : e.octets smFormat ++ rest = (e.iei ||| v) :: rest := by
    simp only [Element.octets, hformat, hvalue]
    rfl
  have hge : 0x80 ≤ e.iei ||| v :=
    forall_octet (p := fun x => smFormat x = .half → 0x80 ≤ x) (by decide +kernel) _ hhalf
  have hne : e.iei ||| v ≠ 0x29 := by
    intro heq
    rw [heq] at hge
    exact absurd hge (by decide)
  rw [hoctets, scanPduAddress]
  simp only [octet_cons_zero, List.length_cons, List.drop_succ_cons, List.drop_zero]
  rw [if_neg hne, if_pos hge]
  split
  · rw [scanPduAddress_short (by omega)]
  · rfl

/-- So is a value behind one octet of length. -/
theorem scanPduAddress_tlv {e : Element} (hwf : e.Wf smFormat) (hformat : smFormat e.iei = .short)
    (hne : e.iei ≠ 0x29) (rest : Bytes) (fuel : Nat) :
    scanPduAddress (fuel + 1) (e.octets smFormat ++ rest) = scanPduAddress fuel rest := by
  unfold Element.Wf at hwf
  rw [hformat] at hwf
  have hoctets : e.octets smFormat ++ rest =
      e.iei :: UInt8.ofNat e.value.length :: (e.value ++ rest) := by
    simp only [Element.octets, hformat]
    rfl
  have hlen : (UInt8.ofNat e.value.length).toNat = e.value.length := by
    rw [UInt8.toNat_ofNat', Nat.mod_eq_of_lt hwf]
  have hlt : ¬ e.iei ≥ 0x80 :=
    forall_octet (p := fun x => smFormat x = .short → ¬ x ≥ 0x80) (by decide +kernel) _ hformat
  have hdrop : (e.iei :: UInt8.ofNat e.value.length :: (e.value ++ rest)).drop
      (2 + e.value.length) = rest := by
    rw [← List.drop_drop, List.drop_succ_cons, List.drop_succ_cons, List.drop_zero, List.drop_left]
  rw [hoctets, scanPduAddress]
  simp only [octet_cons_zero, octet_cons_succ, List.length_cons, List.length_append, hlen, hdrop]
  rw [if_neg hne, if_neg hlt]
  split
  · rw [scanPduAddress_short (by omega)]
  · rfl

/-- What the walk makes of the value of element `0x29`. -/
def addressOf (v : Bytes) : UInt8 × Ipv4 :=
  (octet v 0, if octet v 0 = 1 then vecOf 4 (v.drop 1) else Vector.replicate 4 0)

theorem scanPduAddress_element {e : Element} (hiei : e.iei = 0x29) (hmin : 5 ≤ e.value.length)
    (hmax : e.value.length < 256) (rest : Bytes) (fuel : Nat) :
    scanPduAddress (fuel + 1) (e.octets smFormat ++ rest) = some (addressOf e.value) := by
  have hshort : smFormat 0x29 = .short := by decide
  have hlen : (UInt8.ofNat e.value.length).toNat = e.value.length := by
    rw [UInt8.toNat_ofNat', Nat.mod_eq_of_lt hmax]
  have hoctets : e.octets smFormat ++ rest =
      0x29 :: UInt8.ofNat e.value.length :: (e.value ++ rest) := by
    simp only [Element.octets, hiei, hshort]
    rfl
  rw [hoctets, scanPduAddress]
  simp only [octet_cons_zero, octet_cons_succ, List.length_cons, List.length_append, hlen,
    List.drop_succ_cons, List.drop_zero]
  rw [if_neg (by omega), if_true, if_pos ⟨by omega, hmin⟩]
  match hvalue : e.value with
  | [] =>
    rw [hvalue] at hmin
    exact absurd hmin (by decide)
  | kind :: addr =>
    rw [hvalue, List.length_cons] at hmin
    have haddr : vecOf 4 (addr ++ rest) = vecOf 4 addr := vecOf_append (by omega) rest
    simp only [addressOf, List.cons_append, octet_cons_zero, List.drop_succ_cons, List.drop_zero,
      haddr]

/-- The elements in front of the address, or all of them if there is none, are half an octet or
have one octet of length. -/
def PlainInFront (es : List Element) : Prop :=
  ∀ e ∈ es.takeWhile fun e => e.iei ≠ 0x29, smFormat e.iei = .half ∨ smFormat e.iei = .short

/-- The walk over the elements finds the address behind elements that it passes over. -/
theorem scanPduAddress_octets {es : List Element} (hwf : ∀ e ∈ es, e.Wf smFormat)
    (hlen : ∀ e ∈ es, e.iei = 0x29 → 5 ≤ e.value.length) (hplain : PlainInFront es) {fuel : Nat}
    (hfuel : es.length ≤ fuel) :
    scanPduAddress fuel (octets smFormat es) = (value? 0x29 es).map addressOf := by
  induction es generalizing fuel with
  | nil => exact scanPduAddress_short (by decide) fuel
  | cons e es ih =>
    obtain ⟨hhead, htail⟩ := List.forall_mem_cons.mp hwf
    obtain ⟨hheadLen, htailLen⟩ := List.forall_mem_cons.mp hlen
    cases fuel with
    | zero => exact absurd hfuel (by simp)
    | succ fuel =>
      rw [octets_cons, value?_cons]
      by_cases haddress : e.iei = 0x29
      · have hmax : e.value.length < 256 := by
          have hshort : smFormat 0x29 = .short := by decide
          rw [Element.Wf, haddress, hshort] at hhead
          exact hhead
        rw [if_pos haddress, scanPduAddress_element haddress (hheadLen haddress) hmax,
          Option.map_some]
      · have hfront : PlainInFront (e :: es) ↔
            (smFormat e.iei = .half ∨ smFormat e.iei = .short) ∧ PlainInFront es := by
          rw [PlainInFront, List.takeWhile_cons, if_pos (by simpa using haddress),
            List.forall_mem_cons, PlainInFront]
        obtain ⟨hkind, hrest⟩ := hfront.mp hplain
        have hnext := ih htail htailLen hrest (Nat.le_of_succ_le_succ hfuel)
        rw [if_neg haddress, ← hnext]
        rcases hkind with hhalf | hshort
        · exact scanPduAddress_half hhead hhalf _ fuel
        · exact scanPduAddress_tlv hhead hshort haddress _ fuel

theorem skipEstAcceptMandatory_pdu (m : EstAccept) :
    skipEstAcceptMandatory m.pdu = octets smFormat m.ies := by
  have hqos := getBe16_putBe16 m.qosRulesLen
  have hambr : (UInt8.ofNat m.ambr.length).toNat = m.ambr.length := by
    rw [UInt8.toNat_ofNat', Nat.mod_eq_of_lt m.ambrLen]
  have hrest : m.pdu.drop 5 = UInt8.ofNat (m.qosRules.length / 256) ::
      UInt8.ofNat m.qosRules.length :: (m.qosRules ++
        UInt8.ofNat m.ambr.length :: (m.ambr ++ octets smFormat m.ies)) := by
    simp only [EstAccept.pdu, EstAccept.tail, EstAccept.mandatory, putBe16, List.cons_append,
      List.append_assoc, List.drop_succ_cons, List.drop_zero, List.nil_append]
  have hskip : (m.pdu.drop 5).drop (2 + getBe16 (octet (m.pdu.drop 5) 0) (octet (m.pdu.drop 5) 1)) =
      UInt8.ofNat m.ambr.length :: (m.ambr ++ octets smFormat m.ies) := by
    rw [hrest, octet_cons_zero, octet_cons_succ, octet_cons_zero, hqos, ← List.drop_drop,
      List.drop_succ_cons, List.drop_succ_cons, List.drop_zero, List.drop_left]
  have hlong : 2 ≤ (m.pdu.drop 5).length := by
    simp only [hrest, List.length_cons]
    omega
  rw [skipEstAcceptMandatory]
  simp only [if_pos hlong, hskip]
  rw [octet_cons_zero, hambr, if_pos (by rw [List.length_cons]; omega), Nat.add_comm,
    List.drop_succ_cons, List.drop_left]

/-- The event of an establishment accept. -/
theorem ueNasDecodeEvent_estAccept (m : EstAccept) :
    ueNasDecodeEvent m.pdu = some {
      type := .pduSessionEstAccept, psi := m.psi, pti := m.pti
      pduAddress := scanPduAddress m.pdu.length (octets smFormat m.ies)
      dnsIpv4 := parseEpcoContainerIpv4 0x000D m.tail
      pcscfIpv4 := parseEpcoContainerIpv4 0x000C m.tail } := by
  have hlen : 5 ≤ m.pdu.length := by
    simp only [EstAccept.pdu, EstAccept.tail, EstAccept.mandatory, List.cons_append,
      List.length_cons]
    omega
  have hsm : decodeSmMessage m.pdu = some {
      type := .pduSessionEstAccept, psi := m.psi, pti := m.pti
      pduAddress := scanPduAddress m.pdu.length (octets smFormat m.ies)
      dnsIpv4 := parseEpcoContainerIpv4 0x000D m.tail
      pcscfIpv4 := parseEpcoContainerIpv4 0x000C m.tail } := by
    rw [decodeSmMessage, if_neg (by omega), if_pos hlen, skipEstAcceptMandatory_pdu]
    rfl
  rw [ueNasDecodeEvent, if_neg (by omega), hsm]
  rfl

theorem reportedIpv4_addressOf (m : EstAccept) {ev : UeNasEvent}
    (h : ev.pduAddress = (value? 0x29 m.ies).map addressOf) : reportedIpv4 ev = m.ipv4 := by
  rw [reportedIpv4, EstAccept.ipv4, h]
  cases value? 0x29 m.ies with
  | none => rfl
  | some v =>
    by_cases hkind : octet v 0 = 1
    · simp [Option.filter_some, addressOf, hkind]
    · simp [Option.filter_some, addressOf, hkind]

/-- Each element takes at least one octet. -/
theorem length_le_octets (es : List Element) : es.length ≤ (octets smFormat es).length := by
  induction es with
  | nil => exact Nat.le_refl 0
  | cons e es ih =>
    have hpos := List.length_pos_iff.mpr (e.octets_ne_nil smFormat)
    rw [octets_cons, List.length_append, List.length_cons]
    omega

/-! ## Reported as they are -/

/-- At the place of the options the search reads DNS server and P-CSCF address as their
containers have them, and it reports them so if and only if the first signature it meets reads
the same.  The address is reported as element `0x29` has it, when the elements in front are
passed over as they are laid out. -/
theorem estAccept_reported (m : EstAccept) : ∃ ev, ueNasDecodeEvent m.pdu = some ev ∧
    (∀ p, m.OptionsAt p → epcoHit 0x000D (m.tail.drop p) = m.dns ∧
      epcoHit 0x000C (m.tail.drop p) = m.pcscf) ∧
    (ev.dnsIpv4 = m.dns ↔ ∀ p, Scan.FirstHit (epcoHit 0x000D) m.tail p →
      epcoHit 0x000D (m.tail.drop p) = m.dns) ∧
    (ev.pcscfIpv4 = m.pcscf ↔ ∀ p, Scan.FirstHit (epcoHit 0x000C) m.tail p →
      epcoHit 0x000C (m.tail.drop p) = m.pcscf) ∧
    (PlainInFront m.ies → reportedIpv4 ev = m.ipv4) := by
  refine ⟨_, ueNasDecodeEvent_estAccept m,
    fun p hp => ⟨(epcoHit_optionsAt hp 0x000D).2, (epcoHit_optionsAt hp 0x000C).2⟩,
    parseEpco_iff m 0x000D, parseEpco_iff m 0x000C, fun hplain => ?_⟩
  have hfuel : m.ies.length ≤ m.pdu.length := by
    have hle := length_le_octets m.ies
    simp only [EstAccept.pdu, EstAccept.tail, List.length_cons, List.length_append]
    omega
  have hlen : ∀ e ∈ m.ies, e.iei = 0x29 → 5 ≤ e.value.length := by
    intro e he hiei
    have := m.addressLen e he hiei
    omega
  exact reportedIpv4_addressOf m (scanPduAddress_octets m.wf hlen hplain hfuel)

/-- An accept with a 5GSM cause in front of its address, and DNS servers in its options and,
by their octets, in its QoS rules. -/
def causeAccept : EstAccept where
  psi := 1
  pti := 1
  selected := 0x11
  qosRules := [0x7B, 0x00, 0x08, 0x80, 0x00, 0x0D, 0x04, 0x01, 0x02, 0x03, 0x04]
  ambr := [0x06, 0x00, 0x01, 0x06, 0x00, 0x01]
  ies := [⟨0x59, [0x32]⟩, ⟨0x29, [0x01, 0x0A, 0x2D, 0x00, 0x02]⟩,
    ⟨0x7B, [0x80, 0x00, 0x0D, 0x04, 0x08, 0x08, 0x08, 0x08]⟩]
  pco := [⟨0x000D, [0x08, 0x08, 0x08, 0x08], by decide, by decide⟩]
  qosRulesLen := by decide
  ambrLen := by decide
  wf := by
    simp only [List.forall_mem_cons, List.not_mem_nil]
    refine ⟨?_, ?_, ?_, by simp⟩
    · show (1 : Nat) = 1
      rfl
    · show (5 : Nat) < 256
      decide
    · show (8 : Nat) < 65536
      decide
  once := by decide
  pcoOnce := List.pairwise_singleton _ _
  addressLen := by decide
  epco := by
    intro v hv
    cases hv
    decide
  noEpco := by
    intro hv
    cases hv

/-- Signatures in other elements are taken for the options, and an element of fixed length is
taken for one with a length. -/
theorem estAccept_misread :
    (¬ ∀ m : EstAccept, ∃ ev, ueNasDecodeEvent m.pdu = some ev ∧ ev.dnsIpv4 = m.dns) ∧
    ¬ ∀ m : EstAccept, ∃ ev, ueNasDecodeEvent m.pdu = some ev ∧ reportedIpv4 ev = m.ipv4 := by
  constructor
  · intro h
    obtain ⟨ev, hev, hdns⟩ := h causeAccept
    have hread : (ueNasDecodeEvent causeAccept.pdu).map UeNasEvent.dnsIpv4 ≠
        some causeAccept.dns := by decide +kernel
    rw [hev, Option.map_some, hdns] at hread
    exact hread rfl
  · intro h
    obtain ⟨ev, hev, haddress⟩ := h causeAccept
    have hread : (ueNasDecodeEvent causeAccept.pdu).map reportedIpv4 ≠ some causeAccept.ipv4 := by
      decide +kernel
    rw [hev, Option.map_some, haddress] at hread
    exact hread rfl

end VirtualLte.Nas
