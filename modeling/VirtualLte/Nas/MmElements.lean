import VirtualLte.Lib.Scan
import VirtualLte.Lib.Tlv
import VirtualLte.Nas.Decode

/-!
# Optional elements of 5GMM messages

Registration Accept (TS 24.501 8.2.7) and Security Mode Command (8.2.25) as their formats have
them, against what the decoder reports of their optional elements.

* `RegistrationAccept` and `SecurityModeCommand` are well-formed messages: elements in their
  formats, each at most once, the 5G-GUTI in front.
* The 5G-GUTI is found whatever else the message holds (`parseGuti_octets`).
* The other two are searched for octet by octet.  The search finds the element's value exactly
  when its first hit reads the same (`optionalIes_reported`), and hits inside other elements do
  occur (`optionalIes_misread`).
-/

namespace VirtualLte.Nas

open Tlv

/-- Optional elements of 5GMM messages: half an octet from `0x80` on, two octets of length for
`0x7x`, the selected EPS algorithms in one octet, the others behind one octet of length. -/
def mmFormat (iei : UInt8) : Format :=
  if 0x80 ≤ iei then .half
  else if 0x70 ≤ iei then .long
  else if iei = 0x57 then .fixed 1
  else .short

/-! ## Registration Accept -/

/-- A well-formed Registration Accept.  The table of the message puts the 5G-GUTI first; the
half-octet elements that the decoder passes over may stand in front of it. -/
structure RegistrationAccept where
  result : UInt8
  ies : List Element
  wf : ∀ e ∈ ies, e.Wf mmFormat
  once : ies.Pairwise fun e f => e.iei ≠ f.iei
  gutiFirst : ∀ pre e post, ies = pre ++ e :: post → e.iei = 0x77 →
    ∀ f ∈ pre, isHalfOctetIe f.iei = true
  gutiLen : ∀ e ∈ ies, e.iei = 0x77 → e.value.length = 11
  t3512Len : ∀ e ∈ ies, e.iei = 0x5E → e.value.length = 1

/-- The octets of the message. -/
def RegistrationAccept.pdu (m : RegistrationAccept) : Bytes :=
  nasEpd5gmm :: nasShtNotProtected :: nasMsgRegistrationAccept :: 0x01 :: m.result ::
    octets mmFormat m.ies

/-- The identity of element `0x77`, when it is a 5G-GUTI. -/
def RegistrationAccept.guti (m : RegistrationAccept) : Option Bytes :=
  (value? 0x77 m.ies).filter fun g => octet g 0 &&& 0x07 = 0x02

/-- The units of a GPRS timer 3 in seconds: ten minutes, one hour, ten hours, two seconds, half a
minute, one minute and 320 hours.  The last one says that the timer is off. -/
def timer3Units : List Nat := [600, 3600, 36000, 2, 30, 60, 1152000, 0]

/-- A GPRS timer 3: the three high bits choose the unit, the others count it. -/
def timer3 (v : UInt8) : Nat := timer3Units.getD (v.toNat / 32) 0 * (v.toNat % 32)

theorem gprsTimer3Seconds_eq (v : UInt8) : gprsTimer3Seconds v = UInt32.ofNat (timer3 v) :=
  forall_octet (p := fun v => gprsTimer3Seconds v = UInt32.ofNat (timer3 v)) (by decide +kernel) v

/-- The timer of element `0x5E`. -/
def RegistrationAccept.t3512 (m : RegistrationAccept) : Option UInt32 :=
  (value? 0x5E m.ies).map fun v => UInt32.ofNat (timer3 (octet v 0))

theorem isHalfOctetIe_high (x : UInt8) : isHalfOctetIe (x &&& 0xF0) = isHalfOctetIe x :=
  forall_octet (p := fun x => isHalfOctetIe (x &&& 0xF0) = isHalfOctetIe x) (by decide +kernel) x

theorem le_of_isHalfOctetIe {x : UInt8} (h : isHalfOctetIe x = true) : 0x80 ≤ x :=
  forall_octet (p := fun x => isHalfOctetIe x = true → 0x80 ≤ x) (by decide +kernel) x h

/-- The first octet of an element shows whether the decoder passes over it, and is `0x77` for
the 5G-GUTI alone. -/
theorem octets_head {e : Element} (h : e.Wf mmFormat) (rest : Bytes) :
    ∃ x tail, e.octets mmFormat ++ rest = x :: tail ∧ isHalfOctetIe x = isHalfOctetIe e.iei ∧
      (isHalfOctetIe e.iei = true → tail = rest) ∧ (x = 0x77 → e.iei = 0x77) := by
  have hpassed : isHalfOctetIe e.iei = true → mmFormat e.iei = .half := fun hhalf =>
    if_pos (le_of_isHalfOctetIe hhalf)
  unfold Element.octets
  unfold Element.Wf at h
  cases hformat : mmFormat e.iei with
  | half =>
    rw [hformat] at h
    obtain ⟨v, hvalue, hhigh, -, hhalf⟩ := h
    refine ⟨e.iei ||| v, rest, ?_, ?_, fun _ => rfl, fun h77 => ?_⟩
    · rw [hvalue]
      rfl
    · rw [← isHalfOctetIe_high (e.iei ||| v), hhigh]
    · rw [h77] at hhalf
      exact absurd hhalf (by decide)
  | fixed n =>
    refine ⟨e.iei, _, rfl, rfl, fun hhalf => ?_, id⟩
    cases hformat.symm.trans (hpassed hhalf)
  | short =>
    refine ⟨e.iei, _, rfl, rfl, fun hhalf => ?_, id⟩
    cases hformat.symm.trans (hpassed hhalf)
  | long =>
    refine ⟨e.iei, _, rfl, rfl, fun hhalf => ?_, id⟩
    cases hformat.symm.trans (hpassed hhalf)

theorem parseGuti_of_head_ne {x : UInt8} {tail : Bytes} (h : x ≠ 0x77) :
    parseGuti (x :: tail) = none := by
  unfold parseGuti
  exact if_neg fun hguard => h hguard.2.1

/-- An identity of eleven octets in its element. -/
theorem parseGuti_element {e : Element} (hiei : e.iei = 0x77) (hlen : e.value.length = 11)
    (rest : Bytes) :
    parseGuti (e.octets mmFormat ++ rest) =
      if octet e.value 0 &&& 0x07 = 0x02 then some e.value else none := by
  have hoctets : e.octets mmFormat ++ rest = 0x77 :: 0x00 :: 0x0B :: (e.value ++ rest) := by
    have hlong : mmFormat 0x77 = .long := by decide
    simp only [Element.octets, hiei, hlong, hlen]
    rfl
  have hbe : getBe16 0x00 0x0B = 11 := by decide
  have hkind : octet (e.value ++ rest) 0 = octet e.value 0 := by
    match e.value, hlen with
    | x :: g, _ => rfl
  have htake : (e.value ++ rest).take 11 = e.value := by
    rw [← hlen, List.take_left]
  rw [hoctets]
  unfold parseGuti
  simp only [octet_cons_zero, octet_cons_succ, hbe, List.length_cons, List.length_append, hlen,
    hkind, List.drop_succ_cons, List.drop_zero, htake]
  by_cases hguti : octet e.value 0 &&& 0x07 = 0x02
  · rw [if_pos ⟨by omega, trivial, by omega, by omega, by omega, hguti⟩, if_pos hguti]
  · rw [if_neg fun h => hguti h.2.2.2.2.2, if_neg hguti]

/-- The 5G-GUTI is found in front, behind elements that are passed over. -/
theorem parseGuti_octets {es : List Element} (hwf : ∀ e ∈ es, e.Wf mmFormat)
    (hfirst : ∀ pre e post, es = pre ++ e :: post → e.iei = 0x77 →
      ∀ f ∈ pre, isHalfOctetIe f.iei = true)
    (hlen : ∀ e ∈ es, e.iei = 0x77 → e.value.length = 11) :
    parseGuti ((octets mmFormat es).dropWhile isHalfOctetIe) =
      (value? 0x77 es).filter fun g => octet g 0 &&& 0x07 = 0x02 := by
  induction es with
  | nil => rfl
  | cons e es ih =>
    obtain ⟨x, tail, hhead, hhalf, hpass, h77⟩ := octets_head (hwf e List.mem_cons_self)
      (octets mmFormat es)
    rw [octets_cons, hhead, List.dropWhile_cons, hhalf, value?_cons]
    by_cases hskip : isHalfOctetIe e.iei = true
    · have hne : e.iei ≠ 0x77 := by
        intro heq
        rw [heq] at hskip
        exact absurd hskip (by decide)
      rw [if_pos hskip, hpass hskip, if_neg hne]
      refine ih (fun f hf => hwf f (List.mem_cons_of_mem e hf)) (fun pre f post heq hf g hg => ?_)
        fun f hf => hlen f (List.mem_cons_of_mem e hf)
      exact hfirst (e :: pre) f post (by rw [heq]; rfl) hf g (List.mem_cons_of_mem e hg)
    · rw [if_neg hskip]
      by_cases hguti : e.iei = 0x77
      · rw [← hhead, parseGuti_element hguti (hlen e List.mem_cons_self hguti), if_pos hguti,
          Option.filter_some]
        simp only [decide_eq_true_eq]
      · have hnone : value? 0x77 es = none := by
          refine value?_eq_none fun f hf h77' => ?_
          obtain ⟨pre, post, heq⟩ := List.append_of_mem hf
          exact hskip (hfirst (e :: pre) f post (by rw [heq]; rfl) h77' e List.mem_cons_self)
        rw [parseGuti_of_head_ne fun hx => hguti (h77 hx), if_neg hguti, hnone]
        rfl

/-- The signature `5E 01` with an octet behind it. -/
def t3512At : Bytes → Option UInt32
  | a :: b :: c :: _ => if a = 0x5E ∧ b = 0x01 then some (gprsTimer3Seconds c) else none
  | _ => none

theorem parseT3512_eq_first (b : Bytes) : parseT3512 b = Scan.first t3512At b := by
  fun_induction parseT3512 b with
  | case1 a b c rest h =>
    rw [Scan.first, t3512At, if_pos h]
  | case2 a b c rest h ih =>
    rw [Scan.first, t3512At, if_neg h]
    exact ih
  | case3 b h =>
    rcases b with _ | ⟨a, _ | ⟨b, _ | ⟨c, rest⟩⟩⟩
    · rfl
    · rfl
    · rfl
    · exact absurd rfl (h a b c rest)

/-- An element `0x5E` with its one octet is a hit, and reads as its timer. -/
theorem t3512At_element {e : Element} (hiei : e.iei = 0x5E) (hlen : e.value.length = 1)
    (rest : Bytes) :
    t3512At (e.octets mmFormat ++ rest) = some (UInt32.ofNat (timer3 (octet e.value 0))) := by
  have hshort : mmFormat 0x5E = .short := by decide
  match hvalue : e.value, hlen with
  | [v], _ =>
    simp only [Element.octets, hiei, hshort, hvalue, List.length_singleton, ← gprsTimer3Seconds_eq]
    rfl

/-- The search for the timer finds it if and only if its first hit reads the same. -/
theorem parseT3512_iff (m : RegistrationAccept) :
    parseT3512 (octets mmFormat m.ies) = m.t3512 ↔
      ∀ p, Scan.FirstHit t3512At (octets mmFormat m.ies) p →
        t3512At ((octets mmFormat m.ies).drop p) = m.t3512 := by
  rw [parseT3512_eq_first]
  refine Scan.first_eq_iff id fun hpresent => ?_
  cases hvalue : value? 0x5E m.ies with
  | none =>
    rw [RegistrationAccept.t3512, hvalue] at hpresent
    exact absurd rfl hpresent
  | some v =>
    obtain ⟨pre, post, heq, -⟩ := value?_eq_some hvalue
    have hmem : Element.mk 0x5E v ∈ m.ies := heq ▸ List.mem_append_right pre List.mem_cons_self
    refine ⟨(octets mmFormat pre).length, ?_, ?_⟩
    · rw [heq, octets_append, List.length_append]
      exact Nat.le_add_right _ _
    · rw [heq, drop_octets, t3512At_element rfl (m.t3512Len _ hmem rfl)]
      exact Option.some_ne_none _

theorem ueNasDecodeEvent_registrationAccept (m : RegistrationAccept) :
    ueNasDecodeEvent m.pdu = some {
      type := .registrationAccept
      guti := m.guti
      t3512Seconds := parseT3512 (octets mmFormat m.ies) } := by
  have hlen : 5 ≤ m.pdu.length := by
    simp only [RegistrationAccept.pdu, List.length_cons]
    omega
  have hguti : (m.pdu.drop (4 + (octet m.pdu 3).toNat)) = octets mmFormat m.ies := rfl
  have haccept : decodeRegistrationAccept m.pdu = {
      type := .registrationAccept
      guti := m.guti
      t3512Seconds := parseT3512 (octets mmFormat m.ies) } := by
    rw [decodeRegistrationAccept, if_pos hlen, hguti,
      parseGuti_octets m.wf m.gutiFirst m.gutiLen]
    rfl
  have hmm : decodeMmMessage m.pdu = some (decodeRegistrationAccept m.pdu) := by
    rw [decodeMmMessage, if_neg (by omega)]
    rfl
  rw [ueNasDecodeEvent, if_neg (by omega), hmm, haccept]
  rfl

/-! ## Security Mode Command -/

/-- A well-formed Security Mode Command: algorithms, key set identifier, the replayed
capability behind its length, and the elements. -/
structure SecurityModeCommand where
  algs : UInt8
  ngksi : UInt8
  capability : Bytes
  ies : List Element
  capabilityLen : 2 ≤ capability.length ∧ capability.length ≤ 8
  wf : ∀ e ∈ ies, e.Wf mmFormat
  once : ies.Pairwise fun e f => e.iei ≠ f.iei
  secInfoLen : ∀ e ∈ ies, e.iei = 0x36 → e.value.length = 1

/-- What stands behind the key set identifier. -/
def SecurityModeCommand.tail (m : SecurityModeCommand) : Bytes :=
  UInt8.ofNat m.capability.length :: m.capability ++ octets mmFormat m.ies

def SecurityModeCommand.pdu (m : SecurityModeCommand) : Bytes :=
  nasEpd5gmm :: nasShtNotProtected :: nasMsgSecurityModeCommand :: m.algs :: m.ngksi :: m.tail

/-- The octet of element `0x36`. -/
def SecurityModeCommand.secInfo (m : SecurityModeCommand) : Option UInt8 :=
  (value? 0x36 m.ies).map fun v => octet v 0

/-- An octet `0x36` with another behind it, and what is read there: the octet behind the
length, if the length is not zero and within the message. -/
def secInfoAt : Bytes → Option (Option UInt8)
  | a :: b :: rest =>
    if a = 0x36 then some (if 1 ≤ b ∧ b.toNat ≤ rest.length then some (octet rest 0) else none)
    else none
  | _ => none

theorem parseAdditional5gSecInfo_eq_first (b : Bytes) :
    parseAdditional5gSecInfo b = (Scan.first secInfoAt b).join := by
  fun_induction parseAdditional5gSecInfo b with
  | case1 b rest h => simp [Scan.first, secInfoAt, h]
  | case2 b rest h => simp [Scan.first, secInfoAt, h]
  | case3 a b rest h ih =>
    rw [Scan.first, secInfoAt, if_neg h]
    exact ih
  | case4 b h =>
    rcases b with _ | ⟨a, _ | ⟨b, rest⟩⟩
    · rfl
    · rfl
    · exact absurd rfl (h a b rest)

theorem secInfoAt_element {e : Element} (hiei : e.iei = 0x36) (rest : Bytes) :
    secInfoAt (e.octets mmFormat ++ rest) ≠ none := by
  have hshort : mmFormat 0x36 = .short := by decide
  simp only [Element.octets, hiei, hshort, List.cons_append, secInfoAt, if_true]
  exact Option.some_ne_none _

/-- The search for the security information finds it if and only if its first hit reads the
same. -/
theorem parseAdditional5gSecInfo_iff (m : SecurityModeCommand) :
    parseAdditional5gSecInfo m.tail = m.secInfo ↔
      ∀ p, Scan.FirstHit secInfoAt m.tail p → (secInfoAt (m.tail.drop p)).join = m.secInfo := by
  rw [parseAdditional5gSecInfo_eq_first]
  refine Scan.first_eq_iff Option.join fun hpresent => ?_
  cases hvalue : value? 0x36 m.ies with
  | none =>
    rw [SecurityModeCommand.secInfo, hvalue] at hpresent
    exact absurd rfl hpresent
  | some v =>
    obtain ⟨pre, post, heq, -⟩ := value?_eq_some hvalue
    have hsplit : m.tail = (UInt8.ofNat m.capability.length :: m.capability) ++
        octets mmFormat (pre ++ ⟨0x36, v⟩ :: post) := by
      rw [SecurityModeCommand.tail, heq]
    refine ⟨(UInt8.ofNat m.capability.length :: m.capability).length +
      (octets mmFormat pre).length, ?_, ?_⟩
    · rw [hsplit, octets_append, List.length_append, List.length_append]
      omega
    · rw [hsplit, ← List.drop_drop, List.drop_left, drop_octets]
      exact secInfoAt_element rfl _

theorem ueNasDecodeEvent_securityModeCommand (m : SecurityModeCommand) :
    ∃ ev, ueNasDecodeEvent m.pdu = some ev ∧
      ev.additional5gSecInfo = parseAdditional5gSecInfo m.tail := by
  have hlen : 5 ≤ m.pdu.length := by
    simp only [SecurityModeCommand.pdu, List.length_cons]
    omega
  have hmm : decodeMmMessage m.pdu = some (decodeSecurityModeCommand m.pdu) := by
    rw [decodeMmMessage, if_neg (by omega)]
    rfl
  refine ⟨decodeSecurityModeCommand m.pdu, ?_, ?_⟩
  · rw [ueNasDecodeEvent, if_neg (by omega), hmm, decodeSecurityModeCommand, if_pos hlen]
    rfl
  · rw [decodeSecurityModeCommand, if_pos hlen]
    rfl

/-! ## Reported as they are -/

/-- The 5G-GUTI is reported if and only if it is there, as it is.  The T3512 value and the
additional security information are, when the first signature the search meets reads the same
as the element, or there is neither. -/
theorem optionalIes_reported :
    (∀ m : RegistrationAccept, ∃ ev, ueNasDecodeEvent m.pdu = some ev ∧ ev.guti = m.guti ∧
      (ev.t3512Seconds = m.t3512 ↔
        ∀ p, Scan.FirstHit t3512At (octets mmFormat m.ies) p →
          t3512At ((octets mmFormat m.ies).drop p) = m.t3512)) ∧
    ∀ m : SecurityModeCommand, ∃ ev, ueNasDecodeEvent m.pdu = some ev ∧
      (ev.additional5gSecInfo = m.secInfo ↔
        ∀ p, Scan.FirstHit secInfoAt m.tail p → (secInfoAt (m.tail.drop p)).join = m.secInfo) := by
  constructor
  · intro m
    exact ⟨_, ueNasDecodeEvent_registrationAccept m, rfl, parseT3512_iff m⟩
  · intro m
    obtain ⟨ev, hev, hinfo⟩ := ueNasDecodeEvent_securityModeCommand m
    refine ⟨ev, hev, ?_⟩
    rw [hinfo]
    exact parseAdditional5gSecInfo_iff m

/-- A Registration Accept without a T3512 value, whose TMSI is `5E 01 23 45`. -/
def tmsiAccept : RegistrationAccept where
  result := 0x01
  ies := [⟨0x77, [0xF2, 0x00, 0xF1, 0x10, 0x02, 0x00, 0x40, 0x5E, 0x01, 0x23, 0x45]⟩]
  wf := by
    rw [List.forall_mem_singleton]
    show (11 : Nat) < 65536
    decide
  once := List.pairwise_singleton _ _
  gutiFirst := by
    intro pre e post heq _ f hf
    cases pre with
    | nil => cases hf
    | cons g pre =>
      have hlen := congrArg List.length heq
      simp at hlen
  gutiLen := by decide
  t3512Len := by decide

/-- A Security Mode Command with an ABBA and no security information, whose replayed capability
is `A0 A0 36 02`. -/
def capabilityCommand : SecurityModeCommand where
  algs := 0x22
  ngksi := 0x00
  capability := [0xA0, 0xA0, 0x36, 0x02]
  ies := [⟨0x38, [0x00, 0x00]⟩]
  capabilityLen := by decide
  wf := by
    rw [List.forall_mem_singleton]
    show (2 : Nat) < 256
    decide
  once := List.pairwise_singleton _ _
  secInfoLen := by decide

/-- Signatures inside other elements are taken for the elements. -/
theorem optionalIes_misread :
    ¬ (∀ m : RegistrationAccept, ∃ ev, ueNasDecodeEvent m.pdu = some ev ∧ ev.guti = m.guti ∧
        ev.t3512Seconds = m.t3512) ∧
    ¬ ∀ m : SecurityModeCommand, ∃ ev, ueNasDecodeEvent m.pdu = some ev ∧
        ev.additional5gSecInfo = m.secInfo := by
  constructor
  · intro h
    obtain ⟨ev, hev, -, htimer⟩ := h tmsiAccept
    have hread : (ueNasDecodeEvent tmsiAccept.pdu).map UeNasEvent.t3512Seconds ≠
        some tmsiAccept.t3512 := by decide +kernel
    rw [hev, Option.map_some, htimer] at hread
    exact hread rfl
  · intro h
    obtain ⟨ev, hev, hinfo⟩ := h capabilityCommand
    have hread : (ueNasDecodeEvent capabilityCommand.pdu).map UeNasEvent.additional5gSecInfo ≠
        some capabilityCommand.secInfo := by decide +kernel
    rw [hev, Option.map_some, hinfo] at hread
    exact hread rfl

end VirtualLte.Nas
