import VirtualLte.Lib.Tlv
import VirtualLte.Nas.Encode

/-!
# The establishment request, read back

`ue_nas_encode_pdu_session_est_request` against the message formats of TS 24.501 8.2.10 (UL NAS
TRANSPORT) and 8.3.1 (the request in its payload container).

* `readDnn`: a DNN as a row of labels, each of 1 to 63 octets behind its length (TS 23.003
  9.1).  The dot is not a character of a label; it stands between labels.
* `readTransport`: the network's reading of the whole message.
* `readTransport_estRequest`: what it makes of an encoded request.
* The encoder writes the whole name as one label, so `RequestReadBack` holds of the names
  without a dot and of no others (`requestReadBack_iff`).
-/

namespace VirtualLte.Nas

open Tlv

/-! ## Labels -/

def dot : UInt8 := 0x2E

/-- Labels as text. -/
def joinLabels (labels : List Bytes) : Bytes := [dot].intercalate labels

def isLabel (label : Bytes) : Bool :=
  1 ≤ label.length && label.length ≤ 63 && !label.contains dot

/-- Labels behind their lengths, to the end; the fuel is the number of octets. -/
def readLabels : Nat → Bytes → Option (List Bytes)
  | _, [] => some []
  | 0, _ :: _ => none
  | fuel + 1, len :: rest =>
    if rest.length < len.toNat then none
    else if isLabel (rest.take len.toNat) then
      (readLabels fuel (rest.drop len.toNat)).map (rest.take len.toNat :: ·)
    else none

def readDnn (b : Bytes) : Option (List Bytes) := readLabels b.length b

/-- One label fills the value. -/
theorem readDnn_single {label : Bytes} (hlen : label.length < 256) :
    readDnn (UInt8.ofNat label.length :: label) = if isLabel label then some [label] else none := by
  have hoctet : (UInt8.ofNat label.length).toNat = label.length := by
    rw [UInt8.toNat_ofNat', Nat.mod_eq_of_lt hlen]
  have hend : readLabels label.length [] = some [] := by
    cases label.length with
    | zero => rfl
    | succ n => rfl
  rw [readDnn, List.length_cons, readLabels, hoctet, if_neg (Nat.lt_irrefl _), List.take_length,
    List.drop_length, hend, Option.map_some]

/-! ## The network's reading -/

structure TransportedRequest where
  psi : UInt8
  requestType : UInt8
  sNssai : Option Bytes
  dnn : Option (List Bytes)
  smPsi : UInt8
  pti : UInt8
  pduSessionType : UInt8
  deriving DecidableEq, Repr

/-- Optional elements of UL NAS TRANSPORT: identities in two octets, the old one too; request
type, MA information and release assistance in one; the others behind a length. -/
def transportFormat (iei : UInt8) : Format :=
  if 0x80 ≤ iei then .half else if iei = 0x12 ∨ iei = 0x59 then .fixed 1 else .short

/-- Optional elements of the establishment request. -/
def estRequestFormat (iei : UInt8) : Format :=
  if 0x80 ≤ iei then .half
  else if iei = 0x55 then .fixed 2
  else if 0x70 ≤ iei then .long
  else .short

/-- An optional element that has to be one octet. -/
def oneOctet? (iei : UInt8) (es : List Element) : Option UInt8 :=
  match value? iei es with
  | some [v] => some v
  | _ => none

/-- An absent DNN is fine, an unreadable one is not. -/
def dnn? (es : List Element) : Option (Option (List Bytes)) :=
  match value? 0x25 es with
  | none => some none
  | some b => (readDnn b).map some

/-- PSI, PTI and PDU session type of the request in the payload container. -/
def readEstRequest : Bytes → Option (UInt8 × UInt8 × UInt8)
  | epd :: psi :: pti :: type :: _ :: _ :: options =>
    if epd = nasEpd5gsm ∧ type = nasMsgPduSessionEstRequest then do
      let es ← readAll estRequestFormat options.length options
      let pduSessionType ← oneOctet? 0x90 es
      some (psi, pti, pduSessionType)
    else none
  | _ => none

def readTransport : Bytes → Option TransportedRequest
  | epd :: sht :: type :: containerType :: hi :: lo :: rest =>
    let len := hi.toNat * 256 + lo.toNat
    if epd = nasEpd5gmm ∧ sht = nasShtNotProtected ∧ type = 0x67 ∧
        containerType &&& 0x0F = 0x01 ∧ len ≤ rest.length then do
      let (smPsi, pti, pduSessionType) ← readEstRequest (rest.take len)
      let es ← readAll transportFormat (rest.drop len).length (rest.drop len)
      let psi ← oneOctet? 0x12 es
      let requestType ← oneOctet? 0x80 es
      let dnn ← dnn? es
      some {
        psi, requestType, sNssai := value? 0x22 es, dnn, smPsi, pti, pduSessionType }
    else none
  | _ => none

/-! ## What the encoder writes -/

theorem or_half {iei v : UInt8} (hiei : iei ∈ ([0x80, 0x90, 0xA0] : List UInt8))
    (hv : v.toNat < 16) :
    (iei ||| v) &&& 0xF0 = iei ∧ (iei ||| v) &&& 0x0F = v ∧ 0x80 ≤ iei ||| v ∧ 0x80 ≤ iei := by
  have hall : ∀ x ∈ ([0x80, 0x90, 0xA0] : List UInt8), ∀ n : Fin 16,
      (x ||| UInt8.ofNat n) &&& 0xF0 = x ∧ (x ||| UInt8.ofNat n) &&& 0x0F = UInt8.ofNat n ∧
        0x80 ≤ x ||| UInt8.ofNat n ∧ 0x80 ≤ x := by decide +kernel
  have hx := hall iei hiei ⟨v.toNat, hv⟩
  rwa [UInt8.ofNat_toNat] at hx

/-- Half an octet behind one of the identifiers the encoder uses. -/
theorem half_wf {format : UInt8 → Format} (hformat : ∀ x, 0x80 ≤ x → format x = .half)
    {iei v : UInt8} (hiei : iei ∈ ([0x80, 0x90, 0xA0] : List UInt8)) (hv : v.toNat < 16) :
    (Element.mk iei [v]).Wf format := by
  obtain ⟨hhigh, hlow, hor, hge⟩ := or_half hiei hv
  simp only [Element.Wf, hformat iei hge]
  exact ⟨v, rfl, hhigh, hlow, hformat _ hor⟩

/-- The options of the inner request. -/
def estRequestOptions (pduSessionType : UInt8) : List Element :=
  [⟨0x90, [pduSessionType]⟩, ⟨0xA0, [0x01]⟩, ⟨0x28, [0x00]⟩,
    ⟨0x7B, [0x80, 0x00, 0x0A, 0x00, 0x00, 0x0D, 0x00, 0x00, 0x0C, 0x00]⟩]

/-- The options of the transport, with a name in one label. -/
def transportOptions (psi requestType sNssaiSst : UInt8) (dnn : Bytes) : List Element :=
  [⟨0x12, [psi]⟩, ⟨0x80, [requestType]⟩] ++
    (if sNssaiSst > 0 then [⟨0x22, [sNssaiSst]⟩] else []) ++
    [⟨0x25, UInt8.ofNat dnn.length :: dnn⟩]

theorem and_low_of_lt {v : UInt8} (hv : v.toNat < 16) : v &&& 0x0F = v := by
  have hall : ∀ n : Fin 16, UInt8.ofNat n &&& 0x0F = UInt8.ofNat n := by decide +kernel
  have hv' := hall ⟨v.toNat, hv⟩
  rwa [UInt8.ofNat_toNat] at hv'

theorem readEstRequest_inner (psi pti pduSessionType : UInt8) (htype : pduSessionType.toNat < 16) :
    readEstRequest (encodePduSessionEstRequestInner psi pti pduSessionType) =
      some (psi, pti, pduSessionType) := by
  have hformat : ∀ x : UInt8, 0x80 ≤ x → estRequestFormat x = .half := fun x hx => if_pos hx
  have hwf : ∀ e ∈ estRequestOptions pduSessionType, e.Wf estRequestFormat := by
    simp only [estRequestOptions, List.forall_mem_cons, List.not_mem_nil, false_implies,
      implies_true, and_true]
    refine ⟨half_wf hformat (by decide) htype, half_wf hformat (by decide) (by decide), ?_, ?_⟩
    · show (1 : Nat) < 256
      decide
    · show (10 : Nat) < 65536
      decide
  have hread := readAll_octets hwf (Nat.le_refl _)
  have hinner : encodePduSessionEstRequestInner psi pti pduSessionType =
      nasEpd5gsm :: psi :: pti :: nasMsgPduSessionEstRequest :: 0xFF :: 0xFF ::
        octets estRequestFormat (estRequestOptions pduSessionType) := by
    rw [encodePduSessionEstRequestInner, and_low_of_lt htype]
    rfl
  rw [hinner, readEstRequest, if_pos ⟨rfl, rfl⟩, hread]
  rfl

theorem transportOptions_wf {psi requestType sNssaiSst : UInt8} {dnn : Bytes}
    (hreq : requestType.toNat < 16) (hdnn : dnn.length ≤ 100) :
    ∀ e ∈ transportOptions psi requestType sNssaiSst dnn, e.Wf transportFormat := by
  have hformat : ∀ x : UInt8, 0x80 ≤ x → transportFormat x = .half := fun x hx => if_pos hx
  have hname : (Element.mk 0x25 (UInt8.ofNat dnn.length :: dnn)).Wf transportFormat := by
    show dnn.length + 1 < 256
    omega
  have hslice : (Element.mk 0x22 [sNssaiSst]).Wf transportFormat := by
    show (1 : Nat) < 256
    decide
  have hpsi : (Element.mk 0x12 [psi]).Wf transportFormat := rfl
  have htype : (Element.mk 0x80 [requestType]).Wf transportFormat :=
    half_wf hformat (by decide) hreq
  unfold transportOptions
  split
  · simp only [List.cons_append, List.nil_append, List.forall_mem_cons, List.not_mem_nil,
      false_implies, implies_true, and_true]
    exact ⟨hpsi, htype, hslice, hname⟩
  · simp only [List.cons_append, List.nil_append, List.forall_mem_cons, List.not_mem_nil,
      false_implies, implies_true, and_true]
    exact ⟨hpsi, htype, hname⟩

/-- The octets of an encoded request, as container and options. -/
theorem estRequest_eq {psi pti pduSessionType requestType sNssaiSst : UInt8} {dnn : Bytes}
    (hreq : 0 < requestType.toNat ∧ requestType.toNat < 16)
    (hdnn : 0 < dnn.length ∧ dnn.length ≤ 100) :
    ueNasEncodePduSessionEstRequest 512 psi pti pduSessionType requestType dnn sNssaiSst =
      .done (nasEpd5gmm :: nasShtNotProtected :: 0x67 :: 0x01 :: 0x00 :: 24 ::
        (encodePduSessionEstRequestInner psi pti pduSessionType ++
          octets transportFormat (transportOptions psi requestType sNssaiSst dnn))) := by
  have hne : requestType ≠ 0 := by
    rintro rfl
    exact absurd hreq.1 (by decide)
  have htake : dnn.take 100 = dnn := List.take_of_length_le hdnn.2
  have hname : octets transportFormat [⟨0x25, UInt8.ofNat dnn.length :: dnn⟩] =
      0x25 :: UInt8.ofNat (dnn.length + 1) :: UInt8.ofNat dnn.length :: dnn := by
    rw [octets_cons, octets_nil, List.append_nil]
    rfl
  have hinner : (encodePduSessionEstRequestInner psi pti pduSessionType).length = 24 := rfl
  have hbe : putBe16 24 = [0x00, 24] := by decide
  unfold ueNasEncodePduSessionEstRequest
  rw [if_neg (by decide)]
  dsimp only
  rw [if_neg hne, and_low_of_lt hreq.2, if_pos hdnn.1, htake, ulNasTransport, hinner, hbe]
  unfold transportOptions
  rw [octets_append, hname]
  split
  · rw [if_neg]
    · rfl
    · simp only [hinner, List.length_append, List.length_cons, List.length_nil]
      omega
  · rw [if_neg]
    · rfl
    · simp only [hinner, List.length_append, List.length_cons, List.length_nil]
      omega

/-- The network reads the fields back, and the name as the one label it was written as. -/
theorem readTransport_estRequest {psi pti pduSessionType requestType sNssaiSst : UInt8}
    {dnn pdu : Bytes} (htype : pduSessionType.toNat < 16)
    (hreq : 0 < requestType.toNat ∧ requestType.toNat < 16)
    (hdnn : 0 < dnn.length ∧ dnn.length ≤ 100)
    (h : (ueNasEncodePduSessionEstRequest 512 psi pti pduSessionType requestType dnn
      sNssaiSst).pdu? = some pdu) :
    readTransport pdu =
      if isLabel dnn then
        some {
          psi, requestType, sNssai := if sNssaiSst > 0 then some [sNssaiSst] else none
          dnn := some [dnn], smPsi := psi, pti, pduSessionType }
      else none := by
  rw [estRequest_eq hreq hdnn, pdu?_done, Option.some.injEq] at h
  subst h
  have hread : readAll transportFormat _ (octets transportFormat
      (transportOptions psi requestType sNssaiSst dnn)) = some _ :=
    readAll_octets (transportOptions_wf hreq.2 hdnn.2) (Nat.le_refl _)
  have hinner : (encodePduSessionEstRequestInner psi pti pduSessionType).length = 24 := rfl
  have hlen : (0x00 : UInt8).toNat * 256 + (24 : UInt8).toNat =
      (encodePduSessionEstRequestInner psi pti pduSessionType).length := by
    rw [hinner]
    decide
  have hpsi : oneOctet? 0x12 (transportOptions psi requestType sNssaiSst dnn) = some psi := rfl
  have htypeRead : oneOctet? 0x80 (transportOptions psi requestType sNssaiSst dnn) =
      some requestType := rfl
  have hslice : value? 0x22 (transportOptions psi requestType sNssaiSst dnn) =
      if sNssaiSst > 0 then some [sNssaiSst] else none := by
    unfold transportOptions
    split
    · rfl
    · rfl
  have hname : dnn? (transportOptions psi requestType sNssaiSst dnn) =
      if isLabel dnn then some (some [dnn]) else none := by
    have hvalue : value? 0x25 (transportOptions psi requestType sNssaiSst dnn) =
        some (UInt8.ofNat dnn.length :: dnn) := by
      unfold transportOptions
      split
      · rfl
      · rfl
    rw [dnn?, hvalue]
    dsimp only
    rw [readDnn_single (by omega)]
    split
    · rfl
    · rfl
  unfold readTransport
  dsimp only
  rw [hlen, List.take_left, List.drop_left, if_pos ⟨rfl, rfl, rfl, by decide, by simp⟩,
    readEstRequest_inner psi pti pduSessionType htype]
  simp only [Option.bind_eq_bind, Option.bind_some, hread, hpsi, htypeRead, hname, hslice]
  split
  · rfl
  · rfl

/-! ## Read back -/

/-- The arguments of a request: identities and types in range, and a name of at most a hundred
characters made of labels. -/
structure RequestArgs (psi pti pduSessionType requestType : UInt8) (dnn : Bytes) : Prop where
  psi : 1 ≤ psi ∧ psi ≤ 15
  pti : 1 ≤ pti ∧ pti ≤ 254
  pduSessionType : 1 ≤ pduSessionType ∧ pduSessionType ≤ 3
  requestType : 1 ≤ requestType ∧ requestType ≤ 2
  dnnLen : dnn.length ≤ 100
  labels : ∃ labels, labels ≠ [] ∧ (∀ l ∈ labels, isLabel l = true) ∧ dnn = joinLabels labels

/-- The request encodes into 512 octets and reads back as its arguments, a slice only when there
is one. -/
def RequestReadBack (psi pti pduSessionType requestType : UInt8) (dnn : Bytes)
    (sNssaiSst : UInt8) : Prop :=
  ∃ pdu labels,
    (ueNasEncodePduSessionEstRequest 512 psi pti pduSessionType requestType dnn sNssaiSst).pdu? =
      some pdu ∧
    readTransport pdu = some {
      psi, requestType, sNssai := if sNssaiSst = 0 then none else some [sNssaiSst]
      dnn := some labels, smPsi := psi, pti, pduSessionType } ∧
    joinLabels labels = dnn

theorem RequestArgs.ranges {psi pti pduSessionType requestType : UInt8} {dnn : Bytes}
    (h : RequestArgs psi pti pduSessionType requestType dnn) :
    pduSessionType.toNat < 16 ∧ (0 < requestType.toNat ∧ requestType.toNat < 16) := by
  have htype := UInt8.le_iff_toNat_le.mp h.pduSessionType.2
  have hlow := UInt8.le_iff_toNat_le.mp h.requestType.1
  have hhigh := UInt8.le_iff_toNat_le.mp h.requestType.2
  simp only [UInt8.toNat_ofNat] at htype hlow hhigh
  omega

/-- A row of labels, the first one first. -/
theorem joinLabels_cases {labels : List Bytes} (hne : labels ≠ []) :
    (∃ l, labels = [l] ∧ joinLabels labels = l) ∨
      ∃ l others, l ∈ labels ∧ joinLabels labels = l ++ dot :: others := by
  match labels, hne with
  | [l], _ => exact .inl ⟨l, rfl, by simp [joinLabels, List.intercalate]⟩
  | l :: k :: rest, _ =>
    refine .inr ⟨l, joinLabels (k :: rest), List.mem_cons_self, ?_⟩
    simp [joinLabels, List.intercalate]

theorem isLabel_iff (label : Bytes) :
    isLabel label = true ↔ (1 ≤ label.length ∧ label.length ≤ 63) ∧ dot ∉ label := by
  simp [isLabel]

/-- A name made of labels is itself a label when it has no dot. -/
theorem isLabel_joinLabels_iff {labels : List Bytes} (hne : labels ≠ [])
    (h : ∀ l ∈ labels, isLabel l = true) :
    isLabel (joinLabels labels) = true ↔ dot ∉ joinLabels labels := by
  refine ⟨fun hlabel => ((isLabel_iff _).mp hlabel).2, fun hdot => ?_⟩
  rcases joinLabels_cases hne with ⟨l, rfl, hjoin⟩ | ⟨l, others, -, hjoin⟩
  · rw [hjoin]
    exact h l List.mem_cons_self
  · rw [hjoin] at hdot
    exact absurd (List.mem_append_right l List.mem_cons_self) hdot

theorem joinLabels_length_pos {labels : List Bytes} (hne : labels ≠ [])
    (h : ∀ l ∈ labels, isLabel l = true) : 0 < (joinLabels labels).length := by
  rcases joinLabels_cases hne with ⟨l, rfl, hjoin⟩ | ⟨l, others, hl, hjoin⟩
  · rw [hjoin]
    exact ((isLabel_iff l).mp (h l List.mem_cons_self)).1.1
  · rw [hjoin, List.length_append, List.length_cons]
    omega

/-- A request is read back exactly when its name has no dot. -/
theorem requestReadBack_iff {psi pti pduSessionType requestType : UInt8} {dnn : Bytes}
    (h : RequestArgs psi pti pduSessionType requestType dnn) (sNssaiSst : UInt8) :
    RequestReadBack psi pti pduSessionType requestType dnn sNssaiSst ↔ dot ∉ dnn := by
  obtain ⟨htype, hreq⟩ := h.ranges
  obtain ⟨labels, hne, hlabels, hjoin⟩ := h.labels
  have hpos : 0 < dnn.length := hjoin ▸ joinLabels_length_pos hne hlabels
  have hlabel : isLabel dnn = true ↔ dot ∉ dnn := hjoin ▸ isLabel_joinLabels_iff hne hlabels
  have hslice : (if sNssaiSst > 0 then some [sNssaiSst] else none) =
      if sNssaiSst = 0 then none else some [sNssaiSst] := by
    by_cases hzero : sNssaiSst = 0
    · subst hzero
      rfl
    · rw [if_neg hzero, if_pos (UInt8.pos_iff_ne_zero.mpr hzero)]
  rw [← hlabel]
  constructor
  · rintro ⟨pdu, parsed, hpdu, hread, -⟩
    rw [readTransport_estRequest htype hreq ⟨hpos, h.dnnLen⟩ hpdu] at hread
    by_contra hnot
    rw [if_neg hnot] at hread
    cases hread
  · intro hyes
    have hencoded : ∃ pdu, (ueNasEncodePduSessionEstRequest 512 psi pti pduSessionType requestType
        dnn sNssaiSst).pdu? = some pdu := by
      rw [estRequest_eq hreq ⟨hpos, h.dnnLen⟩]
      exact ⟨_, rfl⟩
    obtain ⟨pdu, hpdu⟩ := hencoded
    refine ⟨pdu, [dnn], hpdu, ?_, ?_⟩
    · rw [readTransport_estRequest htype hreq ⟨hpos, h.dnnLen⟩ hpdu, if_pos hyes, hslice]
    · simp [joinLabels, List.intercalate]

/-- The name the codec test asks for. -/
def internet : Bytes := [0x69, 0x6E, 0x74, 0x65, 0x72, 0x6E, 0x65, 0x74]

theorem requestArgs_internet : RequestArgs 7 9 1 1 internet :=
  ⟨by decide, by decide, by decide, by decide, by decide, [internet], by decide, by decide, by decide⟩

theorem requestReadBack_internet : RequestReadBack 7 9 1 1 internet 1 :=
  (requestReadBack_iff requestArgs_internet 1).mpr (by decide)

/-- `ims.test`: two labels, written as one. -/
def imsTest : Bytes := [0x69, 0x6D, 0x73, dot, 0x74, 0x65, 0x73, 0x74]

theorem requestArgs_imsTest : RequestArgs 7 9 1 1 imsTest :=
  ⟨by decide, by decide, by decide, by decide, by decide,
    [[0x69, 0x6D, 0x73], [0x74, 0x65, 0x73, 0x74]], by decide, by decide, by decide⟩

theorem imsTest_not_readBack :
    ¬ ∀ psi pti pduSessionType requestType dnn sNssaiSst,
      RequestArgs psi pti pduSessionType requestType dnn →
        RequestReadBack psi pti pduSessionType requestType dnn sNssaiSst := by
  intro h
  obtain ⟨pdu, labels, hpdu, hread, -⟩ := h 7 9 1 1 imsTest 1 requestArgs_imsTest
  rw [readTransport_estRequest (by decide) (by decide) (by decide) hpdu,
    if_neg (by decide : ¬ isLabel imsTest = true)] at hread
  cases hread

end VirtualLte.Nas
