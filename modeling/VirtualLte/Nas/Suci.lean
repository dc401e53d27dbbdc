import VirtualLte.Nas.Encode

/-!
# The concealed identity, read back

`ue_nas_encode_suci` against the layout of TS 24.501 9.11.3.4 with the null scheme: type and
format, PLMN, routing indicator, scheme, key identifier, and the MSIN as semi-octets.

* `suciDecode` is the network's reading.  A filler `1111` stands for an absent third MNC digit
  and for the missing digit behind an MSIN of odd length, and for nothing else.
* `suciDecode_suciOctets`: the octets the encoder lays out read back as they should, whatever
  the parity of the MSIN.
* `ueNasEncodeSuci_pdu`: which arguments are accepted.  The check behind the layout takes the
  filler of an odd MSIN for an error, and a third MNC character that is no digit for a filler.
-/

namespace VirtualLte.Nas

/-! ## Semi-octets -/

def isDigit (c : UInt8) : Bool := 0x30 ≤ c && c ≤ 0x39

def lowDigit (x : UInt8) : UInt8 := x &&& 0x0F
def highDigit (x : UInt8) : UInt8 := x >>> 4

/-- The character of a digit; anything above nine has none. -/
def digitChar (d : UInt8) : Option UInt8 := if d ≤ 9 then some (d + 0x30) else none

/-- A semi-octet that may be the filler. -/
def digitOrFiller (d : UInt8) : Option Bytes :=
  if d = 0x0F then some [] else (digitChar d).map fun c => [c]

/-- Digits two to an octet, the low one first; only the very last may be a filler. -/
def decodeDigits : Bytes → Option Bytes
  | [] => some []
  | [x] => do
    let a ← digitChar (lowDigit x)
    let b ← digitOrFiller (highDigit x)
    some (a :: b)
  | x :: rest => do
    let a ← digitChar (lowDigit x)
    let b ← digitChar (highDigit x)
    let digits ← decodeDigits rest
    some (a :: b :: digits)

/-- What `bcdPack` puts in place of a digit value. -/
def semiOctet (a : Option UInt8) : UInt8 := (a.map (· &&& 0x0F)).getD 0x0F

theorem semiOctet_lt (a : Option UInt8) : (semiOctet a).toNat < 16 := by
  cases a with
  | none => decide
  | some d =>
    have hand : (d &&& 0x0F).toNat ≤ 15 := by
      rw [UInt8.toNat_and]
      exact Nat.and_le_right
    exact Nat.lt_succ_of_le hand

theorem digits_pack {x y : UInt8} (hx : x.toNat < 16) (hy : y.toNat < 16) :
    lowDigit (y <<< 4 ||| x) = x ∧ highDigit (y <<< 4 ||| x) = y := by
  have hall : ∀ m n : Fin 16,
      lowDigit (UInt8.ofNat n <<< 4 ||| UInt8.ofNat m) = UInt8.ofNat m ∧
        highDigit (UInt8.ofNat n <<< 4 ||| UInt8.ofNat m) = UInt8.ofNat n := by decide +kernel
  have hxy := hall ⟨x.toNat, hx⟩ ⟨y.toNat, hy⟩
  rwa [UInt8.ofNat_toNat, UInt8.ofNat_toNat] at hxy

@[simp] theorem lowDigit_bcdPack (a b : Option UInt8) : lowDigit (bcdPack a b) = semiOctet a :=
  (digits_pack (semiOctet_lt a) (semiOctet_lt b)).1

@[simp] theorem highDigit_bcdPack (a b : Option UInt8) : highDigit (bcdPack a b) = semiOctet b :=
  (digits_pack (semiOctet_lt a) (semiOctet_lt b)).2

theorem shiftRight_four_and (x : UInt8) : (x >>> 4) &&& 0x0F = highDigit x :=
  forall_octet (p := fun x => (x >>> 4) &&& (0x0F : UInt8) = x >>> 4) (by decide +kernel) x

theorem bcdValidateStrict_iff (x : UInt8) :
    bcdValidateStrict x = true ↔ lowDigit x ≤ 9 ∧ highDigit x ≤ 9 := by
  rw [bcdValidateStrict, shiftRight_four_and, Bool.and_eq_true, decide_eq_true_eq, decide_eq_true_eq, lowDigit]

/-- A character packs to a digit exactly when it is one, and is then read back. -/
theorem semiOctet_digitVal (c : UInt8) :
    (semiOctet (digitVal c) ≤ 9 ↔ isDigit c = true) ∧
      (isDigit c = true → digitChar (semiOctet (digitVal c)) = some c) ∧
      (isDigit c = false → semiOctet (digitVal c) = 0x0F) := by
  refine forall_octet (p := fun c => (semiOctet (digitVal c) ≤ 9 ↔ isDigit c = true) ∧
    (isDigit c = true → digitChar (semiOctet (digitVal c)) = some c) ∧
    (isDigit c = false → semiOctet (digitVal c) = 0x0F)) ?_ c
  decide +kernel

theorem semiOctet_le_iff (c : UInt8) : semiOctet (digitVal c) ≤ 9 ↔ isDigit c = true :=
  (semiOctet_digitVal c).1

theorem digitChar_semiOctet {c : UInt8} (h : isDigit c = true) :
    digitChar (semiOctet (digitVal c)) = some c :=
  (semiOctet_digitVal c).2.1 h

/-- No digit packs to the filler. -/
theorem digitOrFiller_semiOctet {c : UInt8} (h : isDigit c = true) :
    digitOrFiller (semiOctet (digitVal c)) = some [c] := by
  have hle := (semiOctet_le_iff c).mpr h
  have hne : semiOctet (digitVal c) ≠ 0x0F := by
    intro heq
    rw [heq] at hle
    exact absurd hle (by decide)
  rw [digitOrFiller, if_neg hne, digitChar_semiOctet h, Option.map_some]

theorem bcdValidateStrict_digits (a b : UInt8) :
    bcdValidateStrict (bcdPack (digitVal a) (digitVal b)) = true ↔
      isDigit a = true ∧ isDigit b = true := by
  rw [bcdValidateStrict_iff, lowDigit_bcdPack, highDigit_bcdPack, semiOctet_le_iff,
    semiOctet_le_iff]

/-! ## The MSIN -/

/-- The digits of an MSIN of either parity are read back. -/
theorem decodeDigits_encodeMsin {msin : Bytes} (h : msin.all isDigit = true) :
    decodeDigits (encodeMsin msin) = some msin := by
  fun_induction encodeMsin msin with
  | case1 => rfl
  | case2 a =>
    have ha : isDigit a = true := by simpa using h
    simp only [decodeDigits, lowDigit_bcdPack, highDigit_bcdPack, digitChar_semiOctet ha]
    rfl
  | case3 a b rest ih =>
    simp only [List.all_cons, Bool.and_eq_true] at h
    obtain ⟨ha, hb, hrest⟩ := h
    have hdigits := ih hrest
    cases hmsin : encodeMsin rest with
    | nil =>
      rw [hmsin] at hdigits
      cases hdigits
      simp only [decodeDigits, lowDigit_bcdPack, highDigit_bcdPack, digitChar_semiOctet ha,
        digitOrFiller_semiOctet hb]
      rfl
    | cons x xs =>
      rw [hmsin] at hdigits
      simp only [decodeDigits, lowDigit_bcdPack, highDigit_bcdPack, digitChar_semiOctet ha,
        digitChar_semiOctet hb, hdigits]
      rfl

/-- The check refuses the filler behind an odd MSIN. -/
theorem encodeMsin_strict_iff (msin : Bytes) :
    (encodeMsin msin).all bcdValidateStrict = true ↔
      msin.all isDigit = true ∧ msin.length % 2 = 0 := by
  fun_induction encodeMsin msin with
  | case1 => simp
  | case2 a =>
    have hfiller : ¬ semiOctet none ≤ 9 := by decide
    simp [bcdValidateStrict_iff, hfiller]
  | case3 a b rest ih =>
    have hpair : (rest.length + 1 + 1) % 2 = rest.length % 2 := by omega
    simp only [List.all_cons, Bool.and_eq_true, bcdValidateStrict_digits, ih, List.length_cons,
      hpair, and_assoc]

/-! ## The whole identity -/

structure HomeIdentity where
  mcc : Bytes
  mnc : Bytes
  msin : Bytes
  deriving DecidableEq, Repr

/-- Type SUCI, format IMSI, null scheme; routing indicator and key identifier are not
looked at. -/
def suciDecode : Bytes → Option HomeIdentity
  | kind :: plmn1 :: plmn2 :: plmn3 :: _ :: _ :: scheme :: _ :: output =>
    if kind &&& 0x07 = 0x01 ∧ kind &&& 0x70 = 0x00 ∧ scheme &&& 0x0F = 0x00 then do
      let mcc1 ← digitChar (lowDigit plmn1)
      let mcc2 ← digitChar (highDigit plmn1)
      let mcc3 ← digitChar (lowDigit plmn2)
      let mnc1 ← digitChar (lowDigit plmn3)
      let mnc2 ← digitChar (highDigit plmn3)
      let mnc3 ← digitOrFiller (highDigit plmn2)
      let msin ← decodeDigits output
      some { mcc := [mcc1, mcc2, mcc3], mnc := mnc1 :: mnc2 :: mnc3, msin }
    else none
  | _ => none

/-- What the encoder lays out for an MCC of three characters and an MNC of two or three. -/
def suciOctets (mcc mnc msin : Bytes) : Bytes :=
  [0x01,
    bcdPack (digitVal (octet mcc 0)) (digitVal (octet mcc 1)),
    bcdPack (digitVal (octet mcc 2)) (if mnc.length = 3 then digitVal (octet mnc 2) else none),
    bcdPack (digitVal (octet mnc 0)) (digitVal (octet mnc 1)),
    0x00, 0x00, 0x00, 0x00] ++ encodeMsin msin

theorem encodeMsin_length (msin : Bytes) : (encodeMsin msin).length = (msin.length + 1) / 2 := by
  fun_induction encodeMsin msin with
  | case1 => rfl
  | case2 a => simp
  | case3 a b rest ih =>
    simp only [List.length_cons, ih]
    omega

theorem suciOctets_length (mcc mnc msin : Bytes) :
    (suciOctets mcc mnc msin).length = 8 + (msin.length + 1) / 2 := by
  rw [suciOctets, List.length_append, encodeMsin_length]
  rfl

/-- The MSIN is what the IMSI holds behind as many characters as MCC and MNC have. -/
def msinOf (imsi mcc mnc : Bytes) : Bytes := imsi.drop (mcc.length + mnc.length)

/-- The arguments are as long as a PLMN and an IMSI with it have to be, and the buffer takes
the result. -/
structure SuciShape (bufLen : Nat) (imsi mcc mnc : Bytes) : Prop where
  mccLen : mcc.length = 3
  mncLen : mnc.length = 2 ∨ mnc.length = 3
  imsiLen : mcc.length + mnc.length ≤ imsi.length
  room : 8 + ((msinOf imsi mcc mnc).length + 1) / 2 ≤ bufLen

theorem ueNasEncodeSuci_of_shape {bufLen : Nat} {imsi mcc mnc : Bytes}
    (h : SuciShape bufLen imsi mcc mnc) :
    ueNasEncodeSuci bufLen imsi mcc mnc =
      ⟨suciOctets mcc mnc (msinOf imsi mcc mnc),
        suciValidateBcd (suciOctets mcc mnc (msinOf imsi mcc mnc))⟩ := by
  have hplmn : ¬ (mcc.length ≠ 3 ∨ mnc.length ≠ 2 ∧ mnc.length ≠ 3) := by
    have hmcc := h.mccLen
    have hmnc := h.mncLen
    omega
  have hroom := h.room
  rw [msinOf, List.length_drop] at hroom
  unfold ueNasEncodeSuci
  rw [if_neg hplmn, if_neg (Nat.not_lt.mpr h.imsiLen), if_neg (Nat.not_lt.mpr hroom)]
  rfl

theorem ueNasEncodeSuci_of_not_shape {bufLen : Nat} {imsi mcc mnc : Bytes}
    (h : ¬ SuciShape bufLen imsi mcc mnc) : ueNasEncodeSuci bufLen imsi mcc mnc = .refused := by
  unfold ueNasEncodeSuci
  split
  · rfl
  rename_i hplmn
  split
  · rfl
  rename_i himsi
  split
  · rfl
  rename_i hroom
  refine absurd ⟨by omega, by omega, Nat.not_lt.mp himsi, ?_⟩ h
  rw [msinOf, List.length_drop]
  exact Nat.not_lt.mp hroom

/-- A character in the third place of the MNC passes the check, digit or not. -/
theorem semiOctet_third (c : UInt8) :
    semiOctet (digitVal c) ≤ 9 ∨ semiOctet (digitVal c) = 0x0F := by
  cases hc : isDigit c with
  | true => exact .inl ((semiOctet_le_iff c).mpr hc)
  | false => exact .inr ((semiOctet_digitVal c).2.2 hc)

theorem bcdValidatePlmn_octets {p1 p2 p3 : UInt8} {rest : Bytes}
    (hthird : highDigit p2 ≤ 9 ∨ highDigit p2 = 0x0F) :
    bcdValidatePlmn (p1 :: p2 :: p3 :: rest) = true ↔
      bcdValidateStrict p1 = true ∧ lowDigit p2 ≤ 9 ∧ bcdValidateStrict p3 = true := by
  have hhigh : (p2 >>> 4) &&& 0x0F = highDigit p2 := shiftRight_four_and p2
  simp only [bcdValidatePlmn, Bool.and_eq_true, Bool.or_eq_true, decide_eq_true_eq]
  simp only [octet_cons_zero, octet_cons_succ, hhigh, hthird, and_true, lowDigit, and_assoc]

/-- The check asks for digits in the MCC and in the first two places of the MNC, and for an
MSIN of an even number of digits. -/
theorem suciValidateBcd_iff {mcc mnc msin : Bytes} (hmcc : mcc.length = 3)
    (hmnc : mnc.length = 2 ∨ mnc.length = 3) :
    suciValidateBcd (suciOctets mcc mnc msin) = true ↔
      mcc.all isDigit = true ∧ (mnc.take 2).all isDigit = true ∧
        msin.all isDigit = true ∧ msin.length % 2 = 0 := by
  have hall : mcc.all isDigit = true ↔ isDigit (octet mcc 0) = true ∧
      isDigit (octet mcc 1) = true ∧ isDigit (octet mcc 2) = true := by
    match mcc, hmcc with
    | [c1, c2, c3], _ => simp
  have hthird : ∀ a, highDigit (bcdPack a (if mnc.length = 3 then digitVal (octet mnc 2) else none))
      ≤ 9 ∨ highDigit (bcdPack a (if mnc.length = 3 then digitVal (octet mnc 2) else none))
      = 0x0F := by
    intro a
    rw [highDigit_bcdPack]
    split
    · exact semiOctet_third _
    · exact .inr rfl
  have hzero : bcdValidateStrict 0x00 = true := by decide
  have htake : (mnc.take 2).all isDigit = true ↔
      isDigit (octet mnc 0) = true ∧ isDigit (octet mnc 1) = true := by
    match mnc, hmnc with
    | [d1, d2], _ => simp
    | [d1, d2, d3], _ => simp
  simp only [suciValidateBcd, suciOctets, List.cons_append, List.nil_append, List.drop_succ_cons,
    List.drop_zero, octet_cons_succ, octet_cons_zero, hzero, Bool.and_true, Bool.and_eq_true,
    bcdValidatePlmn_octets (hthird _), bcdValidateStrict_digits, lowDigit_bcdPack,
    semiOctet_le_iff, encodeMsin_strict_iff, hall, htake, and_assoc]

/-- Which arguments are accepted, and what is written for them. -/
theorem ueNasEncodeSuci_pdu (bufLen : Nat) (imsi mcc mnc suci : Bytes) :
    (ueNasEncodeSuci bufLen imsi mcc mnc).pdu? = some suci ↔
      SuciShape bufLen imsi mcc mnc ∧
        (mcc.all isDigit = true ∧ (mnc.take 2).all isDigit = true ∧
          (msinOf imsi mcc mnc).all isDigit = true ∧ (msinOf imsi mcc mnc).length % 2 = 0) ∧
        suci = suciOctets mcc mnc (msinOf imsi mcc mnc) := by
  by_cases hshape : SuciShape bufLen imsi mcc mnc
  · rw [← suciValidateBcd_iff hshape.mccLen hshape.mncLen, ueNasEncodeSuci_of_shape hshape,
      Encoded.pdu?]
    simp only [hshape, true_and]
    split
    · rename_i hok
      simp only [Option.some.injEq, hok, true_and, eq_comm]
    · rename_i hok
      simp only [reduceCtorEq, hok, false_and, Bool.false_eq_true]
  · rw [ueNasEncodeSuci_of_not_shape hshape]
    simp [Encoded.refused, Encoded.pdu?, hshape]

theorem ueNasEncodeSuci_none (bufLen : Nat) (imsi mcc mnc : Bytes) :
    (ueNasEncodeSuci bufLen imsi mcc mnc).pdu? = none ↔
      ¬ (SuciShape bufLen imsi mcc mnc ∧ mcc.all isDigit = true ∧
        (mnc.take 2).all isDigit = true ∧ (msinOf imsi mcc mnc).all isDigit = true ∧
        (msinOf imsi mcc mnc).length % 2 = 0) := by
  rw [Option.eq_none_iff_forall_not_mem]
  constructor
  · rintro h ⟨hshape, hdigits⟩
    exact h _ ((ueNasEncodeSuci_pdu bufLen imsi mcc mnc _).mpr ⟨hshape, hdigits, rfl⟩)
  · intro h suci hsuci
    obtain ⟨hshape, hdigits, -⟩ := (ueNasEncodeSuci_pdu bufLen imsi mcc mnc suci).mp hsuci
    exact h ⟨hshape, hdigits⟩

/-- The layout is right for digits, with an MSIN of either parity. -/
theorem suciDecode_suciOctets {mcc mnc msin : Bytes} (hmcc : mcc.length = 3)
    (hmnc : mnc.length = 2 ∨ mnc.length = 3) (hmccDigits : mcc.all isDigit = true)
    (hmncDigits : mnc.all isDigit = true) (hmsin : msin.all isDigit = true) :
    suciDecode (suciOctets mcc mnc msin) = some { mcc, mnc, msin } := by
  have hfiller : digitOrFiller (semiOctet none) = some [] := rfl
  have hkind : (0x01 : UInt8) &&& 0x07 = 0x01 ∧ (0x01 : UInt8) &&& 0x70 = 0x00 := by decide
  match mcc, hmcc with
  | [c1, c2, c3], _ =>
    simp only [List.all_cons, List.all_nil, Bool.and_true, Bool.and_eq_true] at hmccDigits
    obtain ⟨h1, h2, h3⟩ := hmccDigits
    match mnc, hmnc with
    | [d1, d2], _ =>
      simp only [List.all_cons, List.all_nil, Bool.and_true, Bool.and_eq_true] at hmncDigits
      obtain ⟨k1, k2⟩ := hmncDigits
      simp [suciDecode, suciOctets, hkind, digitChar_semiOctet h1, digitChar_semiOctet h2,
        digitChar_semiOctet h3, digitChar_semiOctet k1, digitChar_semiOctet k2, hfiller,
        decodeDigits_encodeMsin hmsin]
    | [d1, d2, d3], _ =>
      simp only [List.all_cons, List.all_nil, Bool.and_true, Bool.and_eq_true] at hmncDigits
      obtain ⟨k1, k2, k3⟩ := hmncDigits
      simp [suciDecode, suciOctets, hkind, digitChar_semiOctet h1, digitChar_semiOctet h2,
        digitChar_semiOctet h3, digitChar_semiOctet k1, digitChar_semiOctet k2,
        digitOrFiller_semiOctet k3, decodeDigits_encodeMsin hmsin]

/-! ## Total and faithful -/

/-- An IMSI of six to fifteen digits that starts with the MCC and the MNC. -/
structure ValidIdentity (imsi mcc mnc : Bytes) : Prop where
  digits : imsi.all isDigit = true
  len : 6 ≤ imsi.length ∧ imsi.length ≤ 15
  mccLen : mcc.length = 3
  mncLen : mnc.length = 2 ∨ mnc.length = 3
  starts : mcc ++ mnc <+: imsi

/-- A valid identity is encoded and read back; an argument with a non-digit is refused. -/
structure SuciFaithful (bufLen : Nat) (imsi mcc mnc : Bytes) : Prop where
  total : ValidIdentity imsi mcc mnc → 8 + ((msinOf imsi mcc mnc).length + 1) / 2 ≤ bufLen →
    ∃ suci, (ueNasEncodeSuci bufLen imsi mcc mnc).pdu? = some suci ∧
      suciDecode suci = some { mcc, mnc, msin := msinOf imsi mcc mnc }
  refuses : ¬ (mcc.all isDigit = true ∧ mnc.all isDigit = true ∧
      (msinOf imsi mcc mnc).all isDigit = true) →
    (ueNasEncodeSuci bufLen imsi mcc mnc).pdu? = none

/-- An MSIN of an odd number of digits. -/
def OddMsin (bufLen : Nat) (imsi mcc mnc : Bytes) : Prop :=
  ValidIdentity imsi mcc mnc ∧ 8 + ((msinOf imsi mcc mnc).length + 1) / 2 ≤ bufLen ∧
    (msinOf imsi mcc mnc).length % 2 = 1

/-- A third MNC character that is no digit, with nothing else to refuse. -/
def ThirdMncNoDigit (bufLen : Nat) (imsi mcc mnc : Bytes) : Prop :=
  SuciShape bufLen imsi mcc mnc ∧ mcc.all isDigit = true ∧ (mnc.take 2).all isDigit = true ∧
    mnc.all isDigit = false ∧ (msinOf imsi mcc mnc).all isDigit = true ∧
    (msinOf imsi mcc mnc).length % 2 = 0

theorem ValidIdentity.shape {bufLen : Nat} {imsi mcc mnc : Bytes}
    (h : ValidIdentity imsi mcc mnc)
    (hroom : 8 + ((msinOf imsi mcc mnc).length + 1) / 2 ≤ bufLen) :
    SuciShape bufLen imsi mcc mnc where
  mccLen := h.mccLen
  mncLen := h.mncLen
  imsiLen := by
    have hle := h.starts.length_le
    rwa [List.length_append] at hle
  room := hroom

theorem ValidIdentity.all_digits {imsi mcc mnc : Bytes} (h : ValidIdentity imsi mcc mnc) :
    mcc.all isDigit = true ∧ mnc.all isDigit = true ∧
      (msinOf imsi mcc mnc).all isDigit = true := by
  obtain ⟨msin, rfl⟩ := h.starts
  have hmsin : msinOf (mcc ++ mnc ++ msin) mcc mnc = msin := by
    rw [msinOf, ← List.length_append, List.drop_left]
  have hdigits := h.digits
  rw [List.all_append, List.all_append, Bool.and_eq_true, Bool.and_eq_true] at hdigits
  rw [hmsin]
  exact ⟨hdigits.1.1, hdigits.1.2, hdigits.2⟩

theorem all_take_of_all {p : UInt8 → Bool} {b : Bytes} (h : b.all p = true) (n : Nat) :
    (b.take n).all p = true := by
  rw [List.all_eq_true] at h ⊢
  exact fun x hx => h x (List.mem_of_mem_take hx)

/-- The encoder is total and faithful except on an odd MSIN and on a third MNC character that
is no digit. -/
theorem suciFaithful_iff (bufLen : Nat) (imsi mcc mnc : Bytes) :
    SuciFaithful bufLen imsi mcc mnc ↔
      ¬ OddMsin bufLen imsi mcc mnc ∧ ¬ ThirdMncNoDigit bufLen imsi mcc mnc := by
  constructor
  · intro h
    constructor
    · rintro ⟨hvalid, hroom, hodd⟩
      obtain ⟨suci, hpdu, -⟩ := h.total hvalid hroom
      obtain ⟨-, ⟨-, -, -, heven⟩, -⟩ := (ueNasEncodeSuci_pdu ..).mp hpdu
      omega
    · rintro ⟨hshape, hmcc, hmnc, hthird, hmsin, heven⟩
      have hrefused := h.refuses (by simp [hthird])
      exact (ueNasEncodeSuci_none ..).mp hrefused ⟨hshape, hmcc, hmnc, hmsin, heven⟩
  · rintro ⟨hodd, hthird⟩
    refine ⟨fun hvalid hroom => ?_, fun hdigits => ?_⟩
    · have heven : (msinOf imsi mcc mnc).length % 2 = 0 := by
        by_contra hne
        exact hodd ⟨hvalid, hroom, by omega⟩
      obtain ⟨hmcc, hmnc, hmsin⟩ := hvalid.all_digits
      exact ⟨_, (ueNasEncodeSuci_pdu ..).mpr
        ⟨hvalid.shape hroom, ⟨hmcc, all_take_of_all hmnc 2, hmsin, heven⟩, rfl⟩,
        suciDecode_suciOctets hvalid.mccLen hvalid.mncLen hmcc hmnc hmsin⟩
    · rw [ueNasEncodeSuci_none]
      rintro ⟨hshape, hmcc, hmnc, hmsin, heven⟩
      refine hthird ⟨hshape, hmcc, hmnc, ?_, hmsin, heven⟩
      cases hall : mnc.all isDigit with
      | true => exact absurd ⟨hmcc, hall, hmsin⟩ hdigits
      | false => rfl

/-- IMSI 310410 123456789, whose MNC has three digits and whose MSIN has nine. -/
def oddImsi : Bytes :=
  [0x33, 0x31, 0x30, 0x34, 0x31, 0x30, 0x31, 0x32, 0x33, 0x34, 0x35, 0x36, 0x37, 0x38, 0x39]

/-- It is refused. -/
theorem suci_odd_msin_refused : ¬ ∀ bufLen imsi mcc mnc, SuciFaithful bufLen imsi mcc mnc := by
  intro h
  have hvalid : ValidIdentity oddImsi [0x33, 0x31, 0x30] [0x34, 0x31, 0x30] :=
    ⟨by decide, by decide, by decide, by decide, ⟨_, rfl⟩⟩
  obtain ⟨suci, hpdu, -⟩ := (h 64 _ _ _).total hvalid (by decide)
  have hnone : (ueNasEncodeSuci 64 oddImsi [0x33, 0x31, 0x30] [0x34, 0x31, 0x30]).pdu? = none := by
    decide +kernel
  cases hnone.symm.trans hpdu

end VirtualLte.Nas
