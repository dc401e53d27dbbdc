import VirtualLte.Crypto.Fips180
import VirtualLte.Crypto.Ts33220

/-!
# The key chain of TS 33.501 Annex A

KAUSF, KSEAF, KAMF, the two NAS keys and RES*, each as an HMAC over the string of its clause.
-/

namespace VirtualLte.Crypto

open Ts33220

namespace Ts33501

def kdf (key : Bytes) (fc : UInt8) (ps : List Bytes) : Bytes :=
  Rfc2104.hmac Fips180.hash key (string fc ps)

/-- A.2, from `CK || IK`, the serving network name and `SQN xor AK`. -/
def kausf (ckIk snn sqnXorAk : Bytes) : Bytes := kdf ckIk 0x6A [snn, sqnXorAk]

/-- A.4: the 128 least significant bits. -/
def resStar (ckIk snn rand res : Bytes) : Bytes := (kdf ckIk 0x6B [snn, rand, res]).drop 16

/-- A.6 -/
def kseaf (kausf snn : Bytes) : Bytes := kdf kausf 0x6C [snn]

/-- A.7 -/
def kamf (kseaf supi abba : Bytes) : Bytes := kdf kseaf 0x6D [supi, abba]

/-- A.8: the 128 least significant bits. -/
def algorithmKey (kamf : Bytes) (distinguisher identity : UInt8) : Bytes :=
  (kdf kamf 0x69 [[distinguisher], [identity]]).drop 16

end Ts33501

/-- The HMAC over an assembled string is the KDF of the standard, for parameters that are not
empty and fit into the buffer of the string. -/
theorem hmac_kdfString (key : Bytes) (fc : UInt8) {ps : List Bytes} (hmem : [] ∉ ps)
    (hfits : 1 + (ps.map (·.length + 2)).sum ≤ 512) :
    (ueHmacSha256 key (kdfString fc ps)).toList = Ts33501.kdf key fc ps := by
  have hps : ShortParams ps := fun p hp => by
    have hle : p.length + 2 ≤ (ps.map (·.length + 2)).sum :=
      List.single_le_sum (fun _ _ => Nat.zero_le _) _ (List.mem_map_of_mem (f := (·.length + 2)) hp)
    omega
  rw [ueHmacSha256_of_le, (kdfString_eq_string_iff fc hps).mpr hmem, Ts33501.kdf]
  rw [kdfString_length fc hps hmem]
  exact Nat.le_trans hfits (by decide)

theorem toList_lowHalf (k : Key256) : (lowHalf k).toList = k.toList.drop 16 := by
  rw [lowHalf, toList_vecOf (by simp)]

variable (ck ik : Block) (ak : Vector UInt8 6) (rand : Block) (res : Vector UInt8 8)
  (sqn : Vector UInt8 6) (snn supi abba : Bytes) (intAlgId encAlgId : UInt8)

theorem toList_knasIntOf (kamf : Key256) :
    (knasIntOf kamf intAlgId).toList = Ts33501.algorithmKey kamf.toList 0x02 intAlgId := by
  rw [knasIntOf, toList_lowHalf, ue3gppKdf_eq, hmac_kdfString _ _ (by simp) (by simp)]
  rfl

theorem toList_knasEncOf (kamf : Key256) :
    (knasEncOf kamf encAlgId).toList = Ts33501.algorithmKey kamf.toList 0x01 encAlgId := by
  rw [knasEncOf, toList_lowHalf, ue3gppKdf_eq, hmac_kdfString _ _ (by simp) (by simp)]
  rfl

/-- The keys of a challenge are those of Annex A; each NAS key depends on its own algorithm
only, and deriving the two again from KAMF gives them back. -/
theorem ueNasDeriveKeys_ts33501 (hsnn : 1 ≤ snn.length ∧ snn.length ≤ 95)
    (hsupi : 1 ≤ supi.length ∧ supi.length ≤ 95) (habba : 1 ≤ abba.length ∧ abba.length ≤ 16) :
    (∀ enc, (ueNasDeriveKeys ck ik ak rand res sqn snn supi abba intAlgId enc).knasInt =
      (ueNasDeriveKeys ck ik ak rand res sqn snn supi abba intAlgId encAlgId).knasInt) ∧
    (∀ int, (ueNasDeriveKeys ck ik ak rand res sqn snn supi abba int encAlgId).knasEnc =
      (ueNasDeriveKeys ck ik ak rand res sqn snn supi abba intAlgId encAlgId).knasEnc) ∧
    let keys := ueNasDeriveKeys ck ik ak rand res sqn snn supi abba intAlgId encAlgId
    let ckIk := ck.toList ++ ik.toList
    let kausf := Ts33501.kausf ckIk snn (Vector.zipWith (· ^^^ ·) sqn ak).toList
    let kseaf := Ts33501.kseaf kausf snn
    let kamf := Ts33501.kamf kseaf supi abba
    keys.kausf.toList = kausf ∧ keys.kseaf.toList = kseaf ∧ keys.kamf.toList = kamf ∧
      keys.knasInt.toList = Ts33501.algorithmKey kamf 0x02 intAlgId ∧
      keys.knasEnc.toList = Ts33501.algorithmKey kamf 0x01 encAlgId ∧
      keys.resStar.toList = Ts33501.resStar ckIk snn rand.toList res.toList ∧
      ueNasDeriveKnasFromKamf keys.kamf intAlgId encAlgId = (keys.knasInt, keys.knasEnc) := by
  refine ⟨fun _ => rfl, fun _ => rfl, ?_⟩
  intro keys ckIk kausf kseaf kamf
  obtain ⟨hsnn0, hsnn⟩ := hsnn
  obtain ⟨hsupi0, hsupi⟩ := hsupi
  obtain ⟨habba0, habba⟩ := habba
  have hsnnNe : ([] : Bytes) ≠ snn := by rintro rfl; simp at hsnn0
  have hsupiNe : ([] : Bytes) ≠ supi := by rintro rfl; simp at hsupi0
  have habbaNe : ([] : Bytes) ≠ abba := by rintro rfl; simp at habba0
  have hkausf : keys.kausf.toList = kausf := by
    refine (congrArg Vector.toList (ue3gppKdf_eq ..)).trans (hmac_kdfString _ _ ?_ ?_)
    · simp [hsnnNe, ← List.length_eq_zero_iff]
    · simp
      omega
  have hkseaf : keys.kseaf.toList = kseaf := by
    have hstring : kdfString 0x6C [snn, []] = kdfString 0x6C [snn] := by simp [kdfString, kdfParam]
    refine (congrArg Vector.toList (ue3gppKdf_eq ..)).trans ?_
    rw [hstring]
    change (ueHmacSha256 keys.kausf.toList _).toList = _
    rw [hkausf]
    refine hmac_kdfString _ _ (by simp [hsnnNe]) ?_
    simp
    omega
  have hkamf : keys.kamf.toList = kamf := by
    refine (congrArg Vector.toList (ue3gppKdf_eq ..)).trans ?_
    change (ueHmacSha256 keys.kseaf.toList _).toList = _
    rw [hkseaf]
    refine hmac_kdfString _ _ (by simp [hsupiNe, habbaNe]) ?_
    simp
    omega
  have hresStar : keys.resStar.toList = Ts33501.resStar ckIk snn rand.toList res.toList := by
    refine (toList_lowHalf _).trans (congrArg (List.drop 16) ?_)
    refine (congrArg Vector.toList (kdf3p_eq ..)).trans (hmac_kdfString _ _ ?_ ?_)
    · simp [hsnnNe, ← List.length_eq_zero_iff]
    · simp
      omega
  exact ⟨hkausf, hkseaf, hkamf, hkamf ▸ toList_knasIntOf intAlgId keys.kamf,
    hkamf ▸ toList_knasEncOf encAlgId keys.kamf, hresStar, rfl⟩

/-- The integrity key of a subscriber in the test network, under 128-NIA2. -/
theorem ueNasDeriveKeys_ts33501_nia2 :
    let text (s : String) : Bytes := s.toList.map fun c => UInt8.ofNat c.toNat
    let snn := text "5G:mnc001.mcc001.3gppnetwork.org"
    let kausf := Ts33501.kausf (zeroBlock.toList ++ zeroBlock.toList) snn
      (Vector.zipWith (· ^^^ ·) (vecOf 6 [1]) (vecOf 6 [2])).toList
    (ueNasDeriveKeys zeroBlock zeroBlock (vecOf 6 [2]) zeroBlock (vecOf 8 []) (vecOf 6 [1]) snn
        (text "001010000000001") [0, 0] 2 0).knasInt.toList =
      Ts33501.algorithmKey (Ts33501.kamf (Ts33501.kseaf kausf snn)
        (text "001010000000001") [0, 0]) 0x02 2 :=
  (ueNasDeriveKeys_ts33501 zeroBlock zeroBlock (vecOf 6 [2]) zeroBlock (vecOf 8 []) (vecOf 6 [1])
    _ _ [0, 0] 2 0 (by decide +kernel) (by decide +kernel) (by decide)).2.2.2.2.2.1

end VirtualLte.Crypto
