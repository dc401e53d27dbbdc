import VirtualLte.Crypto.Aes
import VirtualLte.Crypto.Sha256

/-!
# Milenage and the 5G key hierarchy

* **Milenage** f1–f5* turns a challenge into MAC-A, RES, CK, IK and AK.
* **The key hierarchy** runs CK‖IK down to KAUSF, KSEAF, KAMF and the two NAS
  keys through the 3GPP key derivation function.
-/

namespace VirtualLte.Crypto

/-- A 256-bit key. -/
abbrev Key256 := Vector UInt8 32

/-! ## Milenage -/

structure UeMilenageResult where
  res : Vector UInt8 8
  ck : Block
  ik : Block
  ak : Vector UInt8 6
  akStar : Vector UInt8 6
  macA : Vector UInt8 8
  macS : Vector UInt8 8
  deriving DecidableEq, Repr

/-- A result buffer after `memset`. -/
def UeMilenageResult.zero : UeMilenageResult where
  res := Vector.replicate 8 0
  ck := zeroBlock
  ik := zeroBlock
  ak := Vector.replicate 6 0
  akStar := Vector.replicate 6 0
  macA := Vector.replicate 8 0
  macS := Vector.replicate 8 0

def milenageRotate (a : Block) (r : Nat) : Block :=
  Vector.ofFn fun i => octet a.toList ((i.val + r) % 16)

@[irreducible] def ueMilenageCompute (opc k rand : Block) (sqn : Vector UInt8 6)
    (amf : Vector UInt8 2) : UeMilenageResult :=
  let temp := ueAes128EcbEncrypt k (xorBlock rand opc)
  let in1 : Block := vecOf 16 (sqn.toList ++ amf.toList ++ sqn.toList ++ amf.toList)
  let out1 := xorBlock
    (ueAes128EcbEncrypt k (xorBlock (milenageRotate (xorBlock in1 opc) 8) temp)) opc
  let core := xorBlock temp opc
  let out2 := xorBlock (ueAes128EcbEncrypt k (xorLast core 0x01)) opc
  let out5 := xorBlock (ueAes128EcbEncrypt k (xorLast (milenageRotate core 12) 0x08)) opc
  { macA := vecOf 8 out1.toList
    macS := vecOf 8 (out1.toList.drop 8)
    ak := vecOf 6 out2.toList
    res := vecOf 8 (out2.toList.drop 8)
    ck := xorBlock (ueAes128EcbEncrypt k (xorLast (milenageRotate core 4) 0x02)) opc
    ik := xorBlock (ueAes128EcbEncrypt k (xorLast (milenageRotate core 8) 0x04)) opc
    akStar := vecOf 6 out5.toList }

/-- RES, CK, IK, AK and AK* do not depend on the sequence number or the AMF. -/
theorem ueMilenageCompute_ak_eq (opc k rand : Block) (sqn sqn' : Vector UInt8 6)
    (amf amf' : Vector UInt8 2) :
    (ueMilenageCompute opc k rand sqn amf).ak =
      (ueMilenageCompute opc k rand sqn' amf').ak := by
  unfold ueMilenageCompute
  rfl

/-! ## The functions of TS 35.206

f1, f1*, f5 and f5* as the standard defines them, over any block cipher `e` under the
subscriber's key.  Rotations are by octets. -/

section Ts35206

variable (e : Block → Block) (opc rand : Block)

def milenageTemp : Block := e (xorBlock rand opc)

/-- f1: the network's authentication code over SQN, RAND and AMF. -/
def milenageF1 (sqn : Vector UInt8 6) (amf : Vector UInt8 2) : Vector UInt8 8 :=
  let in1 : Block := vecOf 16 (sqn.toList ++ amf.toList ++ sqn.toList ++ amf.toList)
  vecOf 8 (xorBlock (e (xorBlock (xorBlock (milenageTemp e opc rand)
    (milenageRotate (xorBlock in1 opc) 8)) zeroBlock)) opc).toList

/-- f5: the anonymity key. -/
def milenageF5 : Vector UInt8 6 :=
  vecOf 6 (xorBlock (e (xorLast (milenageRotate (xorBlock (milenageTemp e opc rand) opc) 0)
    0x01)) opc).toList

/-- f1*: the subscriber's code for a resynchronisation, the other half of what f1 computes. -/
def milenageF1Star (sqn : Vector UInt8 6) (amf : Vector UInt8 2) : Vector UInt8 8 :=
  let in1 : Block := vecOf 16 (sqn.toList ++ amf.toList ++ sqn.toList ++ amf.toList)
  vecOf 8 ((xorBlock (e (xorBlock (xorBlock (milenageTemp e opc rand)
    (milenageRotate (xorBlock in1 opc) 8)) zeroBlock)) opc).toList.drop 8)

/-- f5*: the anonymity key for a resynchronisation. -/
def milenageF5Star : Vector UInt8 6 :=
  vecOf 6 (xorBlock (e (xorLast (milenageRotate (xorBlock (milenageTemp e opc rand) opc) 12)
    0x08)) opc).toList

end Ts35206

theorem xorBlock_comm (a b : Block) : xorBlock a b = xorBlock b a := by
  ext i hi
  simp [xorBlock, UInt8.xor_comm]

theorem xorBlock_zero (a : Block) : xorBlock a zeroBlock = a := by
  ext i hi
  simp [xorBlock, zeroBlock]

theorem milenageRotate_zero (a : Block) : milenageRotate a 0 = a := by
  ext i hi
  simp [milenageRotate, octet, Nat.mod_eq_of_lt hi, hi]

/-- The MAC-A of the source is f1. -/
theorem ueMilenageCompute_macA (opc k rand : Block) (sqn : Vector UInt8 6) (amf : Vector UInt8 2) :
    (ueMilenageCompute opc k rand sqn amf).macA =
      milenageF1 (ueAes128EcbEncrypt k) opc rand sqn amf := by
  unfold ueMilenageCompute milenageF1 milenageTemp
  dsimp only
  rw [xorBlock_zero, xorBlock_comm (ueAes128EcbEncrypt k (xorBlock rand opc))]

/-- And its AK is f5. -/
theorem ueMilenageCompute_ak (opc k rand : Block) (sqn : Vector UInt8 6) (amf : Vector UInt8 2) :
    (ueMilenageCompute opc k rand sqn amf).ak =
      milenageF5 (ueAes128EcbEncrypt k) opc rand := by
  unfold ueMilenageCompute milenageF5 milenageTemp
  dsimp only
  rw [milenageRotate_zero]

theorem ueMilenageCompute_macS (opc k rand : Block) (sqn : Vector UInt8 6) (amf : Vector UInt8 2) :
    (ueMilenageCompute opc k rand sqn amf).macS =
      milenageF1Star (ueAes128EcbEncrypt k) opc rand sqn amf := by
  unfold ueMilenageCompute milenageF1Star milenageTemp
  dsimp only
  rw [xorBlock_zero, xorBlock_comm (ueAes128EcbEncrypt k (xorBlock rand opc))]

theorem ueMilenageCompute_akStar (opc k rand : Block) (sqn : Vector UInt8 6)
    (amf : Vector UInt8 2) :
    (ueMilenageCompute opc k rand sqn amf).akStar =
      milenageF5Star (ueAes128EcbEncrypt k) opc rand := by
  unfold ueMilenageCompute milenageF5Star milenageTemp
  rfl

/-! ## Key derivation -/

/-- One KDF parameter with its length.  A zero-length parameter is left out
altogether, which is how the source treats an absent one. -/
def kdfParam (p : Bytes) : Bytes :=
  let l := UInt16.ofNat p.length
  if l > 0 then p.take l.toNat ++ [(l >>> 8).toUInt8, l.toUInt8] else []

def ue3gppKdf (key : Bytes) (fc : UInt8) (p0 p1 : Bytes) : Key256 :=
  ueHmacSha256 key (fc :: (kdfParam p0 ++ kdfParam p1))

def kdf3p (key : Bytes) (fc : UInt8) (p0 p1 p2 : Bytes) : Key256 :=
  ueHmacSha256 key (fc :: (kdfParam p0 ++ kdfParam p1 ++ kdfParam p2))

structure UeNasKeys where
  kausf : Key256
  kseaf : Key256
  kamf : Key256
  knasInt : Block
  knasEnc : Block
  resStar : Block
  deriving DecidableEq, Repr

def UeNasKeys.zero : UeNasKeys where
  kausf := Vector.replicate 32 0
  kseaf := Vector.replicate 32 0
  kamf := Vector.replicate 32 0
  knasInt := zeroBlock
  knasEnc := zeroBlock
  resStar := zeroBlock

/-- The second half of a derived key. -/
def lowHalf (k : Key256) : Block := vecOf 16 (k.toList.drop 16)

/-- KNASint of a KAMF: type distinguisher 2. -/
def knasIntOf (kamf : Key256) (intAlgId : UInt8) : Block :=
  lowHalf (ue3gppKdf kamf.toList 0x69 [0x02] [intAlgId])

/-- KNASenc of a KAMF: type distinguisher 1. -/
def knasEncOf (kamf : Key256) (encAlgId : UInt8) : Block :=
  lowHalf (ue3gppKdf kamf.toList 0x69 [0x01] [encAlgId])

/-- The pair `(knas_int, knas_enc)`. -/
def ueNasDeriveKnasFromKamf (kamf : Key256) (intAlgId encAlgId : UInt8) : Block × Block :=
  (knasIntOf kamf intAlgId, knasEncOf kamf encAlgId)

def ueNasDeriveKeys (ck ik : Block) (ak : Vector UInt8 6) (rand : Block)
    (res : Vector UInt8 8) (sqn : Vector UInt8 6) (snn supi abba : Bytes)
    (intAlgId encAlgId : UInt8) : UeNasKeys :=
  let ckIk := ck.toList ++ ik.toList
  let sqnXorAk := Vector.zipWith (· ^^^ ·) sqn ak
  let kausf := ue3gppKdf ckIk 0x6A snn sqnXorAk.toList
  let kseaf := ue3gppKdf kausf.toList 0x6C snn []
  let kamf := ue3gppKdf kseaf.toList 0x6D supi abba
  { kausf, kseaf, kamf
    knasEnc := knasEncOf kamf encAlgId
    knasInt := knasIntOf kamf intAlgId
    resStar := lowHalf (kdf3p ckIk 0x6B snn rand.toList res.toList) }

end VirtualLte.Crypto
