import VirtualLte.Bytes

/-!
# AES-128, CMAC and CTR

The block cipher of the NAS security module and the two modes it is used in.

* **ECB** is the only primitive; Milenage, CMAC and CTR are built on it.
* **CMAC** gives NIA2 its MAC.
* **CTR** gives NEA2 its keystream.

The proofs about NAS depend on which key, COUNT and octets the cipher is given, never on
what it computes.
-/

namespace VirtualLte.Crypto

/-- A 128-bit block, and a 128-bit key. -/
abbrev Block := Vector UInt8 16

def xorBlock (a b : Block) : Block := Vector.zipWith (· ^^^ ·) a b

def zeroBlock : Block := Vector.replicate 16 0

/-! ## The cipher -/

def aesSbox : Bytes := [
  0x63, 0x7c, 0x77, 0x7b, 0xf2, 0x6b, 0x6f, 0xc5, 0x30, 0x01, 0x67, 0x2b, 0xfe, 0xd7, 0xab, 0x76,
  0xca, 0x82, 0xc9, 0x7d, 0xfa, 0x59, 0x47, 0xf0, 0xad, 0xd4, 0xa2, 0xaf, 0x9c, 0xa4, 0x72, 0xc0,
  0xb7, 0xfd, 0x93, 0x26, 0x36, 0x3f, 0xf7, 0xcc, 0x34, 0xa5, 0xe5, 0xf1, 0x71, 0xd8, 0x31, 0x15,
  0x04, 0xc7, 0x23, 0xc3, 0x18, 0x96, 0x05, 0x9a, 0x07, 0x12, 0x80, 0xe2, 0xeb, 0x27, 0xb2, 0x75,
  0x09, 0x83, 0x2c, 0x1a, 0x1b, 0x6e, 0x5a, 0xa0, 0x52, 0x3b, 0xd6, 0xb3, 0x29, 0xe3, 0x2f, 0x84,
  0x53, 0xd1, 0x00, 0xed, 0x20, 0xfc, 0xb1, 0x5b, 0x6a, 0xcb, 0xbe, 0x39, 0x4a, 0x4c, 0x58, 0xcf,
  0xd0, 0xef, 0xaa, 0xfb, 0x43, 0x4d, 0x33, 0x85, 0x45, 0xf9, 0x02, 0x7f, 0x50, 0x3c, 0x9f, 0xa8,
  0x51, 0xa3, 0x40, 0x8f, 0x92, 0x9d, 0x38, 0xf5, 0xbc, 0xb6, 0xda, 0x21, 0x10, 0xff, 0xf3, 0xd2,
  0xcd, 0x0c, 0x13, 0xec, 0x5f, 0x97, 0x44, 0x17, 0xc4, 0xa7, 0x7e, 0x3d, 0x64, 0x5d, 0x19, 0x73,
  0x60, 0x81, 0x4f, 0xdc, 0x22, 0x2a, 0x90, 0x88, 0x46, 0xee, 0xb8, 0x14, 0xde, 0x5e, 0x0b, 0xdb,
  0xe0, 0x32, 0x3a, 0x0a, 0x49, 0x06, 0x24, 0x5c, 0xc2, 0xd3, 0xac, 0x62, 0x91, 0x95, 0xe4, 0x79,
  0xe7, 0xc8, 0x37, 0x6d, 0x8d, 0xd5, 0x4e, 0xa9, 0x6c, 0x56, 0xf4, 0xea, 0x65, 0x7a, 0xae, 0x08,
  0xba, 0x78, 0x25, 0x2e, 0x1c, 0xa6, 0xb4, 0xc6, 0xe8, 0xdd, 0x74, 0x1f, 0x4b, 0xbd, 0x8b, 0x8a,
  0x70, 0x3e, 0xb5, 0x66, 0x48, 0x03, 0xf6, 0x0e, 0x61, 0x35, 0x57, 0xb9, 0x86, 0xc1, 0x1d, 0x9e,
  0xe1, 0xf8, 0x98, 0x11, 0x69, 0xd9, 0x8e, 0x94, 0x9b, 0x1e, 0x87, 0xe9, 0xce, 0x55, 0x28, 0xdf,
  0x8c, 0xa1, 0x89, 0x0d, 0xbf, 0xe6, 0x42, 0x68, 0x41, 0x99, 0x2d, 0x0f, 0xb0, 0x54, 0xbb, 0x16]

def aesRcon : Bytes :=
  [0x00, 0x01, 0x02, 0x04, 0x08, 0x10, 0x20, 0x40, 0x80, 0x1b, 0x36]

def subByte (x : UInt8) : UInt8 := octet aesSbox x.toNat

/-- GF(2^8) doubling for MixColumns. -/
def gfMul2 (x : UInt8) : UInt8 :=
  (x <<< 1) ^^^ (if x &&& 0x80 ≠ 0 then 0x1b else 0x00)

/-- One turn of the key schedule: word `i` from words `i - 1` and `i - 4`. -/
def aesKeyExpansionWord (rk : Bytes) (i : Nat) : Bytes :=
  let t := fun k => octet rk ((i - 1) * 4 + k)
  let tmp : Bytes :=
    if i % 4 = 0 then
      [subByte (t 1) ^^^ octet aesRcon (i / 4), subByte (t 2), subByte (t 3), subByte (t 0)]
    else
      [t 0, t 1, t 2, t 3]
  rk ++ (List.range 4).map fun k => octet rk ((i - 4) * 4 + k) ^^^ octet tmp k

/-- The 176 octets of round keys. -/
def aesKeyExpansion (key : Block) : Bytes :=
  (List.range' 4 40).foldl aesKeyExpansionWord key.toList

def aesSubBytes (s : Block) : Block := s.map subByte

def aesShiftRows (s : Block) : Block :=
  #v[s[0], s[5], s[10], s[15], s[4], s[9], s[14], s[3],
     s[8], s[13], s[2], s[7], s[12], s[1], s[6], s[11]]

/-- `aes_shift_rows`, assignment by assignment. -/
def aesShiftRowsInPlace (s : Block) : Block :=
  -- row 1
  let t := s[1]
  let s := (((s.set 1 s[5]).set 5 s[9]).set 9 s[13]).set 13 t
  -- row 2
  let t := s[2]
  let s := (s.set 2 s[10]).set 10 t
  let t := s[6]
  let s := (s.set 6 s[14]).set 14 t
  -- row 3
  let t := s[15]
  (((s.set 15 s[11]).set 11 s[7]).set 7 s[3]).set 3 t

/-- The four octets MixColumns makes of one column. -/
def aesMixColumn (a0 a1 a2 a3 : UInt8) : UInt8 × UInt8 × UInt8 × UInt8 :=
  (gfMul2 a0 ^^^ gfMul2 a1 ^^^ a1 ^^^ a2 ^^^ a3,
   a0 ^^^ gfMul2 a1 ^^^ gfMul2 a2 ^^^ a2 ^^^ a3,
   a0 ^^^ a1 ^^^ gfMul2 a2 ^^^ gfMul2 a3 ^^^ a3,
   gfMul2 a0 ^^^ a0 ^^^ a1 ^^^ a2 ^^^ gfMul2 a3)

def aesMixColumns (s : Block) : Block :=
  let (b0, b1, b2, b3) := aesMixColumn s[0] s[1] s[2] s[3]
  let (b4, b5, b6, b7) := aesMixColumn s[4] s[5] s[6] s[7]
  let (b8, b9, b10, b11) := aesMixColumn s[8] s[9] s[10] s[11]
  let (b12, b13, b14, b15) := aesMixColumn s[12] s[13] s[14] s[15]
  #v[b0, b1, b2, b3, b4, b5, b6, b7, b8, b9, b10, b11, b12, b13, b14, b15]

/-- XOR with the sixteen octets of `rk` at offset `off`. -/
def aesAddRoundKey (s : Block) (rk : Bytes) (off : Nat) : Block :=
  xorBlock s (vecOf 16 (rk.drop off))

@[irreducible] def ueAes128EcbEncrypt (key input : Block) : Block :=
  let rk := aesKeyExpansion key
  let s := (List.range' 1 9).foldl
    (fun s r => aesAddRoundKey (aesMixColumns (aesShiftRows (aesSubBytes s))) rk (r * 16))
    (aesAddRoundKey input rk 0)
  aesAddRoundKey (aesShiftRows (aesSubBytes s)) rk 160

/-! ## CMAC -/

/-- XOR a constant into the last octet. -/
def xorLast (a : Block) (c : UInt8) : Block := a.set 15 (a[15] ^^^ c)

def cmacShifted (a : Block) : Block :=
  Vector.ofFn fun i => (a[i] <<< 1) ||| (if octet a.toList (i.val + 1) &&& 0x80 ≠ 0 then 1 else 0)

/-- Doubling in GF(2^128), most significant octet first. -/
def cmacShiftLeft (a : Block) : Block :=
  let shifted := cmacShifted a
  if a[0] &&& 0x80 ≠ 0 then shifted.set 15 (shifted[15] ^^^ 0x87) else shifted

/-- The last block of a message, completed and masked with a subkey. -/
def cmacLastBlock (k1 k2 : Block) (msg : Bytes) (n : Nat) : Block :=
  if msg.length ≠ 0 ∧ msg.length % 16 = 0 then
    xorBlock (vecOf 16 (msg.drop ((n - 1) * 16))) k1
  else
    xorBlock (vecOf 16 ((msg.drop ((n - 1) * 16)).take (msg.length % 16) ++ [0x80])) k2

@[irreducible] def ueAesCmac (key : Block) (msg : Bytes) : Block :=
  let k1 := cmacShiftLeft (ueAes128EcbEncrypt key zeroBlock)
  let k2 := cmacShiftLeft k1
  let n := if (msg.length + 15) / 16 = 0 then 1 else (msg.length + 15) / 16
  let x := (List.range (n - 1)).foldl
    (fun x i => ueAes128EcbEncrypt key (xorBlock x (vecOf 16 (msg.drop (i * 16))))) zeroBlock
  ueAes128EcbEncrypt key (xorBlock x (cmacLastBlock k1 k2 msg n))

/-- The first word of a CMAC, which NAS sends. -/
def macWord (mac : Block) : UInt32 := getBe32 mac[0] mac[1] mac[2] mac[3]

/-! ## CTR -/

/-- The counter is the last word of the block; it wraps without a carry. -/
def ctrIncrement (iv : Block) : Block :=
  let v := getBe32 iv[12] iv[13] iv[14] iv[15] + 1
  (((iv.set 12 (v >>> 24).toUInt8).set 13 (v >>> 16).toUInt8).set 14 (v >>> 8).toUInt8).set 15
    v.toUInt8

/-- The counter block at turn `i` of the loop. -/
def ctrBlock (iv : Block) : Nat → Block
  | 0 => iv
  | i + 1 => ctrIncrement (ctrBlock iv i)

/-- Octet `j` is masked with octet `j % 16` of keystream block `j / 16`. -/
@[irreducible] def aes128Ctr (key iv : Block) (data : Bytes) : Bytes :=
  data.mapIdx fun j x =>
    x ^^^ octet (ueAes128EcbEncrypt key (ctrBlock iv (j / 16))).toList (j % 16)

/-- CTR masks octet by octet, so the length is kept. -/
theorem aes128Ctr_length (key iv : Block) (data : Bytes) :
    (aes128Ctr key iv data).length = data.length := by
  unfold aes128Ctr
  simp

/-- Masking twice with one keystream gives the data back. -/
theorem aes128Ctr_aes128Ctr (key iv : Block) (data : Bytes) :
    aes128Ctr key iv (aes128Ctr key iv data) = data := by
  unfold aes128Ctr
  apply List.ext_getElem
  · simp
  · intro j h₁ h₂
    simp only [List.getElem_mapIdx, UInt8.xor_assoc, UInt8.xor_self, UInt8.xor_zero]

end VirtualLte.Crypto
