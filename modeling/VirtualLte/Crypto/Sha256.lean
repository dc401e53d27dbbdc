import VirtualLte.Bytes

/-!
# SHA-256 and HMAC-SHA-256

The hash under the 3GPP key derivation function.
-/

namespace VirtualLte.Crypto

/-- The chaining value. -/
abbrev HashState := Vector UInt32 8

def sha256K : Vector UInt32 64 := #v[
  0x428a2f98, 0x71374491, 0xb5c0fbcf, 0xe9b5dba5, 0x3956c25b, 0x59f111f1, 0x923f82a4, 0xab1c5ed5,
  0xd807aa98, 0x12835b01, 0x243185be, 0x550c7dc3, 0x72be5d74, 0x80deb1fe, 0x9bdc06a7, 0xc19bf174,
  0xe49b69c1, 0xefbe4786, 0x0fc19dc6, 0x240ca1cc, 0x2de92c6f, 0x4a7484aa, 0x5cb0a9dc, 0x76f988da,
  0x983e5152, 0xa831c66d, 0xb00327c8, 0xbf597fc7, 0xc6e00bf3, 0xd5a79147, 0x06ca6351, 0x14292967,
  0x27b70a85, 0x2e1b2138, 0x4d2c6dfc, 0x53380d13, 0x650a7354, 0x766a0abb, 0x81c2c92e, 0x92722c85,
  0xa2bfe8a1, 0xa81a664b, 0xc24b8b70, 0xc76c51a3, 0xd192e819, 0xd6990624, 0xf40e3585, 0x106aa070,
  0x19a4c116, 0x1e376c08, 0x2748774c, 0x34b0bcb5, 0x391c0cb3, 0x4ed8aa4a, 0x5b9cca4f, 0x682e6ff3,
  0x748f82ee, 0x78a5636f, 0x84c87814, 0x8cc70208, 0x90befffa, 0xa4506ceb, 0xbef9a3f7, 0xc67178f2]

def ror32 (x : UInt32) (n : UInt32) : UInt32 := (x >>> n) ||| (x <<< (32 - n))

/-- The message schedule, extended by its word `i`. -/
def sha256Schedule (w : List UInt32) (i : Nat) : List UInt32 :=
  let w15 := w.getD (i - 15) 0
  let w2 := w.getD (i - 2) 0
  let s0 := ror32 w15 7 ^^^ ror32 w15 18 ^^^ (w15 >>> 3)
  let s1 := ror32 w2 17 ^^^ ror32 w2 19 ^^^ (w2 >>> 10)
  w ++ [w.getD (i - 16) 0 + s0 + w.getD (i - 7) 0 + s1]

/-- One round on the working variables `a … h`. -/
def sha256Round (v : HashState) (kw : UInt32) : HashState :=
  let a := v[0]; let b := v[1]; let c := v[2]; let d := v[3]
  let e := v[4]; let f := v[5]; let g := v[6]; let hh := v[7]
  let bigS1 := ror32 e 6 ^^^ ror32 e 11 ^^^ ror32 e 25
  let ch := (e &&& f) ^^^ (~~~e &&& g)
  let t1 := hh + bigS1 + ch + kw
  let bigS0 := ror32 a 2 ^^^ ror32 a 13 ^^^ ror32 a 22
  let maj := (a &&& b) ^^^ (a &&& c) ^^^ (b &&& c)
  let t2 := bigS0 + maj
  #v[t1 + t2, a, b, c, d + t1, e, f, g]

def sha256Transform (h : HashState) (block : Bytes) : HashState :=
  let w0 := (List.range 16).map fun i =>
    getBe32 (octet block (i * 4)) (octet block (i * 4 + 1)) (octet block (i * 4 + 2))
      (octet block (i * 4 + 3))
  let w := (List.range' 16 48).foldl sha256Schedule w0
  let v := (List.range 64).foldl
    (fun v i => sha256Round v (sha256K.toList.getD i 0 + w.getD i 0)) h
  Vector.zipWith (· + ·) h v

def sha256Init : HashState :=
  #v[0x6a09e667, 0xbb67ae85, 0x3c6ef372, 0xa54ff53a,
     0x510e527f, 0x9b05688c, 0x1f83d9ab, 0x5be0cd19]

/-- The 64-bit message length in bits, big endian. -/
def sha256LengthField (len : Nat) : Bytes :=
  let bitLen := UInt64.ofNat len * 8
  putBe32 (bitLen >>> 32).toUInt32 ++ putBe32 bitLen.toUInt32

/-- What is hashed after the full blocks: the rest, `0x80`, zeros, and the length,
over one block or over two when the rest leaves no room for the length. -/
def sha256Tail (rest : Bytes) (len : Nat) : List Bytes :=
  let padded := rest ++ [0x80]
  if rest.length ≥ 56 then
    [padded ++ List.replicate (64 - padded.length) 0,
     List.replicate 56 0 ++ sha256LengthField len]
  else
    [padded ++ List.replicate (56 - padded.length) 0 ++ sha256LengthField len]

@[irreducible] def sha256 (msg : Bytes) : Vector UInt8 32 :=
  let blocks := msg.length / 64
  let h := (List.range blocks).foldl
    (fun h i => sha256Transform h ((msg.drop (i * 64)).take 64)) sha256Init
  let h := (sha256Tail (msg.drop (blocks * 64)) msg.length).foldl sha256Transform h
  vecOf 32 (h.toList.flatMap putBe32)

/-- The largest message the inner buffer of `ue_hmac_sha256` holds. -/
def hmacMaxMsg : Nat := 8192

@[irreducible] def ueHmacSha256 (key msg : Bytes) : Vector UInt8 32 :=
  let kPad := vecOf 64 (if key.length > 64 then (sha256 key).toList else key)
  let inner := (kPad.map (· ^^^ 0x36)).toList
  let innerHash := if msg.length ≤ hmacMaxMsg then sha256 (inner ++ msg) else sha256 inner
  sha256 ((kPad.map (· ^^^ 0x5c)).toList ++ innerHash.toList)

end VirtualLte.Crypto
