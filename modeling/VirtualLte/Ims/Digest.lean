import VirtualLte.Engine.Events

/-!
# MD5 and the Digest response

`ims_digest.c`: the hash under the Digest scheme, fed in pieces, and the response that goes
into an authorized REGISTER.
-/

namespace VirtualLte.Ims

open Engine

/-! ## One block -/

/-- The four registers, with their start values. -/
structure Md5Words where
  a : UInt32 := 0x67452301
  b : UInt32 := 0xefcdab89
  c : UInt32 := 0x98badcfe
  d : UInt32 := 0x10325476
  deriving DecidableEq, Repr

/-- Rotation to the left. -/
def rol32 (v n : UInt32) : UInt32 := (v <<< n) ||| (v >>> (32 - n))

/-- The little-endian word at offset `i`. -/
def rd32le (b : Bytes) (i : Nat) : UInt32 :=
  (octet b i).toUInt32 ||| ((octet b (i + 1)).toUInt32 <<< 8) |||
    ((octet b (i + 2)).toUInt32 <<< 16) ||| ((octet b (i + 3)).toUInt32 <<< 24)

/-- A little-endian word. -/
def wr32le (v : UInt32) : Bytes :=
  [v.toUInt8, (v >>> 8).toUInt8, (v >>> 16).toUInt8, (v >>> 24).toUInt8]

/-- A step of a round: the word it reads, its constant and its shift. -/
abbrev Md5Step := Nat × UInt32 × UInt32

/-- The step, with the registers renamed so that the next one reads them in the same order. -/
def md5Step (f : UInt32 → UInt32 → UInt32 → UInt32) (block : Bytes) (w : Md5Words) (s : Md5Step) :
    Md5Words :=
  { a := w.d
    b := rol32 (w.a + (f w.b w.c w.d + rd32le block (s.1 * 4) + s.2.1)) s.2.2 + w.b
    c := w.b
    d := w.c }

/-- The function of the first round. -/
def md5F (x y z : UInt32) : UInt32 := (x &&& y) ||| (~~~x &&& z)

/-- The function of the second round. -/
def md5G (x y z : UInt32) : UInt32 := (x &&& z) ||| (y &&& ~~~z)

/-- The function of the third round. -/
def md5H (x y z : UInt32) : UInt32 := x ^^^ y ^^^ z

/-- The function of the fourth round. -/
def md5I (x y z : UInt32) : UInt32 := y ^^^ (x ||| ~~~z)

/-- The steps of the first round. -/
def md5RoundF : List Md5Step :=
  [(0, 0xd76aa478, 7), (1, 0xe8c7b756, 12), (2, 0x242070db, 17), (3, 0xc1bdceee, 22),
   (4, 0xf57c0faf, 7), (5, 0x4787c62a, 12), (6, 0xa8304613, 17), (7, 0xfd469501, 22),
   (8, 0x698098d8, 7), (9, 0x8b44f7af, 12), (10, 0xffff5bb1, 17), (11, 0x895cd7be, 22),
   (12, 0x6b901122, 7), (13, 0xfd987193, 12), (14, 0xa679438e, 17), (15, 0x49b40821, 22)]

/-- The steps of the second round. -/
def md5RoundG : List Md5Step :=
  [(1, 0xf61e2562, 5), (6, 0xc040b340, 9), (11, 0x265e5a51, 14), (0, 0xe9b6c7aa, 20),
   (5, 0xd62f105d, 5), (10, 0x02441453, 9), (15, 0xd8a1e681, 14), (4, 0xe7d3fbc8, 20),
   (9, 0x21e1cde6, 5), (14, 0xc33707d6, 9), (3, 0xf4d50d87, 14), (8, 0x455a14ed, 20),
   (13, 0xa9e3e905, 5), (2, 0xfcefa3f8, 9), (7, 0x676f02d9, 14), (12, 0x8d2a4c8a, 20)]

/-- The steps of the third round. -/
def md5RoundH : List Md5Step :=
  [(5, 0xfffa3942, 4), (8, 0x8771f681, 11), (11, 0x6d9d6122, 16), (14, 0xfde5380c, 23),
   (1, 0xa4beea44, 4), (4, 0x4bdecfa9, 11), (7, 0xf6bb4b60, 16), (10, 0xbebfbc70, 23),
   (13, 0x289b7ec6, 4), (0, 0xeaa127fa, 11), (3, 0xd4ef3085, 16), (6, 0x04881d05, 23),
   (9, 0xd9d4d039, 4), (12, 0xe6db99e5, 11), (15, 0x1fa27cf8, 16), (2, 0xc4ac5665, 23)]

/-- The steps of the fourth round. -/
def md5RoundI : List Md5Step :=
  [(0, 0xf4292244, 6), (7, 0x432aff97, 10), (14, 0xab9423a7, 15), (5, 0xfc93a039, 21),
   (12, 0x655b59c3, 6), (3, 0x8f0ccc92, 10), (10, 0xffeff47d, 15), (1, 0x85845dd1, 21),
   (8, 0x6fa87e4f, 6), (15, 0xfe2ce6e0, 10), (6, 0xa3014314, 15), (13, 0x4e0811a1, 21),
   (4, 0xf7537e82, 6), (11, 0xbd3af235, 10), (2, 0x2ad7d2bb, 15), (9, 0xeb86d391, 21)]

/-- Four rounds over a block, added to the registers. -/
def md5Block (w : Md5Words) (block : Bytes) : Md5Words :=
  let v := md5RoundF.foldl (md5Step md5F block) w
  let v := md5RoundG.foldl (md5Step md5G block) v
  let v := md5RoundH.foldl (md5Step md5H block) v
  let v := md5RoundI.foldl (md5Step md5I block) v
  { a := w.a + v.a, b := w.b + v.b, c := w.c + v.c, d := w.d + v.d }

/-! ## The stream -/

/-- A hash under way. -/
structure Md5Ctx where
  words : Md5Words := {}
  len : UInt64 := 0
  /-- The octets of an unfinished block. -/
  buf : Bytes := []
  deriving DecidableEq, Repr

/-- The loop of an update; every round takes at least one octet. -/
def md5Absorb : Nat → Md5Ctx → Bytes → Md5Ctx
  | 0, ctx, _ => ctx
  | n + 1, ctx, data =>
    if data.length = 0 then ctx
    else
      let take := min (64 - ctx.buf.length) data.length
      let buf := ctx.buf ++ data.take take
      let ctx :=
        if buf.length = 64 then { ctx with words := md5Block ctx.words buf, buf := [] }
        else { ctx with buf }
      md5Absorb n ctx (data.drop take)

/-- One more piece. -/
def md5Update (ctx : Md5Ctx) (data : Bytes) : Md5Ctx :=
  md5Absorb data.length { ctx with len := ctx.len + UInt64.ofNat data.length } data

/-- The padding, the length in bits, and the registers. -/
def md5Final (ctx : Md5Ctx) : Bytes :=
  let bits := ctx.len * 8
  let padLen := if ctx.buf.length < 56 then 56 - ctx.buf.length else 120 - ctx.buf.length
  let pad := 0x80 :: List.replicate (padLen - 1) 0
  let lenLe := (List.range 8).map fun i => (bits >>> UInt64.ofNat (8 * i)).toUInt8
  let w := (md5Update (md5Update ctx pad) lenLe).words
  wr32le w.a ++ wr32le w.b ++ wr32le w.c ++ wr32le w.d

/-- The hash of pieces that are fed one after the other. -/
def md5Hex (pieces : List Bytes) : Bytes := hexText (md5Final (pieces.foldl md5Update {}))

/-! ## Digest -/

/-- The response to a challenge; `qop` comes with a nonce count and a client nonce. -/
def imsDigestMd5Response (username realm password method uri nonce : Bytes)
    (qop : Option (Bytes × Bytes × Bytes)) : Bytes :=
  let colon : Bytes := [0x3A]
  let ha1 := md5Hex [username, colon, realm, colon, password]
  let ha2 := md5Hex [method, colon, uri]
  let clause :=
    match qop with
    | none => []
    | some (nc, cnonce, qop) => [nc, colon, cnonce, colon, qop, colon]
  md5Hex ([ha1, colon, nonce, colon] ++ clause ++ [ha2])

end VirtualLte.Ims
