import VirtualLte.Lib.BlockHash
import VirtualLte.Crypto.Sha256

/-!
# SHA-256 and HMAC against their standards

FIPS 180-4 is stated over natural numbers below `2 ^ 32`, with the constants computed from the
roots of the primes and the message padded as a whole.  RFC 2104 is stated for any hash with
blocks of 64 octets.
-/

namespace VirtualLte.Crypto

open BlockHash

/-! ## The standards -/

namespace Fips180

def rotr (n x : Nat) : Nat := (x >>> n) ||| (x <<< (32 - n)) % 2 ^ 32

def bigSigma0 (x : Nat) : Nat := rotr 2 x ^^^ rotr 13 x ^^^ rotr 22 x

def bigSigma1 (x : Nat) : Nat := rotr 6 x ^^^ rotr 11 x ^^^ rotr 25 x

def sigma0 (x : Nat) : Nat := rotr 7 x ^^^ rotr 18 x ^^^ (x >>> 3)

def sigma1 (x : Nat) : Nat := rotr 17 x ^^^ rotr 19 x ^^^ (x >>> 10)

def ch (x y z : Nat) : Nat := (x &&& y) ^^^ ((2 ^ 32 - 1 - x) &&& z)

def maj (x y z : Nat) : Nat := (x &&& y) ^^^ (x &&& z) ^^^ (y &&& z)

/-- The first 32 bits of the fractional part of the `k`-th root of `p`.  The root itself is
found bit by bit, the highest first. -/
def fracRoot (k p : Nat) : Nat :=
  (List.range 40).foldr (fun i r => if (r + 2 ^ i) ^ k ≤ p * 2 ^ (32 * k) then r + 2 ^ i else r) 0
    % 2 ^ 32

/-- The first 64 primes: no number below 18 divides them, themselves apart. -/
def primes : List Nat :=
  (List.range' 2 310).filter fun p => (List.range' 2 16).all fun d => p % d != 0 || p == d

def kTable : List Nat := primes.map (fracRoot 3)

/-- The eight working variables. -/
structure Vars where
  (a b c d e f g h : Nat)
  deriving DecidableEq

/-- The initial hash value, from the square roots of the first eight primes. -/
def init : Vars :=
  ⟨fracRoot 2 2, fracRoot 2 3, fracRoot 2 5, fracRoot 2 7, fracRoot 2 11, fracRoot 2 13,
    fracRoot 2 17, fracRoot 2 19⟩

def words (block : Bytes) : List Nat :=
  (List.range 16).map fun i =>
    (((octet block (i * 4)).toNat * 256 + (octet block (i * 4 + 1)).toNat) * 256
      + (octet block (i * 4 + 2)).toNat) * 256 + (octet block (i * 4 + 3)).toNat

/-- One more word of the schedule; the latest word comes first. -/
def extend (w : List Nat) : List Nat :=
  (sigma1 (w.getD 1 0) + w.getD 6 0 + sigma0 (w.getD 14 0) + w.getD 15 0) % 2 ^ 32 :: w

def schedule (block : Bytes) : List Nat := (extend^[48] (words block).reverse).reverse

def round (v : Vars) (kw : Nat × Nat) : Vars :=
  let t1 := v.h + bigSigma1 v.e + ch v.e v.f v.g + kw.1 + kw.2
  let t2 := bigSigma0 v.a + maj v.a v.b v.c
  ⟨(t1 + t2) % 2 ^ 32, v.a, v.b, v.c, (v.d + t1) % 2 ^ 32, v.e, v.f, v.g⟩

def Vars.add (x y : Vars) : Vars :=
  ⟨(x.a + y.a) % 2 ^ 32, (x.b + y.b) % 2 ^ 32, (x.c + y.c) % 2 ^ 32, (x.d + y.d) % 2 ^ 32,
    (x.e + y.e) % 2 ^ 32, (x.f + y.f) % 2 ^ 32, (x.g + y.g) % 2 ^ 32, (x.h + y.h) % 2 ^ 32⟩

def compress (h : Vars) (block : Bytes) : Vars :=
  h.add ((kTable.zip (schedule block)).foldl round h)

/-- The length in bits, big endian. -/
def lengthField (len : Nat) : Bytes :=
  (List.range 8).map fun i => UInt8.ofNat (8 * len / 256 ^ (7 - i))

def digest (h : Vars) : Bytes :=
  [h.a, h.b, h.c, h.d, h.e, h.f, h.g, h.h].flatMap fun x =>
    [UInt8.ofNat (x / 2 ^ 24), UInt8.ofNat (x / 2 ^ 16), UInt8.ofNat (x / 2 ^ 8), UInt8.ofNat x]

def hash (msg : Bytes) : Bytes := digest (BlockHash.hash compress init lengthField msg)

end Fips180

/-- RFC 2104, for a hash `H` with blocks of 64 octets. -/
def Rfc2104.hmac (H : Bytes → Bytes) (key text : Bytes) : Bytes :=
  let k := if key.length > 64 then H key else key
  let k0 := k ++ List.replicate (64 - k.length) 0
  H (k0.map (· ^^^ 0x5c) ++ H (k0.map (· ^^^ 0x36) ++ text))

/-! ## The compression function -/

/-- A chaining value as the standard writes it. -/
def vars (v : HashState) : Fips180.Vars :=
  let a (i : Fin 8) := (v.get i).toNat
  ⟨a 0, a 1, a 2, a 3, a 4, a 5, a 6, a 7⟩

theorem vars_sha256Init : vars sha256Init = Fips180.init := by decide +kernel

theorem map_toNat_sha256K : sha256K.toList.map UInt32.toNat = Fips180.kTable := by decide +kernel

theorem ror32_toNat (x : UInt32) {n : UInt32} (h0 : 0 < n.toNat) (h : n.toNat < 32) :
    (ror32 x n).toNat = Fips180.rotr n.toNat x.toNat := by
  have hsub : (32 - n).toNat = 32 - n.toNat := UInt32.toNat_sub_of_le _ _ (Nat.le_of_lt h)
  rw [ror32, UInt32.toNat_or, UInt32.toNat_shiftRight, UInt32.toNat_shiftLeft, hsub,
    Nat.mod_eq_of_lt h, Nat.mod_eq_of_lt (show 32 - n.toNat < 32 by omega)]
  rfl

theorem bigSigma0_toNat (x : UInt32) :
    (ror32 x 2 ^^^ ror32 x 13 ^^^ ror32 x 22).toNat = Fips180.bigSigma0 x.toNat := by
  simp [Fips180.bigSigma0, ror32_toNat]

theorem bigSigma1_toNat (x : UInt32) :
    (ror32 x 6 ^^^ ror32 x 11 ^^^ ror32 x 25).toNat = Fips180.bigSigma1 x.toNat := by
  simp [Fips180.bigSigma1, ror32_toNat]

theorem sigma0_toNat (x : UInt32) :
    (ror32 x 7 ^^^ ror32 x 18 ^^^ (x >>> 3)).toNat = Fips180.sigma0 x.toNat := by
  simp [Fips180.sigma0, ror32_toNat]

theorem sigma1_toNat (x : UInt32) :
    (ror32 x 17 ^^^ ror32 x 19 ^^^ (x >>> 10)).toNat = Fips180.sigma1 x.toNat := by
  simp [Fips180.sigma1, ror32_toNat]

theorem ch_toNat (x y z : UInt32) :
    ((x &&& y) ^^^ (~~~x &&& z)).toNat = Fips180.ch x.toNat y.toNat z.toNat := by
  simp [Fips180.ch, UInt32.toNat_not, UInt32.size]

theorem maj_toNat (x y z : UInt32) :
    ((x &&& y) ^^^ (x &&& z) ^^^ (y &&& z)).toNat = Fips180.maj x.toNat y.toNat z.toNat := by
  simp [Fips180.maj]

theorem vars_sha256Round (v : HashState) (k w : UInt32) :
    vars (sha256Round v (k + w)) = Fips180.round (vars v) (k.toNat, w.toNat) := by
  simp only [vars, Vector.get_eq_getElem, Fin.coe_ofNat_eq_mod, Nat.reduceMod, sha256Round,
    Fips180.round, Vector.getElem_mk, List.getElem_toArray,
    List.getElem_cons_zero, List.getElem_cons_succ, ← bigSigma0_toNat, ← bigSigma1_toNat,
    ← ch_toNat, ← maj_toNat, Fips180.Vars.mk.injEq, and_true, true_and, UInt32.toNat_add]
  omega

/-! ## The schedule -/

theorem getD_reverse_map_toNat {w : List UInt32} {j : Nat} (h : j < w.length) :
    (w.map UInt32.toNat).reverse.getD j 0 = (w.getD (w.length - 1 - j) 0).toNat := by
  rw [List.getD_eq_getElem?_getD, List.getElem?_reverse (by simpa using h), List.length_map,
    List.getElem?_map, List.getD_eq_getElem?_getD]
  cases w[w.length - 1 - j]? <;> rfl

/-- One turn of the loop over the schedule. -/
theorem reverse_sha256Schedule {w : List UInt32} {i : Nat} (hlen : w.length = i) (hi : 16 ≤ i) :
    ((sha256Schedule w i).map UInt32.toNat).reverse =
      Fips180.extend (w.map UInt32.toNat).reverse := by
  subst hlen
  simp only [sha256Schedule, Fips180.extend, getD_reverse_map_toNat (show 1 < w.length by omega),
    getD_reverse_map_toNat (show 6 < w.length by omega),
    getD_reverse_map_toNat (show 14 < w.length by omega),
    getD_reverse_map_toNat (show 15 < w.length by omega), ← sigma0_toNat, ← sigma1_toNat,
    List.map_append, List.reverse_append, List.map_cons, List.map_nil, List.reverse_singleton,
    List.singleton_append, Nat.sub_sub, Nat.reduceAdd, UInt32.toNat_add]
  congr 1
  omega

theorem length_sha256Schedule (w : List UInt32) (i : Nat) :
    (sha256Schedule w i).length = w.length + 1 := by
  simp [sha256Schedule]

theorem sha256Schedule_run {w : List UInt32} (hlen : w.length = 16) (n : Nat) :
    ((List.range' 16 n).foldl sha256Schedule w).length = 16 + n ∧
      (((List.range' 16 n).foldl sha256Schedule w).map UInt32.toNat).reverse =
        Fips180.extend^[n] (w.map UInt32.toNat).reverse := by
  induction n with
  | zero => exact ⟨hlen, rfl⟩
  | succ n ih =>
    obtain ⟨hn, hwords⟩ := ih
    rw [List.range'_1_concat, List.foldl_append, List.foldl_cons, List.foldl_nil]
    refine ⟨by rw [length_sha256Schedule, hn]; rfl, ?_⟩
    rw [reverse_sha256Schedule hn (by omega), hwords, Function.iterate_succ_apply']

/-- A loop over two tables that runs through their indices. -/
theorem foldl_range_getD {σ : Type} (f : σ → UInt32 → UInt32 → σ) (ks ws : List UInt32) {n : Nat}
    (hk : ks.length = n) (hw : ws.length = n) (s : σ) :
    (List.range n).foldl (fun s i => f s (ks.getD i 0) (ws.getD i 0)) s =
      (ks.zip ws).foldl (fun s kw => f s kw.1 kw.2) s := by
  have hzip : ks.zip ws = (List.range n).map fun i => (ks.getD i 0, ws.getD i 0) := by
    refine List.ext_getElem (by simp [hk, hw]) fun i h₁ h₂ => ?_
    have hi : i < n := by simpa using h₂
    simp [List.getElem?_eq_getElem (hk ▸ hi), List.getElem?_eq_getElem (hw ▸ hi)]
  rw [hzip, List.foldl_map]

/-- The words of a block, before the schedule is extended. -/
def sha256Words (block : Bytes) : List UInt32 :=
  (List.range 16).map fun i =>
    getBe32 (octet block (i * 4)) (octet block (i * 4 + 1)) (octet block (i * 4 + 2))
      (octet block (i * 4 + 3))

theorem map_toNat_sha256Words (block : Bytes) :
    (sha256Words block).map UInt32.toNat = Fips180.words block := by
  rw [sha256Words, List.map_map]
  exact List.map_congr_left fun i _ => getBe32_toNat ..

theorem vars_sha256Transform (h : HashState) (block : Bytes) :
    vars (sha256Transform h block) = Fips180.compress (vars h) block := by
  obtain ⟨hlen, hwords⟩ := sha256Schedule_run (w := sha256Words block) (by simp [sha256Words]) 48
  rw [map_toNat_sha256Words, List.reverse_eq_iff] at hwords
  -- the rounds, over the schedule `w`
  have hrounds : ∀ w : List UInt32, w.length = 64 → vars ((List.range 64).foldl
      (fun v i => sha256Round v (sha256K.toList.getD i 0 + w.getD i 0)) h) =
      (Fips180.kTable.zip (w.map UInt32.toNat)).foldl Fips180.round (vars h) := by
    intro w hw
    rw [foldl_range_getD (fun v k w => sha256Round v (k + w)) _ _ (by simp) hw,
      ← map_toNat_sha256K, List.zip_map, List.foldl_map]
    exact (List.foldl_hom vars fun v (kw : UInt32 × UInt32) =>
      (vars_sha256Round v kw.1 kw.2).symm).symm
  rw [Fips180.compress, Fips180.schedule, ← hwords, ← hrounds _ hlen]
  simp only [vars, Vector.get_eq_getElem, sha256Transform, Fips180.Vars.add,
    Vector.getElem_zipWith, UInt32.toNat_add, sha256Words]

/-! ## Padding -/

theorem putBe32_eq (v : UInt32) :
    putBe32 v = [UInt8.ofNat (v.toNat / 2 ^ 24), UInt8.ofNat (v.toNat / 2 ^ 16),
      UInt8.ofNat (v.toNat / 2 ^ 8), UInt8.ofNat v.toNat] := by
  simp only [putBe32, List.cons.injEq, and_true, ← UInt8.toNat_inj]
  simp [Nat.shiftRight_eq_div_pow]

theorem sha256LengthField_eq (len : Nat) : sha256LengthField len = Fips180.lengthField len := by
  have hbits : (UInt64.ofNat len * 8).toNat = 8 * len % 2 ^ 64 := by
    rw [UInt64.toNat_mul, UInt64.toNat_ofNat', Nat.mul_comm]
    change 8 * (len % 2 ^ 64) % 2 ^ 64 = _
    omega
  have hhigh : ((UInt64.ofNat len * 8) >>> 32).toNat = 8 * len % 2 ^ 64 / 2 ^ 32 := by
    rw [UInt64.toNat_shiftRight, hbits, Nat.shiftRight_eq_div_pow]
    rfl
  simp only [sha256LengthField, putBe32_eq, UInt64.toNat_toUInt32, hbits, hhigh,
    Fips180.lengthField, List.range_succ, List.range_zero, List.nil_append, List.cons_append,
    List.map_cons, List.map_nil, List.cons.injEq, and_true, ← UInt8.toNat_inj, UInt8.toNat_ofNat',
    Nat.reduceSub, Nat.reducePow]
  omega

/-- What is left of the message, padded, is the block or the two blocks that are hashed last. -/
theorem blocks_rest (rest : Bytes) (len : Nat) (hlen : rest.length = len % 64) :
    blocks 64 (rest ++ padding Fips180.lengthField len) = sha256Tail rest len := by
  have hfield : (Fips180.lengthField len).length = 8 := by simp [Fips180.lengthField]
  have hlt : rest.length < 64 := by omega
  rw [padding, ← hlen, sha256Tail, sha256LengthField_eq]
  split
  · rename_i hlong
    have hzeros : (119 - rest.length) % 64 = (64 - (rest ++ [0x80]).length) + 56 := by
      rw [List.length_append, List.length_singleton]
      omega
    have hfirst : (rest ++ [0x80]).length + (64 - (rest ++ [0x80]).length) = 64 := by
      rw [List.length_append, List.length_singleton]
      omega
    rw [hzeros, ← List.replicate_append_replicate, ← List.singleton_append, List.append_assoc,
      List.append_assoc, ← List.append_assoc rest, ← List.append_assoc (rest ++ _),
      blocks_append (by decide), blocks_of_eq (by decide), blocks_of_eq (by decide)]
    · rfl
    · simp [hfield]
    · rw [List.length_append, List.length_replicate, hfirst]
    · exact ⟨1, by rw [List.length_append, List.length_replicate, hfirst]⟩
  · have hzeros : (119 - rest.length) % 64 = 56 - (rest ++ [0x80]).length := by
      rw [List.length_append, List.length_singleton]
      omega
    rw [hzeros, ← blocks_of_eq (n := 64) (by decide)]
    · simp
    · simp only [List.length_append, List.length_singleton, List.length_replicate, hfield]
      omega

theorem digest_vars (h : HashState) : Fips180.digest (vars h) = h.toList.flatMap putBe32 := by
  obtain ⟨⟨l⟩, hl⟩ := h
  match l, hl with
  | [_, _, _, _, _, _, _, _], _ => simp [Fips180.digest, vars, putBe32_eq]

theorem sha256_fips180 (msg : Bytes) : (sha256 msg).toList = Fips180.hash msg := by
  set q := msg.length / 64 with hq
  have hsplit : msg.take (q * 64) ++ msg.drop (q * 64) = msg := List.take_append_drop ..
  have hfull : 64 ∣ (msg.take (q * 64)).length := by
    rw [List.length_take]
    omega
  have hrest : (msg.drop (q * 64)).length = msg.length % 64 := by
    rw [List.length_drop]
    omega
  have hblocks := blocks_append (b := msg.drop (q * 64)) (by decide) hfull
  rw [hsplit, blocks_of_lt (b := msg.drop _) (by rw [hrest]; exact Nat.mod_lt _ (by decide)),
    List.append_nil] at hblocks
  have hfold : ∀ (bs : List Bytes) (h : HashState),
      bs.foldl Fips180.compress (vars h) = vars (bs.foldl sha256Transform h) := fun bs h =>
    List.foldl_hom vars fun h b => (vars_sha256Transform h b).symm
  have hhash := hash_append Fips180.compress Fips180.init Fips180.lengthField
    (b := msg.drop (q * 64)) hfull
  rw [hsplit, blocks_rest _ _ hrest, ← hblocks, ← vars_sha256Init, hfold, hfold] at hhash
  rw [Fips180.hash, ← vars_sha256Init, hhash, digest_vars, sha256, toList_vecOf]
  · rw [blocks, List.foldl_map]
  · rw [← digest_vars]
    rfl

/-! ## HMAC -/

/-- The block that the key fills: zeros stand behind it. -/
theorem toList_vecOf_of_le {n : Nat} {b : Bytes} (h : b.length ≤ n) :
    (vecOf n b).toList = b ++ List.replicate (n - b.length) 0 := by
  rw [← vecOf_append_zeros b (n - b.length), toList_vecOf]
  rw [List.length_append, List.length_replicate]
  omega

/-- The HMAC of the source is that of RFC 2104 over what is put into the inner buffer. -/
theorem ueHmacSha256_of_inner {key msg text : Bytes}
    (h : text = if msg.length ≤ hmacMaxMsg then msg else []) :
    (ueHmacSha256 key msg).toList = Rfc2104.hmac Fips180.hash key text := by
  set k := if key.length > 64 then (sha256 key).toList else key with hk
  have hlen : k.length ≤ 64 := by
    rw [hk]
    split
    · simp
    · omega
  have hpad : ∀ x : UInt8, ((vecOf 64 k).map (· ^^^ x)).toList =
      (k ++ List.replicate (64 - k.length) 0).map (· ^^^ x) := fun x => by
    rw [Vector.toList_map, toList_vecOf_of_le hlen]
  rw [ueHmacSha256, Rfc2104.hmac, h]
  simp only [← sha256_fips180, ← hk, hpad]
  split <;> simp

theorem ueHmacSha256_of_le (key : Bytes) {msg : Bytes} (h : msg.length ≤ hmacMaxMsg) :
    (ueHmacSha256 key msg).toList = Rfc2104.hmac Fips180.hash key msg :=
  ueHmacSha256_of_inner (by rw [if_pos h])

/-- A message that does not fit into the inner buffer is left out. -/
theorem ueHmacSha256_of_gt (key : Bytes) {msg : Bytes} (h : hmacMaxMsg < msg.length) :
    (ueHmacSha256 key msg).toList = Rfc2104.hmac Fips180.hash key [] :=
  ueHmacSha256_of_inner (by rw [if_neg (Nat.not_le.mpr h)])

/-- HMAC-SHA-256 as in RFC 2104 over FIPS 180-4, of a message that the inner buffer holds. -/
theorem ueHmacSha256_rfc2104 (key msg : Bytes) :
    (ueHmacSha256 key msg).toList =
      Rfc2104.hmac Fips180.hash key (if msg.length ≤ 8192 then msg else []) := by
  split
  · exact ueHmacSha256_of_le key ‹_›
  · exact ueHmacSha256_of_gt key (Nat.not_le.mp ‹_›)

/-- The inner hash under the empty key, of a message of zeros: all its whole blocks are alike. -/
theorem inner_hash_zeros (k : Nat) :
    Fips180.hash (List.replicate 64 0x36 ++ List.replicate (k * 64 + 1) 0) =
      Fips180.digest ((blocks 64 ([0] ++ padding Fips180.lengthField (64 + (k * 64 + 1)))).foldl
        Fips180.compress ((List.replicate k (List.replicate 64 0)).foldl Fips180.compress
          (Fips180.compress Fips180.init (List.replicate 64 0x36)))) := by
  have hfull : 64 ∣ (List.replicate 64 (0x36 : UInt8) ++ List.replicate (k * 64) 0).length := by
    rw [List.length_append, List.length_replicate, List.length_replicate]
    omega
  rw [Fips180.hash, List.replicate_succ' (n := k * 64), ← List.append_assoc,
    hash_append _ _ _ hfull, blocks_append (by decide) ⟨1, List.length_replicate⟩,
    blocks_replicate (by decide), blocks_of_eq (by decide) List.length_replicate]
  simp only [List.length_append, List.length_replicate, List.length_singleton, List.foldl_append,
    List.foldl_cons, List.foldl_nil, Nat.add_assoc]

def innerOfZeros : Bytes :=
  [0xae, 0xfd, 0x3b, 0x40, 0xd8, 0x97, 0x27, 0x66, 0xa2, 0xf1, 0xe6, 0xe6, 0x4e, 0x50,
   0xc2, 0x49, 0x1a, 0xa9, 0x13, 0xf6, 0x3c, 0x05, 0xe7, 0x1e, 0x1a, 0xf0, 0xa0, 0x24,
   0x02, 0xfb, 0x20, 0xfd]

/-- Of 8193 zeros under the empty key the source computes the HMAC of no message at all. -/
theorem ueHmacSha256_oversized :
    ¬ ∀ key msg : Bytes, msg.length < 2 ^ 61 →
      (ueHmacSha256 key msg).toList = Rfc2104.hmac Fips180.hash key msg := by
  intro h
  have hzeros := h [] (List.replicate (128 * 64 + 1) 0)
    (by rw [List.length_replicate]; decide)
  rw [ueHmacSha256_of_gt [] (by rw [List.length_replicate]; decide)] at hzeros
  have hinner : Fips180.hash (List.replicate 64 0x36 ++ List.replicate (128 * 64 + 1) 0) =
      innerOfZeros := by
    rw [inner_hash_zeros]
    decide +kernel
  have hne : Rfc2104.hmac Fips180.hash [] [] ≠
      Fips180.hash (List.replicate 64 0x5c ++ innerOfZeros) := by decide +kernel
  refine hne (hzeros.trans ?_)
  rw [← hinner]
  rfl

end VirtualLte.Crypto
