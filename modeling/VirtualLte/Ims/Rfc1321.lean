import VirtualLte.Lib.BlockHash
import VirtualLte.Ims.Digest

/-!
# MD5 and the Digest response against their RFCs

* `md5Final_foldl`: MD5 of the whole string, however the string is cut into updates.
* `imsDigestMd5Response_rfc2617`: the request-digest, with and without `qop`.
-/

namespace VirtualLte.Ims

open Engine BlockHash

/-! ## The RFCs -/

namespace Rfc1321

/-- The fraction that the first 100 terms of the sine series at `x` come to, after the
factor `x`: each step is the bracket `1 - x² / ((2k + 2) (2k + 3)) · …`. -/
def sineSeries (x : Int) : Int × Int :=
  (List.range 100).foldr (fun k p =>
    let c : Int := ((2 * k + 2) * (2 * k + 3) : Nat)
    (p.2 * c - x * x * p.1, p.2 * c)) (1, 1)

/-- `T[i]`, the integer part of `4294967296 * abs (sin i)`. -/
def sineTable (i : Nat) : UInt32 :=
  let p := sineSeries i
  UInt32.ofNat (2 ^ 32 * i * p.1.natAbs / p.2.natAbs)

/-- The operation `[abcd k s i]` of a round: its function, `k` and the four shifts. -/
def operation (i : Nat) :
    (UInt32 → UInt32 → UInt32 → UInt32) × Nat × List Nat :=
  match i / 16 with
  | 0 => (fun x y z => (x &&& y) ||| (~~~x &&& z), i, [7, 12, 17, 22])
  | 1 => (fun x y z => (x &&& z) ||| (y &&& ~~~z), (5 * i + 1) % 16, [5, 9, 14, 20])
  | 2 => (fun x y z => x ^^^ y ^^^ z, (3 * i + 5) % 16, [4, 11, 16, 23])
  | _ => (fun x y z => y ^^^ (x ||| ~~~z), 7 * i % 16, [6, 10, 15, 21])

def rotateLeft (x : UInt32) (s : Nat) : UInt32 := ⟨x.toBitVec.rotateLeft s⟩

/-- Word `k` of a block, the low-order octet first. -/
def word (block : Bytes) (k : Nat) : UInt32 :=
  UInt32.ofNat ((((octet block (k * 4 + 3)).toNat * 256 + (octet block (k * 4 + 2)).toNat) * 256
    + (octet block (k * 4 + 1)).toNat) * 256 + (octet block (k * 4)).toNat)

/-- `a = b + ((a + f(b,c,d) + X[k] + T[i]) <<< s)`, the registers renamed for the next one. -/
def step (block : Bytes) (w : Md5Words) (i : Nat) : Md5Words :=
  let (f, k, shifts) := operation i
  { a := w.d
    b := w.b + rotateLeft (w.a + f w.b w.c w.d + word block k + sineTable (i + 1))
      (shifts.getD (i % 4) 0)
    c := w.b
    d := w.c }

def compress (w : Md5Words) (block : Bytes) : Md5Words :=
  let v := (List.range 64).foldl (step block) w
  { a := w.a + v.a, b := w.b + v.b, c := w.c + v.c, d := w.d + v.d }

/-- The low-order 64 bits of the length in bits, the low-order octet first. -/
def lengthField (len : Nat) : Bytes :=
  (List.range 8).map fun i => UInt8.ofNat (8 * len / 256 ^ i)

def digest (w : Md5Words) : Bytes :=
  [w.a, w.b, w.c, w.d].flatMap fun x =>
    [UInt8.ofNat x.toNat, UInt8.ofNat (x.toNat / 2 ^ 8), UInt8.ofNat (x.toNat / 2 ^ 16),
      UInt8.ofNat (x.toNat / 2 ^ 24)]

def md5 (msg : Bytes) : Bytes :=
  digest (BlockHash.hash compress ⟨0x67452301, 0xefcdab89, 0x98badcfe, 0x10325476⟩ lengthField msg)

end Rfc1321

namespace Rfc2617

def colon (a b : Bytes) : Bytes := a ++ asciiText ":" ++ b

/-- The hash as 32 hexadecimal digits. -/
def H (data : Bytes) : Bytes :=
  (Rfc1321.md5 data).flatMap fun x =>
    let digits := asciiText "0123456789abcdef"
    [octet digits (x.toNat / 16), octet digits (x.toNat % 16)]

def KD (secret data : Bytes) : Bytes := H (colon secret data)

/-- `request-digest`; with `qop` come a nonce count and a client nonce. -/
def requestDigest (username realm passwd method uri nonce : Bytes)
    (qop : Option (Bytes × Bytes × Bytes)) : Bytes :=
  let a1 := colon username (colon realm passwd)
  let a2 := colon method uri
  match qop with
  | some (nc, cnonce, qop) =>
    KD (H a1) (colon nonce (colon nc (colon cnonce (colon qop (H a2)))))
  | none => KD (H a1) (colon nonce (H a2))

end Rfc2617

/-! ## One block -/

theorem rol32_eq (x : UInt32) {n : UInt32} (h0 : 0 < n.toNat) (h : n.toNat < 32) :
    rol32 x n = Rfc1321.rotateLeft x n.toNat := by
  have hsub : (32 - n).toNat = 32 - n.toNat := UInt32.toNat_sub_of_le _ _ (Nat.le_of_lt h)
  rw [← UInt32.toNat_inj, rol32, UInt32.toNat_or, UInt32.toNat_shiftLeft, UInt32.toNat_shiftRight,
    hsub, Nat.mod_eq_of_lt h, Nat.mod_eq_of_lt (show 32 - n.toNat < 32 by omega)]
  simp [Rfc1321.rotateLeft, BitVec.rotateLeft_def, Nat.mod_eq_of_lt h]

private theorem or_reverse (a b c d : UInt32) : a ||| b ||| c ||| d = d ||| c ||| b ||| a := by
  ac_rfl

theorem rd32le_eq (block : Bytes) (k : Nat) : rd32le block (k * 4) = Rfc1321.word block k := by
  rw [Rfc1321.word, ← getBe32_toNat, UInt32.ofNat_toNat, getBe32, ← or_reverse]
  rfl

/-- The shift of operation `i`. -/
def md5Shift (i : Nat) : Nat := (Rfc1321.operation i).2.2.getD (i % 4) 0

theorem md5Shift_bounds (i : Nat) : 0 < md5Shift i ∧ md5Shift i < 32 := by
  have hmod : i % 4 = 0 ∨ i % 4 = 1 ∨ i % 4 = 2 ∨ i % 4 = 3 := by omega
  unfold md5Shift Rfc1321.operation
  split <;> rcases hmod with h | h | h | h <;> simp [h]

/-- The step of the source that operation `i` of the RFC is. -/
def md5StepOf (i : Nat) : Md5Step :=
  ((Rfc1321.operation i).2.1, Rfc1321.sineTable (i + 1), UInt32.ofNat (md5Shift i))

theorem md5Step_eq (block : Bytes) (w : Md5Words) (i : Nat) :
    md5Step (Rfc1321.operation i).1 block w (md5StepOf i) = Rfc1321.step block w i := by
  obtain ⟨h0, h⟩ := md5Shift_bounds i
  have hshift : (md5StepOf i).2.2.toNat = md5Shift i :=
    UInt32.toNat_ofNat_of_lt (Nat.lt_trans h (by decide))
  rw [md5Step, rol32_eq _ (hshift ▸ h0) (hshift ▸ h), hshift, rd32le_eq, UInt32.add_comm _ w.b,
    ← UInt32.add_assoc, ← UInt32.add_assoc]
  rfl

/-- A round of the source, given as a table, against sixteen operations. -/
theorem md5Round_eq {r : Nat} {f : UInt32 → UInt32 → UInt32 → UInt32} {steps : List Md5Step}
    (hsteps : steps = (List.range' (16 * r) 16).map md5StepOf)
    (hf : ∀ i, i / 16 = r → (Rfc1321.operation i).1 = f) (block : Bytes) (w : Md5Words) :
    steps.foldl (md5Step f block) w = (List.range' (16 * r) 16).foldl (Rfc1321.step block) w := by
  rw [hsteps, List.foldl_map]
  refine List.foldl_ext _ _ _ fun w i hi => ?_
  have hr : i / 16 = r := by
    rw [List.mem_range'_1] at hi
    omega
  rw [← hf i hr, md5Step_eq]

theorem md5Block_eq : md5Block = Rfc1321.compress := by
  funext w block
  have hF := @md5Round_eq 0 md5F md5RoundF (by decide +kernel) fun i h => by
    simp only [Rfc1321.operation, h]; rfl
  have hG := @md5Round_eq 1 md5G md5RoundG (by decide +kernel) fun i h => by
    simp only [Rfc1321.operation, h]; rfl
  have hH := @md5Round_eq 2 md5H md5RoundH (by decide +kernel) fun i h => by
    simp only [Rfc1321.operation, h]; rfl
  have hI := @md5Round_eq 3 md5I md5RoundI (by decide +kernel) fun i h => by
    simp only [Rfc1321.operation, h]; rfl
  have hrange : List.range 64 = List.range' (16 * 0) 16 ++ List.range' (16 * 1) 16 ++
      List.range' (16 * 2) 16 ++ List.range' (16 * 3) 16 := by decide
  simp only [md5Block, Rfc1321.compress, hF, hG, hH, hI, hrange, List.foldl_append]

/-! ## The stream -/

/-- What the context holds after the octets `data`. -/
structure Fed (data : Bytes) (ctx : Md5Ctx) : Prop where
  absorbed : Absorbed md5Block {} data ctx.words ctx.buf
  len : ctx.len = UInt64.ofNat data.length

theorem Fed.init : Fed [] {} := ⟨Absorbed.nil .., rfl⟩

/-- The loop of an update, by induction on its turns: each one fills the block up or takes
the rest. -/
theorem absorbed_md5Absorb {n : Nat} {data new : Bytes} {ctx : Md5Ctx}
    (h : Absorbed md5Block {} data ctx.words ctx.buf) (hn : new.length ≤ n) :
    Absorbed md5Block {} (data ++ new) (md5Absorb n ctx new).words (md5Absorb n ctx new).buf ∧
      (md5Absorb n ctx new).len = ctx.len := by
  induction n generalizing data new ctx with
  | zero =>
    rw [List.eq_nil_of_length_eq_zero (Nat.le_zero.mp hn), List.append_nil]
    exact ⟨h, rfl⟩
  | succ n ih =>
    rw [md5Absorb]
    split
    · rename_i hnil
      rw [List.eq_nil_of_length_eq_zero hnil, List.append_nil]
      exact ⟨h, rfl⟩
    · set take := min (64 - ctx.buf.length) new.length with htake
      have hbuf : ctx.buf.length < 64 := h.length_lt
      have hrest : (new.drop take).length ≤ n := by
        rw [List.length_drop]
        omega
      have hlen : (ctx.buf ++ new.take take).length = ctx.buf.length + take := by
        rw [List.length_append, List.length_take]
        omega
      rw [← List.take_append_drop take new, ← List.append_assoc]
      simp only [List.take_append_drop]
      split
      · exact ih (h.full ‹_›) hrest
      · exact ih (h.short (by omega)) hrest

theorem Fed.update {data : Bytes} {ctx : Md5Ctx} (h : Fed data ctx) (new : Bytes) :
    Fed (data ++ new) (md5Update ctx new) := by
  let counted : Md5Ctx := { ctx with len := ctx.len + UInt64.ofNat new.length }
  have hcounted : Absorbed md5Block {} data counted.words counted.buf := h.absorbed
  obtain ⟨habsorbed, hlen⟩ := absorbed_md5Absorb hcounted (Nat.le_refl new.length)
  refine ⟨habsorbed, hlen.trans ?_⟩
  rw [List.length_append, UInt64.ofNat_add, ← h.len]

theorem Fed.updates {data : Bytes} {ctx : Md5Ctx} (h : Fed data ctx) (pieces : List Bytes) :
    Fed (data ++ pieces.flatten) (pieces.foldl md5Update ctx) := by
  induction pieces generalizing data ctx with
  | nil => simpa using h
  | cons piece pieces ih =>
    rw [List.flatten_cons, ← List.append_assoc]
    exact ih (h.update piece)

/-! ## The end of a message -/

theorem lenLe_eq {bits : UInt64} {len : Nat} (h : bits = UInt64.ofNat len * 8) :
    ((List.range 8).map fun i => (bits >>> UInt64.ofNat (8 * i)).toUInt8) =
      Rfc1321.lengthField len := by
  have hbits : bits.toNat = 8 * len % 2 ^ 64 := by
    rw [h, UInt64.toNat_mul, UInt64.toNat_ofNat', Nat.mul_comm]
    change 8 * (len % 2 ^ 64) % 2 ^ 64 = _
    omega
  refine List.map_congr_left fun i hi => ?_
  have hi : i < 8 := List.mem_range.mp hi
  rw [← UInt8.toNat_inj, UInt64.toNat_toUInt8, UInt64.toNat_shiftRight, hbits, UInt8.toNat_ofNat',
    UInt64.toNat_ofNat', Nat.shiftRight_eq_div_pow]
  interval_cases i <;> simp only [Nat.reduceMul, Nat.reducePow, Nat.reduceMod] <;> omega

theorem digest_eq (w : Md5Words) :
    wr32le w.a ++ wr32le w.b ++ wr32le w.c ++ wr32le w.d = Rfc1321.digest w := by
  have hword (x : UInt32) : wr32le x = [UInt8.ofNat x.toNat, UInt8.ofNat (x.toNat / 2 ^ 8),
      UInt8.ofNat (x.toNat / 2 ^ 16), UInt8.ofNat (x.toNat / 2 ^ 24)] := by
    simp only [wr32le, List.cons.injEq, and_true, ← UInt8.toNat_inj]
    simp [Nat.shiftRight_eq_div_pow]
  simp [hword, Rfc1321.digest]

theorem Fed.final {data : Bytes} {ctx : Md5Ctx} (h : Fed data ctx) :
    md5Final ctx = Rfc1321.md5 data := by
  have hmod := h.absorbed.length_mod
  have hbuf := h.absorbed.length_lt
  have hzeros : (if ctx.buf.length < 56 then 56 - ctx.buf.length else 120 - ctx.buf.length) - 1 =
      (119 - data.length % 64) % 64 := by
    split <;> omega
  have hfed := (h.update (0x80 :: List.replicate ((119 - data.length % 64) % 64) 0)).update
    (Rfc1321.lengthField data.length)
  rw [List.append_assoc] at hfed
  have hfield : (Rfc1321.lengthField data.length).length = 8 := by simp [Rfc1321.lengthField]
  have hwords := Absorbed.eq_hash hfield hfed.absorbed
  rw [Rfc1321.md5, ← md5Block_eq]
  simp only [md5Final, hzeros, lenLe_eq (congrArg (· * 8) h.len), digest_eq]
  exact congrArg Rfc1321.digest hwords

theorem md5Final_foldl (pieces : List Bytes) :
    md5Final (pieces.foldl md5Update {}) = Rfc1321.md5 pieces.flatten :=
  (Fed.init.updates pieces).final

/-! ## The Digest response -/

theorem hexDigits_eq (x : UInt8) :
    [hexDigit (x >>> 4), hexDigit (x &&& 0x0F)] =
      [octet (asciiText "0123456789abcdef") (x.toNat / 16),
        octet (asciiText "0123456789abcdef") (x.toNat % 16)] := by
  revert x
  exact forall_octet (by decide +kernel)

theorem md5Hex_eq (pieces : List Bytes) : md5Hex pieces = Rfc2617.H pieces.flatten := by
  rw [md5Hex, hexText, md5Final_foldl, Rfc2617.H]
  congr 1
  funext x
  exact hexDigits_eq x

/-- However a string is cut into updates, MD5 is that of RFC 1321, and the response is the
request-digest of RFC 2617. -/
theorem imsDigestMd5Response_rfc2617 :
    (∀ pieces : List Bytes,
      md5Final (pieces.foldl md5Update {}) = Rfc1321.md5 pieces.flatten) ∧
    ∀ username realm password method uri nonce nc cnonce : Bytes,
      imsDigestMd5Response username realm password method uri nonce
          (some (nc, cnonce, asciiText "auth")) =
        Rfc2617.requestDigest username realm password method uri nonce
          (some (nc, cnonce, asciiText "auth")) ∧
      imsDigestMd5Response username realm password method uri nonce none =
        Rfc2617.requestDigest username realm password method uri nonce none := by
  have hcolon : asciiText ":" = [0x3A] := by decide
  refine ⟨md5Final_foldl, fun username realm password method uri nonce nc cnonce => ⟨?_, ?_⟩⟩
  · simp [imsDigestMd5Response, md5Hex_eq, Rfc2617.requestDigest, Rfc2617.KD, Rfc2617.colon, hcolon]
  · simp [imsDigestMd5Response, md5Hex_eq, Rfc2617.requestDigest, Rfc2617.KD, Rfc2617.colon, hcolon]

end VirtualLte.Ims
