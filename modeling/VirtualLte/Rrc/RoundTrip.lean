import VirtualLte.Rrc

/-!
# RRC round trip

What the bit writer writes, the bit reader reads back.  The lemmas go up in three
groups:

* a number and its bits, an octet string and its bits (`natOfBits_bitsOfNat`,
  `bitsOfBytes_bytesOfBits`);
* one field: a bit field, an octet string, a length in either form
  (`ueRrcBrGetBits_append`, `ueRrcBrGetBytes_append`, `uperGetLength_append`);
* the uplink transfer of a NAS message (`ulInfoTransferNas_encode`).

The UE never reads an uplink message.  `ulInfoTransferNas` is the gNB's reading of it.
-/

namespace VirtualLte.Rrc

/-! ## Numbers and bits -/

theorem natOfBits_foldl (acc : Nat) (bits : List Bool) :
    bits.foldl (fun acc b => acc * 2 + b.toNat) acc = acc * 2 ^ bits.length + natOfBits bits := by
  induction bits generalizing acc with
  | nil => simp [natOfBits]
  | cons b rest ih =>
    rw [natOfBits, List.foldl_cons, List.foldl_cons, ih, ih, List.length_cons, Nat.pow_succ,
      Nat.zero_mul, Nat.zero_add, Nat.add_mul, Nat.mul_assoc, Nat.mul_comm 2, Nat.add_assoc]

theorem natOfBits_cons (b : Bool) (bits : List Bool) :
    natOfBits (b :: bits) = b.toNat * 2 ^ bits.length + natOfBits bits := by
  rw [natOfBits, List.foldl_cons, natOfBits_foldl, Nat.zero_mul, Nat.zero_add]

theorem natOfBits_lt (bits : List Bool) : natOfBits bits < 2 ^ bits.length := by
  induction bits with
  | nil => simp [natOfBits]
  | cons b rest ih =>
    have hb : b.toNat * 2 ^ rest.length ≤ 1 * 2 ^ rest.length :=
      Nat.mul_le_mul_right _ (Bool.toNat_le b)
    rw [natOfBits_cons, List.length_cons, Nat.pow_succ]
    omega

theorem natOfBits_bitsOfNat (v n : Nat) : natOfBits (bitsOfNat v n) = v % 2 ^ n := by
  induction n with
  | zero => simp [bitsOfNat, natOfBits, Nat.mod_one]
  | succ n ih =>
    rw [bitsOfNat, natOfBits_cons, ih, bitsOfNat_length, Nat.toNat_testBit, Nat.mod_pow_succ,
      Nat.mul_comm, Nat.add_comm]

/-- The bits depend on the value modulo their number. -/
theorem bitsOfNat_congr {v w n : Nat} (h : v % 2 ^ n = w % 2 ^ n) : bitsOfNat v n = bitsOfNat w n := by
  induction n with
  | zero => rfl
  | succ n ih =>
    have hlow : v % 2 ^ n = w % 2 ^ n := by
      have hdvd : 2 ^ n ∣ 2 ^ (n + 1) := ⟨2, Nat.pow_succ 2 n⟩
      rw [← Nat.mod_mod_of_dvd v hdvd, h, Nat.mod_mod_of_dvd w hdvd]
    have htop : v.testBit n = w.testBit n := by
      have hv := Nat.testBit_mod_two_pow v (n + 1) n
      have hw := Nat.testBit_mod_two_pow w (n + 1) n
      rw [h] at hv
      simpa using hv.symm.trans hw
    rw [bitsOfNat, bitsOfNat, htop, ih hlow]

theorem bitsOfNat_natOfBits (bits : List Bool) : bitsOfNat (natOfBits bits) bits.length = bits := by
  induction bits with
  | nil => rfl
  | cons b rest ih =>
    have hlt := natOfBits_lt rest
    have htop : (natOfBits (b :: rest)).testBit rest.length = b := by
      rw [natOfBits_cons, Nat.mul_comm, Nat.two_pow_add_eq_or_of_lt hlt, Nat.testBit_or,
        Nat.testBit_lt_two_pow hlt, Bool.or_false, Nat.testBit_two_pow_mul]
      cases b with
      | true => simp
      | false => simp
    have hlow : bitsOfNat (natOfBits (b :: rest)) rest.length = bitsOfNat (natOfBits rest) rest.length :=
      bitsOfNat_congr (by rw [natOfBits_cons, Nat.mul_comm, Nat.mul_add_mod])
    rw [List.length_cons, bitsOfNat, htop, hlow, ih]

/-- A field of `m + n` bits is the high part before the low part. -/
theorem bitsOfNat_add (v m n : Nat) : bitsOfNat v (m + n) = bitsOfNat (v >>> n) m ++ bitsOfNat v n := by
  induction m with
  | zero => simp [bitsOfNat]
  | succ m ih =>
    rw [show m + 1 + n = (m + n) + 1 by omega, bitsOfNat, bitsOfNat, ih, Nat.testBit_shiftRight,
      Nat.add_comm n m, List.cons_append]

/-! ## Octets and bits -/

theorem bitsOfBytes_cons (x : UInt8) (rest : Bytes) :
    bitsOfBytes (x :: rest) = bitsOfNat x.toNat 8 ++ bitsOfBytes rest := by
  rw [bitsOfBytes, bitsOfBytes, List.flatMap_cons]

/-- Eight bits packed into an octet are read back as they were. -/
theorem bitsOfNat_packed {bits : List Bool} (h : bits.length = 8) :
    bitsOfNat (UInt8.ofNat (natOfBits bits)).toNat 8 = bits := by
  have hlt := natOfBits_lt bits
  rw [h] at hlt
  rw [UInt8.toNat_ofNat', Nat.mod_eq_of_lt hlt, ← h]
  exact bitsOfNat_natOfBits bits

/-- Packing adds fewer than eight zero bits. -/
theorem bitsOfBytes_bytesOfBits {fuel : Nat} {bits : List Bool} (hfuel : bits.length ≤ fuel) :
    ∃ pad < 8, bitsOfBytes (bytesOfBits fuel bits) = bits ++ List.replicate pad false := by
  induction fuel generalizing bits with
  | zero =>
    have hnil : bits = [] := List.length_eq_zero_iff.mp (by omega)
    exact ⟨0, by decide, by rw [hnil]; rfl⟩
  | succ fuel ih =>
    cases bits with
    | nil => exact ⟨0, by decide, rfl⟩
    | cons b rest =>
      rw [List.length_cons] at hfuel
      have htake : (((b :: rest) ++ List.replicate 7 false).take 8).length = 8 := by
        simp
      rw [bytesOfBits, bitsOfBytes_cons, bitsOfNat_packed htake]
      by_cases h8 : rest.length + 1 < 8
      · -- the last octet, filled up
        have hdrop : (b :: rest).drop 8 = [] := List.drop_of_length_le (by simp; omega)
        refine ⟨7 - rest.length, by omega, ?_⟩
        have hnil : bytesOfBits fuel [] = [] := by
          cases fuel with
          | zero => rfl
          | succ fuel => rfl
        rw [hdrop, hnil, List.take_append, List.take_of_length_le (by simp; omega),
          List.take_replicate, List.length_cons]
        rw [show min (8 - (rest.length + 1)) 7 = 7 - rest.length by omega]
        simp [bitsOfBytes]
      · have hdrop : ((b :: rest).drop 8).length ≤ fuel := by
          rw [List.length_drop, List.length_cons]
          omega
        obtain ⟨pad, hpad, heq⟩ := ih hdrop
        refine ⟨pad, hpad, ?_⟩
        rw [heq, List.take_append_of_le_length (by simp; omega), ← List.append_assoc,
          List.take_append_drop]

/-! ## Fields -/

/-- A bit field is read back modulo its width. -/
theorem ueRrcBrGetBits_append {n : Nat} (hpos : 0 < n) (hmax : n ≤ 64) (v : Nat)
    (rest : List Bool) :
    ueRrcBrGetBits n (bitsOfNat v n ++ rest) = some (v % 2 ^ n, rest) := by
  have hlen : (bitsOfNat v n).length = n := bitsOfNat_length v n
  unfold ueRrcBrGetBits
  rw [if_neg (by omega), if_neg (by rw [List.length_append, hlen]; omega),
    List.take_append_of_le_length (by omega), List.drop_append_of_le_length (by omega),
    List.take_of_length_le (by omega), List.drop_of_length_le (by omega), List.nil_append,
    natOfBits_bitsOfNat]

theorem ueRrcBrGetBytes_append (b : Bytes) (rest : List Bool) :
    ueRrcBrGetBytes b.length (bitsOfBytes b ++ rest) = some (b, rest) := by
  induction b with
  | nil => rfl
  | cons x tail ih =>
    have hx : UInt8.ofNat (x.toNat % 2 ^ 8) = x := by
      rw [Nat.mod_eq_of_lt x.toNat_lt]
      exact UInt8.ofNat_toNat
    rw [List.length_cons, ueRrcBrGetBytes, bitsOfBytes_cons, List.append_assoc,
      ueRrcBrGetBits_append (by decide) (by decide)]
    simp only [Option.bind_eq_bind, Option.bind_some, ih, hx]

/-- The bits of a length determinant: one octet below 128, two from there on. -/
def lengthBits (len : Nat) : List Bool :=
  if len < 128 then bitsOfNat len 8 else bitsOfNat (0x8000 ||| len) 16

/-- The first octet of the long form has its two top bits fixed. -/
theorem longForm_octets : ∀ q < 64, (128 + q) &&& 0x80 ≠ 0 ∧ (128 + q) &&& 0xC0 = 0x80 ∧
    (128 + q) &&& 0x3F = q := by
  decide

theorem uperGetLength_append {len : Nat} (h : len < 16384) (rest : List Bool) :
    uperGetLength (lengthBits len ++ rest) = some (len, rest) := by
  unfold uperGetLength lengthBits
  split
  · rename_i hshort
    have hbit : ∀ n < 128, n &&& 0x80 = 0 := by decide
    rw [ueRrcBrGetBits_append (by decide) (by decide), Nat.mod_eq_of_lt (by omega)]
    simp only [Option.bind_eq_bind, Option.bind_some, hbit len hshort, if_true]
  · -- the long form, split into its two octets
    have hor : 0x8000 ||| len = 2 ^ 15 + len :=
      (Nat.two_pow_add_eq_or_of_lt (i := 15) (by omega) 1).symm
    have hhigh : (2 ^ 15 + len) >>> 8 % 2 ^ 8 = 128 + len / 256 := by
      rw [Nat.shiftRight_eq_div_pow]
      omega
    have hlow : (2 ^ 15 + len) % 2 ^ 8 = len % 256 := by omega
    have hjoin : (len / 256) <<< 8 ||| len % 256 = len := by
      rw [Nat.shiftLeft_eq, Nat.mul_comm, ← Nat.two_pow_add_eq_or_of_lt (by omega)]
      omega
    obtain ⟨hset, hform, hmask⟩ := longForm_octets (len / 256) (by omega)
    rw [hor, bitsOfNat_add (2 ^ 15 + len) 8 8, List.append_assoc,
      ueRrcBrGetBits_append (by decide) (by decide), hhigh]
    simp only [Option.bind_eq_bind, Option.bind_some, if_neg hset, if_pos hform]
    rw [ueRrcBrGetBits_append (by decide) (by decide), hlow]
    simp only [Option.bind_some, hmask, hjoin]

/-! ## What the writer wrote -/

theorem ueRrcBwPutBits_bits {bw bw' : UeRrcBitwriter} {val nbits : Nat}
    (h : ueRrcBwPutBits bw val nbits = some bw') : bw'.bits = bw.bits ++ bitsOfNat val nbits := by
  unfold ueRrcBwPutBits at h
  split at h
  · cases h
  split at h
  · cases h
  · cases h
    rfl

theorem ueRrcBwPutBytes_bits {bw bw' : UeRrcBitwriter} {b : Bytes}
    (h : ueRrcBwPutBytes bw b = some bw') : bw'.bits = bw.bits ++ bitsOfBytes b := by
  induction b generalizing bw with
  | nil =>
    cases h
    exact (List.append_nil _).symm
  | cons x rest ih =>
    simp only [ueRrcBwPutBytes, Option.bind_eq_bind, Option.bind_eq_some_iff] at h
    obtain ⟨bw₁, hput, hrest⟩ := h
    rw [ih hrest, ueRrcBwPutBits_bits hput, bitsOfBytes_cons, List.append_assoc]

theorem uperPutLength_bits {bw bw' : UeRrcBitwriter} {len : Nat}
    (h : uperPutLength bw len = some bw') : bw'.bits = bw.bits ++ lengthBits len := by
  unfold uperPutLength at h
  unfold lengthBits
  split at h
  · rename_i hshort
    rw [if_pos hshort]
    exact ueRrcBwPutBits_bits h
  · rename_i hlong
    rw [if_neg hlong]
    split at h
    · exact ueRrcBwPutBits_bits h
    · cases h

/-! ## ULInformationTransfer -/

/-- The NAS octet string of an ULInformationTransfer, as the gNB reads it: the message
type, the bitmap with the NAS message alone present, the octet string, and nothing
behind it but the zero bits that fill the last octet. -/
def ulInfoTransferNas (rrc : Bytes) : Option Bytes := do
  let (choice, br) ← ueRrcBrGetBits 1 (ueRrcBrInit rrc)
  let (c1Index, br) ← ueRrcBrGetBits 4 br
  let (critExt, br) ← ueRrcBrGetBits 1 br
  let (optBitmap, br) ← ueRrcBrGetBits 3 br
  if choice ≠ 0 ∨ c1Index ≠ 7 ∨ critExt ≠ 0 ∨ optBitmap ≠ 0b100 then none
  else
    let (nasLen, br) ← uperGetLength br
    let (nas, br) ← ueRrcBrGetBytes nasLen br
    if br.length < 8 ∧ br.all (· = false) then some nas else none

/-- The gNB reads the NAS message the UE wrote. -/
theorem ulInfoTransferNas_encode {bufLen : Nat} {nas rrc : Bytes}
    (h : ueRrcEncodeUlInfoTransfer bufLen nas = some rrc) : ulInfoTransferNas rrc = some nas := by
  unfold ueRrcEncodeUlInfoTransfer at h
  split at h
  · cases h
  rename_i hsize
  have hlen : nas.length < 16384 := by
    simp only [ueRrcMaxNasSize] at hsize
    omega
  simp only [Option.bind_eq_bind, Option.bind_eq_some_iff] at h
  obtain ⟨bw₁, hput₁, bw₂, hput₂, bw₃, hput₃, bw₄, hput₄, bw₅, hput₅, bw₆, hput₆, hbytes⟩ := h
  have hbits : bw₆.bits = bitsOfNat 0 1 ++ (bitsOfNat 7 4 ++ (bitsOfNat 0 1 ++
      (bitsOfNat 0b100 3 ++ (lengthBits nas.length ++ bitsOfBytes nas)))) := by
    rw [ueRrcBwPutBytes_bits hput₆, uperPutLength_bits hput₅, ueRrcBwPutBits_bits hput₄,
      ueRrcBwPutBits_bits hput₃, ueRrcBwPutBits_bits hput₂, ueRrcBwPutBits_bits hput₁]
    simp only [ueRrcBwInit, List.nil_append, List.append_assoc]
  obtain ⟨pad, hpad, hread⟩ := bitsOfBytes_bytesOfBits (Nat.le_refl bw₆.bits.length)
  rw [← Option.some.inj hbytes, ulInfoTransferNas, ueRrcBrInit, UeRrcBitwriter.bytes, hread, hbits]
  simp only [List.append_assoc]
  rw [ueRrcBrGetBits_append (by decide) (by decide)]
  simp only [Option.bind_eq_bind, Option.bind_some]
  rw [ueRrcBrGetBits_append (by decide) (by decide)]
  simp only [Option.bind_some]
  rw [ueRrcBrGetBits_append (by decide) (by decide)]
  simp only [Option.bind_some]
  rw [ueRrcBrGetBits_append (by decide) (by decide)]
  simp only [Option.bind_some]
  rw [if_neg (by decide), uperGetLength_append hlen]
  simp only [Option.bind_some]
  rw [ueRrcBrGetBytes_append]
  simp [hpad]

end VirtualLte.Rrc
