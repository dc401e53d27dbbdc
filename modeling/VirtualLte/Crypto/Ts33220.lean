import VirtualLte.Crypto.Milenage
import VirtualLte.Lib.Access

/-!
# The string of the key derivation function

TS 33.220 B.2 authenticates FC and then each parameter with its length in two octets.  The
source leaves an empty parameter out with its length, and it assembles the string in 512
octets whatever the lengths are.

* `encode_inj`: a string is parsed from its end, where the last length stands.
* `kdfString_eq_encode`: what the source authenticates is the encoding of the parameters
  that are not empty.
-/

namespace VirtualLte.Crypto

namespace Ts33220

/-- A parameter with its length. -/
def param (p : Bytes) : Bytes := p ++ [UInt8.ofNat (p.length / 256), UInt8.ofNat p.length]

def encode (ps : List Bytes) : Bytes := ps.flatMap param

/-- The string S of B.2. -/
def string (fc : UInt8) (ps : List Bytes) : Bytes := fc :: encode ps

end Ts33220

open Ts33220

/-- The string that the source assembles: `ue_3gpp_kdf` has two parameters, `kdf_3p` three. -/
def kdfString (fc : UInt8) (ps : List Bytes) : Bytes := fc :: ps.flatMap kdfParam

theorem ue3gppKdf_eq (key : Bytes) (fc : UInt8) (p0 p1 : Bytes) :
    ue3gppKdf key fc p0 p1 = ueHmacSha256 key (kdfString fc [p0, p1]) := by
  simp [ue3gppKdf, kdfString]

theorem kdf3p_eq (key : Bytes) (fc : UInt8) (p0 p1 p2 : Bytes) :
    kdf3p key fc p0 p1 p2 = ueHmacSha256 key (kdfString fc [p0, p1, p2]) := by
  simp [kdf3p, kdfString]

/-- The writes into the string buffer from `pos` on: each parameter that is not empty is
copied, and its length follows in two octets. -/
def tracedParams (pos : Nat) : List Bytes → Access Unit
  | [] => pure ()
  | p :: ps =>
    if UInt16.ofNat p.length > 0 then do
      let l := (UInt16.ofNat p.length).toNat
      Access.copy 0 pos l
      Access.write (pos + l)
      Access.write (pos + l + 1)
      tracedParams (pos + l + 2) ps
    else tracedParams pos ps

def tracedKdf (ps : List Bytes) : Access Unit := do
  Access.write 0
  tracedParams 1 ps

/-- The lengths travel as `uint16_t`. -/
def ShortParams (ps : List Bytes) : Prop := ∀ p ∈ ps, p.length < 2 ^ 16

instance (ps : List Bytes) : Decidable (ShortParams ps) := inferInstanceAs (Decidable (∀ p ∈ ps, _))

theorem kdfParam_eq {p : Bytes} (hp : p.length < 2 ^ 16) :
    kdfParam p = if p = [] then [] else param p := by
  have hlen : (UInt16.ofNat p.length).toNat = p.length := by simpa using hp
  unfold kdfParam param
  by_cases hnil : p = []
  · simp [hnil]
  · have hpos : UInt16.ofNat p.length > 0 := by
      rw [gt_iff_lt, UInt16.lt_iff_toNat_lt, hlen]
      exact List.length_pos_iff.mpr hnil
    have hhigh : (UInt16.ofNat p.length >>> 8).toUInt8 = UInt8.ofNat (p.length / 256) := by
      rw [← UInt8.toNat_inj, UInt16.toNat_toUInt8, UInt16.toNat_shiftRight, hlen, UInt8.toNat_ofNat',
        Nat.shiftRight_eq_div_pow]
      rfl
    have hlow : (UInt16.ofNat p.length).toUInt8 = UInt8.ofNat p.length := by
      rw [← UInt8.toNat_inj, UInt16.toNat_toUInt8, hlen, UInt8.toNat_ofNat']
    rw [if_pos hpos, if_neg hnil, hlen, List.take_length, hhigh, hlow]

theorem encode_concat (ps : List Bytes) (p : Bytes) : encode (ps ++ [p]) = encode ps ++ param p := by
  simp [encode]

/-- Parameters of less than 2^16 octets are recovered from the end of the string. -/
theorem encode_inj {ps qs : List Bytes} (hps : ShortParams ps) (hqs : ShortParams qs)
    (h : encode ps = encode qs) : ps = qs := by
  induction ps using List.reverseRecOn generalizing qs with
  | nil =>
    cases qs with
    | nil => rfl
    | cons q qs => simp [encode, param] at h
  | append_singleton ps p ih =>
    cases qs using List.reverseRecOn with
    | nil => simp [encode, param] at h
    | append_singleton qs q =>
      rw [encode_concat, encode_concat, param, param, ← List.append_assoc, ← List.append_assoc] at h
      obtain ⟨hbody, hlength⟩ := List.append_inj' h rfl
      have hsame : p.length = q.length := by
        have hp := hps p (by simp)
        have hq := hqs q (by simp)
        simp only [List.cons.injEq, ← UInt8.toNat_inj, UInt8.toNat_ofNat'] at hlength
        omega
      obtain ⟨hrest, rfl⟩ := List.append_inj' hbody hsame
      rw [ih (fun p hp => hps p (by simp [hp])) (fun q hq => hqs q (by simp [hq])) hrest]

theorem kdfString_eq_encode (fc : UInt8) {ps : List Bytes} (hps : ShortParams ps) :
    kdfString fc ps = fc :: encode (ps.filter (· ≠ [])) := by
  unfold kdfString encode
  congr 1
  induction ps with
  | nil => rfl
  | cons p ps ih =>
    obtain ⟨hp, hrest⟩ := List.forall_mem_cons.mp hps
    rw [List.flatMap_cons, kdfParam_eq hp, ih hrest]
    by_cases hnil : p = [] <;> simp [hnil]

theorem filter_nonempty {ps : List Bytes} (h : [] ∉ ps) : ps.filter (· ≠ []) = ps := by
  refine List.filter_eq_self.mpr fun p hp => decide_eq_true ?_
  rintro rfl
  exact h hp

theorem ShortParams.filter {ps : List Bytes} (hps : ShortParams ps) :
    ShortParams (ps.filter (· ≠ [])) :=
  fun p hp => hps p (List.mem_filter.mp hp).1

/-- An empty parameter is what keeps the string from being that of the standard. -/
theorem kdfString_eq_string_iff (fc : UInt8) {ps : List Bytes} (hps : ShortParams ps) :
    kdfString fc ps = string fc ps ↔ [] ∉ ps := by
  rw [kdfString_eq_encode fc hps, string, List.cons_inj_right]
  constructor
  · intro h hmem
    rw [← encode_inj hps.filter hps h] at hmem
    simp at hmem
  · intro hmem
    rw [filter_nonempty hmem]

/-- No other parameters of the same number give the same string. -/
def Unambiguous (fc : UInt8) (ps : List Bytes) : Prop :=
  ∀ fc' ps', ps'.length = ps.length → ShortParams ps' → kdfString fc' ps' = kdfString fc ps →
    fc' = fc ∧ ps' = ps

theorem unambiguous_of_nonempty (fc : UInt8) {ps : List Bytes} (hps : ShortParams ps)
    (hmem : [] ∉ ps) : Unambiguous fc ps := by
  intro fc' ps' hlen hps' h
  rw [kdfString_eq_encode fc hps, kdfString_eq_encode fc' hps', filter_nonempty hmem] at h
  obtain ⟨hfc, henc⟩ := List.cons.inj h
  have hsame : ps'.filter (· ≠ []) = ps := encode_inj hps'.filter hps henc
  -- as many parameters are left as there were
  have hall : ps'.filter (· ≠ []) = ps' :=
    List.filter_sublist.eq_of_length_le (by rw [hsame]; omega)
  exact ⟨hfc, hall.symm.trans hsame⟩

/-! ## The buffer -/

theorem tracedParams_within {cap : Nat} {ps : List Bytes} (hps : ShortParams ps) {pos : Nat}
    (hpos : pos ≤ cap) :
    (tracedParams pos ps).Within (2 ^ 16) cap ↔ pos + (ps.flatMap kdfParam).length ≤ cap := by
  induction ps generalizing pos with
  | nil => simpa [tracedParams] using hpos
  | cons p ps ih =>
    obtain ⟨hp, hrest⟩ := List.forall_mem_cons.mp hps
    have hlen : (UInt16.ofNat p.length).toNat = p.length := by simpa using hp
    rw [tracedParams, List.flatMap_cons, List.length_append]
    by_cases hl : UInt16.ofNat p.length > 0
    · have hsize : (kdfParam p).length = p.length + 2 := by
        simp [kdfParam, hl, hlen]
      simp only [if_pos hl, Access.within_bind, Access.within_write, hlen, hsize]
      constructor
      · rintro ⟨-, -, hlast, hrec⟩
        have hnext := (ih hrest (by omega)).mp hrec
        omega
      · intro hfits
        exact ⟨Access.within_copy (by omega) (by omega), by omega, by omega,
          (ih hrest (by omega)).mpr (by omega)⟩
    · have hnone : kdfParam p = [] := by simp [kdfParam, hl]
      rw [if_neg hl, hnone, ih hrest hpos, List.length_nil, Nat.zero_add]

theorem tracedKdf_within (fc : UInt8) {ps : List Bytes} (hps : ShortParams ps) :
    (tracedKdf ps).Within (2 ^ 16) 512 ↔ (kdfString fc ps).length ≤ 512 := by
  rw [tracedKdf, Access.within_bind, Access.within_write, tracedParams_within hps (by omega),
    kdfString, List.length_cons]
  omega

theorem kdfString_length (fc : UInt8) {ps : List Bytes} (hps : ShortParams ps) (hmem : [] ∉ ps) :
    (kdfString fc ps).length = 1 + (ps.map (·.length + 2)).sum := by
  rw [(kdfString_eq_string_iff fc hps).mpr hmem, string, List.length_cons, Nat.add_comm]
  simp [encode, param, List.length_flatMap]

/-- The string is that of the standard, stands for its parameters only and stays in its
buffer exactly if no parameter is empty and together they fit. -/
theorem kdfString_sound_iff (fc : UInt8) (ps : List Bytes) (hps : ShortParams ps) :
    (kdfString fc ps = string fc ps ∧ Unambiguous fc ps ∧ (tracedKdf ps).Within (2 ^ 16) 512) ↔
      [] ∉ ps ∧ 1 + (ps.map (·.length + 2)).sum ≤ 512 := by
  rw [kdfString_eq_string_iff fc hps, tracedKdf_within fc hps]
  constructor
  · rintro ⟨hmem, -, hfits⟩
    exact ⟨hmem, kdfString_length fc hps hmem ▸ hfits⟩
  · rintro ⟨hmem, hfits⟩
    exact ⟨hmem, unambiguous_of_nonempty fc hps hmem, (kdfString_length fc hps hmem).symm ▸ hfits⟩

/-- The two parameters of a NAS key. -/
theorem kdfString_sound_algorithm :
    kdfString 0x69 [[0x02], [0x02]] = string 0x69 [[0x02], [0x02]] ∧
      Unambiguous 0x69 [[0x02], [0x02]] ∧ (tracedKdf [[0x02], [0x02]]).Within (2 ^ 16) 512 :=
  (kdfString_sound_iff 0x69 [[0x02], [0x02]] (by decide)).mpr (by decide)

/-- An empty first parameter and an empty second one give the same string. -/
theorem emptyParam_ambiguous :
    ¬ ∀ fc ps, ps.length = 2 → ShortParams ps → kdfString fc ps = string fc ps ∧
      Unambiguous fc ps ∧ (tracedKdf ps).Within (2 ^ 16) 512 := by
  intro h
  have hsame := (h 0x6c [[], [0x01]] rfl (by decide)).2.1 0x6c [[0x01], []] rfl (by decide) (by decide)
  exact absurd hsame.2 (by decide)

end VirtualLte.Crypto
