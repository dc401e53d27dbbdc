import Mathlib.Tactic.Common

/-!
# Tagged elements

A message part that is a row of elements, each an identifier octet with a value, in the
layouts that layer 3 signalling knows: half an octet, a fixed number of octets, and a value
behind a length of one or two octets.  Which identifier has which layout is a parameter.

* `Element.octets` and `octets` lay elements out; `readElement` and `readAll` read them.
* `Element.Wf` says that the value fits the layout.
* `readElement_octets`, `readAll_octets`: well-formed elements are read back.
* `value?` is the value of the first element with an identifier; `value?_eq_some` says where
  that element stands.
-/

namespace Tlv

inductive Format where
  | half
  | fixed (n : Nat)
  | short
  | long
  deriving DecidableEq, Repr

/-- An identifier and a value.  Half an octet is a value of one octet below sixteen, and its
identifier has zeros in the low four bits. -/
structure Element where
  iei : UInt8
  value : List UInt8
  deriving DecidableEq, Repr

variable (format : UInt8 → Format)

def Element.octets (e : Element) : List UInt8 :=
  match format e.iei with
  | .half => [e.iei ||| e.value.headD 0]
  | .fixed _ => e.iei :: e.value
  | .short => e.iei :: UInt8.ofNat e.value.length :: e.value
  | .long => e.iei :: UInt8.ofNat (e.value.length / 256) :: UInt8.ofNat e.value.length :: e.value

def octets (es : List Element) : List UInt8 := es.flatMap (Element.octets format)

/-- The value is one that the layout can carry. -/
def Element.Wf (e : Element) : Prop :=
  match format e.iei with
  | .half => ∃ v, e.value = [v] ∧ (e.iei ||| v) &&& 0xF0 = e.iei ∧ (e.iei ||| v) &&& 0x0F = v ∧
      format (e.iei ||| v) = .half
  | .fixed n => e.value.length = n
  | .short => e.value.length < 256
  | .long => e.value.length < 65536

/-! ## Reading -/

/-- An element whose value is the next `n` octets. -/
def readValue (iei : UInt8) (n : Nat) (b : List UInt8) : Option (Element × List UInt8) :=
  if b.length < n then none else some (⟨iei, b.take n⟩, b.drop n)

def readElement : List UInt8 → Option (Element × List UInt8)
  | [] => none
  | x :: rest =>
    match format x with
    | .half => some (⟨x &&& 0xF0, [x &&& 0x0F]⟩, rest)
    | .fixed n => readValue x n rest
    | .short =>
      match rest with
      | len :: rest => readValue x len.toNat rest
      | [] => none
    | .long =>
      match rest with
      | hi :: lo :: rest => readValue x (hi.toNat * 256 + lo.toNat) rest
      | _ => none

/-- Elements to the end of the octets; the fuel is the number of octets. -/
def readAll : Nat → List UInt8 → Option (List Element)
  | _, [] => some []
  | 0, _ :: _ => none
  | fuel + 1, x :: rest => do
    let (e, rest) ← readElement format (x :: rest)
    let es ← readAll fuel rest
    some (e :: es)

/-- The value of the first element with an identifier. -/
def value? (iei : UInt8) (es : List Element) : Option (List UInt8) :=
  (es.find? fun e => e.iei = iei).map Element.value

@[simp] theorem octets_nil : octets format [] = [] := rfl

@[simp] theorem octets_cons (e : Element) (es : List Element) :
    octets format (e :: es) = e.octets format ++ octets format es := by
  rw [octets, List.flatMap_cons, octets]

@[simp] theorem octets_append (es fs : List Element) :
    octets format (es ++ fs) = octets format es ++ octets format fs := by
  rw [octets, List.flatMap_append, octets, octets]

theorem value?_cons (iei : UInt8) (e : Element) (es : List Element) :
    value? iei (e :: es) = if e.iei = iei then some e.value else value? iei es := by
  rw [value?, List.find?_cons]
  by_cases h : e.iei = iei
  · simp [h]
  · simp [h, value?]

/-- Where the first element with an identifier stands. -/
theorem value?_eq_some {iei : UInt8} {es : List Element} {v : List UInt8}
    (h : value? iei es = some v) :
    ∃ pre post, es = pre ++ ⟨iei, v⟩ :: post ∧ ∀ e ∈ pre, e.iei ≠ iei := by
  obtain ⟨e, hfind, rfl⟩ := Option.map_eq_some_iff.mp h
  obtain ⟨hiei, pre, post, rfl, hpre⟩ := List.find?_eq_some_iff_append.mp hfind
  have hiei' : e.iei = iei := by simpa using hiei
  subst hiei'
  exact ⟨pre, post, rfl, fun f hf => by simpa using hpre f hf⟩

theorem value?_eq_none {iei : UInt8} {es : List Element} (h : ∀ e ∈ es, e.iei ≠ iei) :
    value? iei es = none := by
  rw [value?, Option.map_eq_none_iff, List.find?_eq_none]
  exact fun e he => by simpa using h e he

/-- The octets from an element on. -/
theorem drop_octets (pre post : List Element) (e : Element) :
    (octets format (pre ++ e :: post)).drop (octets format pre).length =
      e.octets format ++ octets format post := by
  rw [octets_append, octets_cons, List.drop_left]

theorem readValue_append (iei : UInt8) (value rest : List UInt8) :
    readValue iei value.length (value ++ rest) = some (⟨iei, value⟩, rest) := by
  rw [readValue, if_neg (by simp), List.take_left, List.drop_left]

theorem Element.octets_ne_nil (e : Element) : e.octets format ≠ [] := by
  unfold Element.octets
  split
  · exact List.cons_ne_nil _ _
  · exact List.cons_ne_nil _ _
  · exact List.cons_ne_nil _ _
  · exact List.cons_ne_nil _ _

variable {format}

theorem readElement_octets {e : Element} (h : e.Wf format) (rest : List UInt8) :
    readElement format (e.octets format ++ rest) = some (e, rest) := by
  unfold Element.Wf at h
  unfold Element.octets
  cases hformat : format e.iei with
  | half =>
    rw [hformat] at h
    obtain ⟨v, hvalue, hhigh, hlow, hhalf⟩ := h
    rw [hvalue, List.headD_cons]
    simp only [List.cons_append, List.nil_append, readElement, hhalf, hhigh, hlow]
    rw [← hvalue]
  | fixed n =>
    rw [hformat] at h
    subst h
    simp only [List.cons_append, readElement, hformat, readValue_append]
  | short =>
    rw [hformat] at h
    have hlen : (UInt8.ofNat e.value.length).toNat = e.value.length := by
      rw [UInt8.toNat_ofNat', Nat.mod_eq_of_lt h]
    simp only [List.cons_append, readElement, hformat, hlen, readValue_append]
  | long =>
    rw [hformat] at h
    have hlen : (UInt8.ofNat (e.value.length / 256)).toNat * 256 +
        (UInt8.ofNat e.value.length).toNat = e.value.length := by
      have hhigh : e.value.length / 256 < 2 ^ 8 := by omega
      rw [UInt8.toNat_ofNat', UInt8.toNat_ofNat', Nat.mod_eq_of_lt hhigh]
      omega
    simp only [List.cons_append, readElement, hformat, hlen, readValue_append]

theorem readAll_octets {es : List Element} (h : ∀ e ∈ es, e.Wf format) {fuel : Nat}
    (hfuel : (octets format es).length ≤ fuel) : readAll format fuel (octets format es) = some es := by
  induction es generalizing fuel with
  | nil =>
    cases fuel with
    | zero => rfl
    | succ fuel => rfl
  | cons e es ih =>
    obtain ⟨x, value, hx⟩ := List.exists_cons_of_ne_nil (e.octets_ne_nil format)
    have hread := readElement_octets (h e List.mem_cons_self) (octets format es)
    rw [octets_cons, List.length_append, hx, List.length_cons] at hfuel
    rw [hx, List.cons_append] at hread
    cases fuel with
    | zero => omega
    | succ fuel =>
      have hrest : readAll format fuel (octets format es) = some es :=
        ih (fun f hf => h f (List.mem_cons_of_mem e hf)) (by omega)
      rw [octets_cons, hx, List.cons_append, readAll, hread]
      simp only [Option.bind_eq_bind, Option.bind_some, hrest]

end Tlv
