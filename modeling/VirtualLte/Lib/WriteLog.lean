import Mathlib.Tactic.Common
import Mathlib.Data.List.Chain

/-!
# Memory as the list of its writes

A memory over any type of cells is the list of the writes made to it, newest first, each
an offset and the cells written there.  Cells that were never written have a default.

* `read` finds the newest write over an index.
* `Holds` says what the memory contains from an offset on.  It survives writes beside it
  (`Holds.write`), and it splits where its contents split (`holds_append`).
* `holds_of_mem` reads back each of several writes beside each other; `pairwise_beside`
  finds them beside each other from one to the next.
* `Below` bounds every index that was written.
* `clear` writes the default, as `memset` does.
* `snapshot` is the memory up to a length; `Holds.getElem?_snapshot` reads a part of it back.
-/

namespace WriteLog

variable {α : Type} (d : α)

abbrev Log (α : Type) := List (Nat × List α)

/-- The cell the newest write left at index `i`. -/
def read : Log α → Nat → α
  | [], _ => d
  | (off, data) :: log, i =>
    if off ≤ i ∧ i < off + data.length then data[i - off]?.getD d else read log i

/-- The memory contains `data` from `off` on. -/
def Holds (log : Log α) (off : Nat) (data : List α) : Prop :=
  ∀ k, k < data.length → read d log (off + k) = data[k]?.getD d

/-- Every index that was written is below `bound`. -/
def Below (log : Log α) (bound : Nat) : Prop :=
  ∀ w ∈ log, ∀ i, w.1 ≤ i → i < w.1 + w.2.length → i < bound

/-- The first `n` cells. -/
def snapshot (log : Log α) (n : Nat) : List α := (List.range n).map (read d log)

/-! ## Reading -/

theorem read_write_of_mem {log : Log α} {off i : Nat} {data : List α} (hlo : off ≤ i)
    (hhi : i < off + data.length) : read d ((off, data) :: log) i = data[i - off]?.getD d :=
  if_pos ⟨hlo, hhi⟩

theorem read_write_of_not_mem {log : Log α} {off i : Nat} {data : List α}
    (h : i < off ∨ off + data.length ≤ i) : read d ((off, data) :: log) i = read d log i :=
  if_neg (by omega)

variable {d}

theorem holds_nil (log : Log α) (off : Nat) : Holds d log off [] := nofun

/-- A write is read back. -/
theorem holds_write (log : Log α) (off : Nat) (data : List α) :
    Holds d ((off, data) :: log) off data := by
  intro k hk
  rw [read_write_of_mem d (by omega) (by omega), Nat.add_sub_cancel_left]

/-- A write beside it leaves the contents alone. -/
theorem Holds.write {log : Log α} {off off' : Nat} {data data' : List α} (h : Holds d log off data)
    (hbeside : off + data.length ≤ off' ∨ off' + data'.length ≤ off) :
    Holds d ((off', data') :: log) off data := by
  intro k hk
  rw [read_write_of_not_mem d (by omega)]
  exact h k hk

theorem holds_append {log : Log α} {off : Nat} {xs ys : List α} :
    Holds d log off (xs ++ ys) ↔ Holds d log off xs ∧ Holds d log (off + xs.length) ys := by
  constructor
  · refine fun h => ⟨fun k hk => ?_, fun k hk => ?_⟩
    · rw [h k (by rw [List.length_append]; omega), List.getElem?_append_left hk]
    · rw [Nat.add_assoc, h (xs.length + k) (by rw [List.length_append]; omega),
        List.getElem?_append_right (Nat.le_add_right _ _), Nat.add_sub_cancel_left]
  · rintro ⟨hxs, hys⟩ k hk
    rw [List.length_append] at hk
    by_cases hleft : k < xs.length
    · rw [hxs k hleft, List.getElem?_append_left hleft]
    · obtain ⟨j, rfl⟩ := Nat.exists_eq_add_of_le (Nat.not_lt.mp hleft)
      rw [← Nat.add_assoc, hys j (by omega), List.getElem?_append_right (Nat.le_add_right _ _),
        Nat.add_sub_cancel_left]

/-! ## Writes beside each other -/

/-- The two writes have no cell in common. -/
def Beside (v w : Nat × List α) : Prop := v.1 + v.2.length ≤ w.1 ∨ w.1 + w.2.length ≤ v.1

theorem Beside.symm {v w : Nat × List α} (h : Beside v w) : Beside w v := h.elim .inr .inl

/-- The second write ends where the first one starts, or before. -/
def Above (v w : Nat × List α) : Prop := w.1 + w.2.length ≤ v.1

instance : IsTrans (Nat × List α) Above where
  trans u v w huv hvw := by
    unfold Above at *
    omega

/-- Writes that go down through the memory are beside each other. -/
theorem pairwise_beside {ws : Log α} (h : ws.IsChain Above) : ws.Pairwise Beside :=
  (List.isChain_iff_pairwise.mp h).imp .inr

/-- Of writes beside each other, each one is read back. -/
theorem holds_of_mem {ws log : Log α} (h : ws.Pairwise Beside) {w : Nat × List α} (hw : w ∈ ws) :
    Holds d (ws ++ log) w.1 w.2 := by
  induction ws with
  | nil => cases hw
  | cons v ws ih =>
    obtain ⟨hv, hws⟩ := List.pairwise_cons.mp h
    rcases List.mem_cons.mp hw with rfl | hw
    · exact holds_write _ _ _
    · exact (ih hws hw).write (hv w hw).symm

/-- Writes beside it leave the contents alone. -/
theorem Holds.writes {ws log : Log α} {off : Nat} {data : List α} (h : Holds d log off data)
    (hbeside : ∀ w ∈ ws, Beside (off, data) w) : Holds d (ws ++ log) off data := by
  induction ws with
  | nil => exact h
  | cons v ws ih =>
    obtain ⟨hv, hws⟩ := List.forall_mem_cons.mp hbeside
    exact (ih hws).write hv

/-! ## Bounds -/

theorem below_nil (bound : Nat) : Below ([] : Log α) bound := nofun

theorem below_write {log : Log α} {off bound : Nat} {data : List α} :
    Below ((off, data) :: log) bound ↔
      (0 < data.length → off + data.length ≤ bound) ∧ Below log bound := by
  unfold Below
  rw [List.forall_mem_cons]
  refine and_congr_left' ⟨fun h hpos => ?_, fun h i hlo hhi => ?_⟩
  · have hlast := h (off + data.length - 1) (by dsimp only; omega) (by dsimp only; omega)
    omega
  · dsimp only at hlo hhi
    have hend := h (by omega)
    omega

/-! ## Clearing -/

/-- Write the default to `n` cells. -/
def clear (d : α) (off n : Nat) (log : Log α) : Log α :=
  if n ≠ 0 then (off, List.replicate n d) :: log else log

theorem holds_clear (log : Log α) (off n : Nat) :
    Holds d (clear d off n log) off (List.replicate n d) := by
  unfold clear
  split
  · exact holds_write _ _ _
  · rename_i hzero
    rw [Decidable.not_not.mp hzero]
    exact holds_nil _ _

theorem Holds.clear {log : Log α} {off off' n : Nat} {data : List α} (h : Holds d log off data)
    (hbeside : off + data.length ≤ off' ∨ off' + n ≤ off) :
    Holds d (clear d off' n log) off data := by
  unfold WriteLog.clear
  split
  · refine h.write ?_
    rw [List.length_replicate]
    exact hbeside
  · exact h

theorem below_clear {log : Log α} {off n bound : Nat} :
    Below (clear d off n log) bound ↔ (0 < n → off + n ≤ bound) ∧ Below log bound := by
  unfold clear
  split
  · rw [below_write, List.length_replicate]
  · rename_i hzero
    simp [Decidable.not_not.mp hzero]

/-- A part of what is filled with one value. -/
theorem Holds.replicate_sub {log : Log α} {off n : Nat} {x : α}
    (h : Holds d log off (List.replicate n x)) {p m : Nat} (hlo : off ≤ p) (hhi : p + m ≤ off + n) :
    Holds d log p (List.replicate m x) := by
  intro k hk
  rw [List.length_replicate] at hk
  obtain ⟨j, rfl⟩ := Nat.exists_eq_add_of_le hlo
  rw [Nat.add_assoc, h (j + k) (by rw [List.length_replicate]; omega),
    List.getElem?_replicate_of_lt (by omega), List.getElem?_replicate_of_lt hk]

/-! ## Snapshots -/

@[simp] theorem snapshot_length (log : Log α) (n : Nat) : (snapshot d log n).length = n := by
  simp [snapshot]

/-- What the memory holds is a part of the snapshot that covers it. -/
theorem Holds.getElem?_snapshot {log : Log α} {off n k : Nat} {data : List α}
    (h : Holds d log off data) (hn : off + data.length ≤ n) (hk : k < data.length) :
    (snapshot d log n)[off + k]? = some (data[k]?.getD d) := by
  rw [← h k hk]
  simp [snapshot, Nat.lt_of_lt_of_le (Nat.add_lt_add_left hk off) hn]

end WriteLog
