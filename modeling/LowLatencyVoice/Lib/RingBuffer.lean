import Mathlib.Data.List.Basic
import Mathlib.Logic.Function.Basic

/-- A ring of `size` cells with a read and a write index. Nothing tells a full
ring from an empty one: the indexes are equal in both. -/
structure RingBuffer (α : Type) (size : Nat) where
  cells : Fin size → α
  readIdx : Fin size
  writeIdx : Fin size

namespace RingBuffer

variable {α : Type} {size : Nat}

/-- The next index, wrapping at the end. -/
def advance (i : Fin size) : Fin size := ⟨(i.val + 1) % size, Nat.mod_lt _ i.pos⟩

/-- How many cells lie between the read and the write index. -/
def available (r : RingBuffer α size) : Nat :=
  if r.readIdx.val ≤ r.writeIdx.val then r.writeIdx.val - r.readIdx.val
  else size - r.readIdx.val + r.writeIdx.val

/-- Writes one cell, whether or not there is room. -/
def push (r : RingBuffer α size) (x : α) : RingBuffer α size where
  cells := Function.update r.cells r.writeIdx x
  readIdx := r.readIdx
  writeIdx := advance r.writeIdx

def pushAll (r : RingBuffer α size) (xs : List α) : RingBuffer α size := xs.foldl push r

/-- Reads one cell, whether or not one is unread. -/
def pop (r : RingBuffer α size) : α × RingBuffer α size :=
  (r.cells r.readIdx, { r with readIdx := advance r.readIdx })

/-- Reads `n` cells in a row. -/
def popMany : Nat → RingBuffer α size → List α × RingBuffer α size
  | 0, r => ([], r)
  | n + 1, r =>
    let (x, r) := r.pop
    let (xs, r) := popMany n r
    (x :: xs, r)

/-- Reads up to `n` cells, as long as the indexes differ. -/
def drain : Nat → RingBuffer α size → List α × RingBuffer α size
  | 0, r => ([], r)
  | n + 1, r =>
    if r.readIdx ≠ r.writeIdx then
      let (x, r) := r.pop
      let (xs, r) := drain n r
      (x :: xs, r)
    else drain n r

/-- Both indexes at the start; the cells keep what they hold. -/
def reset (r : RingBuffer α size) : RingBuffer α size :=
  { r with readIdx := ⟨0, r.readIdx.pos⟩, writeIdx := ⟨0, r.readIdx.pos⟩ }

/-- The cell `k` places after the read index. -/
def slot (r : RingBuffer α size) (k : Nat) : Fin size :=
  ⟨(r.readIdx.val + k) % size, Nat.mod_lt _ r.readIdx.pos⟩

/-- The unread cells, oldest first. -/
def queued (r : RingBuffer α size) : List α := (List.range r.available).map fun k => r.cells (r.slot k)

@[simp] theorem length_queued (r : RingBuffer α size) : r.queued.length = r.available := by
  simp [queued]

theorem available_lt (r : RingBuffer α size) : r.available < size := by
  have hread := r.readIdx.isLt
  have hwrite := r.writeIdx.isLt
  unfold available
  split <;> omega

/-- The first cell after the unread ones is the next one written. -/
theorem slot_available (r : RingBuffer α size) : r.slot r.available = r.writeIdx := by
  have hread := r.readIdx.isLt
  have hwrite := r.writeIdx.isLt
  apply Fin.ext
  simp only [slot, available]
  split
  · rw [Nat.add_sub_cancel' ‹_›, Nat.mod_eq_of_lt hwrite]
  · have hsum : r.readIdx.val + (size - r.readIdx.val + r.writeIdx.val) = r.writeIdx.val + size := by
      omega
    rw [hsum, Nat.add_mod_right, Nat.mod_eq_of_lt hwrite]

theorem slot_injective (r : RingBuffer α size) {j k : Nat} (hj : j < size) (hk : k < size)
    (h : r.slot j = r.slot k) : j = k := by
  have hread := r.readIdx.isLt
  have hmod : (r.readIdx.val + j) % size = (r.readIdx.val + k) % size := congrArg Fin.val h
  have hcases : ∀ i < size, (r.readIdx.val + i) % size =
      if r.readIdx.val + i < size then r.readIdx.val + i else r.readIdx.val + i - size := by
    intro i hi
    split
    · exact Nat.mod_eq_of_lt ‹_›
    · rw [Nat.mod_eq_sub_mod (by omega), Nat.mod_eq_of_lt (by omega)]
  rw [hcases j hj, hcases k hk] at hmod
  split at hmod <;> split at hmod <;> omega

theorem advance_val (i : Fin size) :
    (advance i).val = if i.val + 1 = size then 0 else i.val + 1 := by
  have hi := i.isLt
  simp only [advance]
  split
  · rename_i hlast
    rw [hlast, Nat.mod_self]
  · exact Nat.mod_eq_of_lt (by omega)

/-- Filling the last free cell makes the ring look empty. -/
theorem available_push (r : RingBuffer α size) (x : α) :
    (r.push x).available = if r.available + 1 = size then 0 else r.available + 1 := by
  have hread := r.readIdx.isLt
  have hwrite := r.writeIdx.isLt
  simp only [available, push, advance_val]
  split <;> split <;> split <;> (try split) <;> omega

theorem queued_push (r : RingBuffer α size) (x : α) :
    (r.push x).queued = if r.available + 1 = size then [] else r.queued ++ [x] := by
  unfold queued
  rw [available_push]
  split
  · rfl
  · rw [List.range_succ, List.map_append, List.map_singleton]
    congr 1
    · refine List.map_congr_left fun k hk => ?_
      have hlt := List.mem_range.mp hk
      have hne : r.slot k ≠ r.writeIdx := by
        rw [← slot_available]
        intro heq
        have := r.slot_injective (Nat.lt_trans hlt r.available_lt) r.available_lt heq
        omega
      exact Function.update_of_ne hne _ _
    · have hslot : (r.push x).slot r.available = r.writeIdx := r.slot_available
      rw [hslot]
      simp [push]

/-- What is unread after a run of writes is unread before it or just written. -/
theorem mem_queued_pushAll {r : RingBuffer α size} {xs : List α} {y : α}
    (h : y ∈ (r.pushAll xs).queued) : y ∈ r.queued ∨ y ∈ xs := by
  induction xs generalizing r with
  | nil => exact .inl h
  | cons x xs ih =>
    obtain hmem | hmem := ih (r := r.push x) h
    · rw [queued_push] at hmem
      split at hmem
      · cases hmem
      · exact (List.mem_append.mp hmem).imp_right fun hx => by simp_all
    · exact .inr (List.mem_cons_of_mem x hmem)

/-- As long as there is room, writes queue up. -/
theorem queued_pushAll {r : RingBuffer α size} {xs : List α} (h : r.available + xs.length < size) :
    (r.pushAll xs).queued = r.queued ++ xs := by
  induction xs generalizing r with
  | nil => simp [pushAll]
  | cons x xs ih =>
    rw [List.length_cons] at h
    have hroom : r.available + 1 ≠ size := by omega
    have hpush : (r.push x).available = r.available + 1 := by rw [available_push, if_neg hroom]
    have hrest : (r.push x).available + xs.length < size := by omega
    calc (r.pushAll (x :: xs)).queued = ((r.push x).pushAll xs).queued := rfl
      _ = (r.push x).queued ++ xs := ih hrest
      _ = r.queued ++ x :: xs := by rw [queued_push, if_neg hroom, List.append_assoc]; rfl

theorem available_pop {r : RingBuffer α size} (h : 0 < r.available) :
    r.pop.2.available = r.available - 1 := by
  have hread := r.readIdx.isLt
  have hwrite := r.writeIdx.isLt
  simp only [available, pop, advance_val] at h ⊢
  split at h <;> split <;> split <;> omega

/-- A non-empty ring pops its oldest unread cell. -/
theorem queued_pop {r : RingBuffer α size} (h : 0 < r.available) :
    r.queued = r.pop.1 :: r.pop.2.queued := by
  unfold queued
  rw [available_pop h]
  obtain ⟨n, hn⟩ := Nat.exists_eq_succ_of_ne_zero (Nat.ne_of_gt h)
  rw [hn, List.range_succ_eq_map, List.map_cons, List.map_map, Nat.succ_sub_one]
  congr 1
  · have hslot : r.slot 0 = r.readIdx := Fin.ext (Nat.mod_eq_of_lt r.readIdx.isLt)
    rw [hslot]
    rfl
  · refine List.map_congr_left fun k _ => ?_
    have hslot : r.slot (k + 1) = r.pop.2.slot k := by
      apply Fin.ext
      simp only [slot, pop, advance]
      rw [Nat.mod_add_mod]
      congr 1
      omega
    exact congrArg r.cells hslot

/-- Reading no more than is unread takes the oldest cells, in order. -/
theorem popMany_spec {r : RingBuffer α size} {n : Nat} (h : n ≤ r.available) :
    (popMany n r).1 = r.queued.take n ∧ (popMany n r).2.queued = r.queued.drop n := by
  induction n generalizing r with
  | zero => simp [popMany]
  | succ n ih =>
    have hpos : 0 < r.available := by omega
    have hrest : n ≤ r.pop.2.available := by
      rw [available_pop hpos]
      omega
    obtain ⟨htake, hdrop⟩ := ih hrest
    rw [queued_pop hpos]
    simp only [popMany, htake, hdrop, List.take_succ_cons, List.drop_succ_cons, and_self]

theorem available_popMany {r : RingBuffer α size} {n : Nat} (h : n ≤ r.available) :
    (popMany n r).2.available = r.available - n := by
  rw [← length_queued, (popMany_spec h).2, List.length_drop, length_queued]

theorem available_pos_iff {r : RingBuffer α size} : 0 < r.available ↔ r.readIdx ≠ r.writeIdx := by
  have hread := r.readIdx.isLt
  have hwrite := r.writeIdx.isLt
  have hne : r.readIdx ≠ r.writeIdx ↔ r.readIdx.val ≠ r.writeIdx.val := by
    rw [ne_eq, Fin.ext_iff]
  rw [hne]
  unfold available
  split <;> omega

theorem drain_of_empty {r : RingBuffer α size} (h : r.readIdx = r.writeIdx) (n : Nat) :
    drain n r = ([], r) := by
  induction n with
  | zero => rfl
  | succ n ih => rw [drain, if_neg (by simp [h]), ih]

theorem drain_succ {r : RingBuffer α size} (h : r.readIdx ≠ r.writeIdx) (n : Nat) :
    drain (n + 1) r = (r.pop.1 :: (drain n r.pop.2).1, (drain n r.pop.2).2) := by
  rw [drain, if_pos h]

/-- Draining in two goes. -/
theorem drain_add (m n : Nat) (r : RingBuffer α size) :
    drain (m + n) r = ((drain m r).1 ++ (drain n (drain m r).2).1, (drain n (drain m r).2).2) := by
  induction m generalizing r with
  | zero => simp [drain]
  | succ m ih =>
    by_cases hempty : r.readIdx = r.writeIdx
    · simp only [drain_of_empty hempty, List.append_nil]
    · rw [Nat.succ_add, drain_succ hempty, drain_succ hempty, ih, List.cons_append]

/-- Draining takes the oldest unread cells, in order. -/
theorem drain_spec (n : Nat) (r : RingBuffer α size) :
    (drain n r).1 = r.queued.take n ∧ (drain n r).2.queued = r.queued.drop n := by
  induction n generalizing r with
  | zero => simp [drain]
  | succ n ih =>
    by_cases hempty : r.readIdx = r.writeIdx
    · have hqueued : r.queued = [] := by
        have hzero : ¬ 0 < r.available := by
          rw [available_pos_iff]
          exact fun hne => hne hempty
        rw [← List.length_eq_zero_iff, length_queued]
        omega
      simp [drain_of_empty hempty, hqueued]
    · obtain ⟨htake, hdrop⟩ := ih r.pop.2
      rw [drain_succ hempty, queued_pop (available_pos_iff.mpr hempty)]
      simp only [htake, hdrop, List.take_succ_cons, List.drop_succ_cons, and_self]

@[simp] theorem queued_reset (r : RingBuffer α size) : r.reset.queued = [] := by
  simp [queued, available, reset]

/-- What was read and is unread is, in order, a part of what was written. -/
def InOrder (r : RingBuffer α size) (written read : List α) : Prop :=
  (read ++ r.queued).Sublist written

theorem InOrder.read_sublist {r : RingBuffer α size} {written read : List α}
    (h : r.InOrder written read) : read.Sublist written :=
  (List.sublist_append_left read r.queued).trans h

theorem inOrder_of_empty {r : RingBuffer α size} (h : r.queued = []) : r.InOrder [] [] := by
  unfold InOrder
  rw [h]
  exact List.Sublist.slnil

/-- A write that laps the reader drops all that was unread, and nothing else. -/
theorem InOrder.push {r : RingBuffer α size} {written read : List α} (h : r.InOrder written read)
    (x : α) : (r.push x).InOrder (written ++ [x]) read := by
  unfold InOrder
  rw [queued_push]
  split
  · rw [List.append_nil]
    exact h.read_sublist.trans (List.sublist_append_left _ _)
  · rw [← List.append_assoc]
    exact List.Sublist.append_right h [x]

theorem InOrder.pushAll {r : RingBuffer α size} {written read : List α} (h : r.InOrder written read)
    (xs : List α) : (r.pushAll xs).InOrder (written ++ xs) read := by
  induction xs generalizing r written with
  | nil =>
    rw [List.append_nil]
    exact h
  | cons x xs ih =>
    have hrest := ih (h.push x)
    rw [List.append_assoc] at hrest
    exact hrest

theorem InOrder.take {r r' : RingBuffer α size} {written read xs : List α} (h : r.InOrder written read)
    {n : Nat} (hxs : xs = r.queued.take n) (hrest : r'.queued = r.queued.drop n) :
    r'.InOrder written (read ++ xs) := by
  unfold InOrder
  rw [hxs, hrest, List.append_assoc, List.take_append_drop]
  exact h

end RingBuffer
