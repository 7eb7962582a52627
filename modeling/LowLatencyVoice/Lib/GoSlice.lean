import Mathlib.Data.List.Basic

/-- A Go slice: the array it points into, from its first element on, and its
length. What lies past the length is the array's, not the slice's. -/
structure GoSlice (α : Type) where
  cells : List α
  len : Nat
  len_le : len ≤ cells.length

namespace GoSlice

variable {α : Type}

/-- `make([]T, 0, capacity)`. -/
def make (zero : α) (capacity : Nat) : GoSlice α where
  cells := List.replicate capacity zero
  len := 0
  len_le := Nat.zero_le _

def toList (s : GoSlice α) : List α := s.cells.take s.len

/-- `s[:0]`, over the same array. -/
def cutToZero (s : GoSlice α) : GoSlice α := { s with len := 0, len_le := Nat.zero_le _ }

/-- `append(s, x)`: into the next cell where the array has one, else into an
array of its own. -/
def append (s : GoSlice α) (x : α) : GoSlice α :=
  if h : s.len < s.cells.length then
    ⟨s.cells.set s.len x, s.len + 1, by rw [List.length_set]; exact h⟩
  else
    ⟨s.toList ++ [x], s.len + 1, by simp [toList, Nat.min_eq_left s.len_le]⟩

/-- `valid := s[:0]; for _, x := range s { if keep(x) { valid = append(valid, x) } }`.
The loop reads the array that `valid` is written into. -/
def filterInPlace (keep : α → Bool) (s : GoSlice α) : GoSlice α :=
  (List.range s.len).foldl (fun valid i =>
    match valid.cells[i]? with
    | some x => if keep x then valid.append x else valid
    | none => valid) s.cutToZero

@[simp] theorem length_toList (s : GoSlice α) : s.toList.length = s.len := by
  simp [toList, Nat.min_eq_left s.len_le]

theorem toList_append (s : GoSlice α) (x : α) : (s.append x).toList = s.toList ++ [x] := by
  unfold append
  split
  · next hroom =>
    simp only [toList]
    rw [List.take_set, List.take_add_one, List.getElem?_eq_getElem hroom]
    rw [List.set_append_right _ _ (by simp [Nat.min_eq_left s.len_le])]
    simp [Nat.min_eq_left s.len_le]
  · exact List.take_of_length_le (by simp)

/-- An append with room leaves every cell past its own as it was. -/
theorem drop_append_cells {s : GoSlice α} (x : α) {i : Nat} (hlen : s.len < s.cells.length) (hi : s.len < i) :
    (s.append x).cells.drop i = s.cells.drop i := by
  simp only [append, dif_pos hlen]
  rw [List.drop_set_of_lt hi]

/-- After `n` rounds the loop has written no further than it has read, so the
cells it still has to read are the ones it started with. -/
theorem filterInPlace_loop (keep : α → Bool) (s : GoSlice α) {n : Nat} (hn : n ≤ s.len) :
    let valid := (List.range n).foldl (fun valid i =>
      match valid.cells[i]? with
      | some x => if keep x then valid.append x else valid
      | none => valid) s.cutToZero
    valid.toList = (s.cells.take n).filter keep ∧ valid.len ≤ n ∧ valid.cells.drop n = s.cells.drop n := by
  induction n with
  | zero => exact ⟨rfl, Nat.le_refl _, rfl⟩
  | succ n ih =>
    obtain ⟨hvalid, hlen, hrest⟩ := ih (by omega)
    rw [List.range_succ, List.foldl_append]
    generalize (List.range n).foldl _ s.cutToZero = valid at hvalid hlen hrest
    have hin : n < s.cells.length := Nat.lt_of_lt_of_le hn s.len_le
    have hread : valid.cells[n]? = some s.cells[n] := by
      have hhead := congrArg List.head? hrest
      rwa [List.head?_drop, List.head?_drop, List.getElem?_eq_getElem hin] at hhead
    have hroom : n < valid.cells.length := (List.getElem?_eq_some_iff.mp hread).1
    have hafter : valid.cells.drop (n + 1) = s.cells.drop (n + 1) := by
      rw [← List.drop_drop, ← List.drop_drop, hrest]
    simp only [List.foldl_cons, List.foldl_nil, hread]
    rw [List.take_add_one, List.getElem?_eq_getElem hin, List.filter_append]
    by_cases hkeep : keep s.cells[n]
    · rw [if_pos hkeep]
      refine ⟨?_, ?_, ?_⟩
      · simp [toList_append, hvalid, hkeep]
      · simp only [append, dif_pos (Nat.lt_of_le_of_lt hlen hroom)]
        omega
      · rw [drop_append_cells _ (by omega) (by omega), hafter]
    · rw [if_neg hkeep]
      exact ⟨by simp [hvalid, hkeep], by omega, hafter⟩

/-- Compacting in place keeps what a filter keeps, in order. -/
theorem toList_filterInPlace (keep : α → Bool) (s : GoSlice α) :
    (s.filterInPlace keep).toList = s.toList.filter keep :=
  (s.filterInPlace_loop keep (Nat.le_refl _)).1

end GoSlice
