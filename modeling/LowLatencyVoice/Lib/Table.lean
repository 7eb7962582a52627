import LowLatencyVoice.Lib.GoMap

/-- A database table whose key is assigned on insert and never used twice: `seq`
is the largest key assigned so far. -/
structure Table (ν : Type) where
  rows : GoMap Nat ν
  seq : Nat
  bounded : ∀ id, rows.get? id ≠ none → id ≤ seq

namespace Table

variable {ν : Type}

/-- The row with a key. -/
def get? (t : Table ν) (id : Nat) : Option ν := t.rows.get? id

/-- A table without rows. -/
def empty : Table ν := ⟨∅, 0, by simp⟩

/-- Inserts a row under the next key, with that key. -/
def insert (t : Table ν) (row : ν) : Table ν × Nat :=
  ({ rows := t.rows.set (t.seq + 1) row
     seq := t.seq + 1
     bounded := by
       intro id hid
       rw [GoMap.get?_set] at hid
       split at hid
       · omega
       · exact Nat.le_succ_of_le (t.bounded id hid) }, t.seq + 1)

def delete (t : Table ν) (id : Nat) : Table ν where
  rows := t.rows.delete id
  seq := t.seq
  bounded := by
    intro id' hid
    rw [GoMap.get?_delete] at hid
    split at hid
    · exact absurd rfl hid
    · exact t.bounded id' hid

/-- Keeps the rows `p` accepts. -/
def filter (t : Table ν) (p : Nat → ν → Bool) : Table ν where
  rows := t.rows.deleteWhere fun id row => !p id row
  seq := t.seq
  bounded := by
    intro id hid
    apply t.bounded
    intro hnone
    rw [GoMap.get?_deleteWhere, hnone] at hid
    exact hid rfl

theorem get?_insert (t : Table ν) (row : ν) (id : Nat) :
    (t.insert row).1.get? id = if id = t.seq + 1 then some row else t.get? id :=
  GoMap.get?_set _ _ _ _

theorem get?_delete (t : Table ν) (id id' : Nat) :
    (t.delete id).get? id' = if id' = id then none else t.get? id' :=
  GoMap.get?_delete _ _ _

theorem get?_filter (t : Table ν) (p : Nat → ν → Bool) (id : Nat) :
    (t.filter p).get? id = (t.get? id).filter (p id) := by
  simp only [get?, filter, GoMap.get?_deleteWhere, Bool.not_not]

/-- A row that is there has another key than the next one. -/
theorem ne_succ_seq {t : Table ν} {id : Nat} (h : t.get? id ≠ none) : id ≠ t.seq + 1 := by
  have hle := t.bounded id h
  omega

end Table
