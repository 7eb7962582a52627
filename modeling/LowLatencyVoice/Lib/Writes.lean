import Mathlib.Logic.Function.Basic

/-! Logs of writes to the values of keys, where the last write to a key counts. -/

namespace Writes

variable {κ ν : Type} [DecidableEq κ]

/-- The values after a log of writes. -/
def apply (f : κ → ν) (writes : List (κ × ν)) : κ → ν :=
  writes.foldl (fun f write => Function.update f write.1 write.2) f

@[simp] theorem apply_nil (f : κ → ν) : apply f [] = f := rfl

theorem apply_cons (f : κ → ν) (write : κ × ν) (writes : List (κ × ν)) :
    apply f (write :: writes) = apply (Function.update f write.1 write.2) writes := rfl

theorem apply_append (f : κ → ν) (writes writes' : List (κ × ν)) :
    apply f (writes ++ writes') = apply (apply f writes) writes' := List.foldl_append

/-- A key that is not written keeps its value. -/
theorem apply_of_not_mem {writes : List (κ × ν)} {k : κ} (hk : k ∉ writes.map Prod.fst) (f : κ → ν) :
    apply f writes k = f k := by
  induction writes generalizing f with
  | nil => rfl
  | cons write writes ih =>
    rw [List.map_cons, List.mem_cons, not_or] at hk
    rw [apply_cons, ih hk.2, Function.update_of_ne hk.1]

/-- A key that is written has a value that does not depend on the one before. -/
theorem apply_of_mem {writes : List (κ × ν)} {k : κ} (hk : k ∈ writes.map Prod.fst) (f g : κ → ν) :
    apply f writes k = apply g writes k := by
  induction writes generalizing f g with
  | nil => cases hk
  | cons write writes ih =>
    rw [apply_cons, apply_cons]
    by_cases hrest : k ∈ writes.map Prod.fst
    · exact ih hrest _ _
    · have hwrite : k = write.1 := (List.mem_cons.mp hk).resolve_right hrest
      rw [apply_of_not_mem hrest, apply_of_not_mem hrest, hwrite, Function.update_self, Function.update_self]

/-- Writes that have been applied may come again, with all that follow them. -/
theorem apply_replay (f : κ → ν) (writes more : List (κ × ν)) :
    apply (apply f writes) (writes ++ more) = apply f (writes ++ more) := by
  rw [apply_append, apply_append]
  congr 1
  funext k
  by_cases hk : k ∈ writes.map Prod.fst
  · exact apply_of_mem hk _ _
  · rw [apply_of_not_mem hk]

end Writes
