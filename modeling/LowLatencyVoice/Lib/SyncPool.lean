import Mathlib.Data.List.Basic
import Mathlib.Logic.Function.Basic

/-- A `sync.Pool`, by the addresses of its objects: those that wait in it, who holds
each of the others, and how many were made. -/
structure SyncPool (γ : Type) where
  waiting : List Nat
  holder : Nat → Option γ
  made : Nat

namespace SyncPool

variable {γ : Type}

def empty : SyncPool γ := ⟨[], fun _ => none, 0⟩

/-- `Get`: an object that waits, or a new one. Which it is, the pool decides. -/
def get (p : SyncPool γ) (g : γ) (choice : Nat) : SyncPool γ × Nat :=
  match p.waiting[choice]? with
  | some r =>
    ({ p with waiting := p.waiting.eraseIdx choice, holder := Function.update p.holder r (some g) }, r)
  | none => ({ p with holder := Function.update p.holder p.made (some g), made := p.made + 1 }, p.made)

/-- `Put`. -/
def put (p : SyncPool γ) (r : Nat) : SyncPool γ :=
  { p with waiting := r :: p.waiting, holder := Function.update p.holder r none }

/-- The garbage collector takes an object that waits. -/
def collect (p : SyncPool γ) (choice : Nat) : SyncPool γ :=
  { p with waiting := p.waiting.eraseIdx choice }

/-- An object waits once, and nobody holds it meanwhile. -/
structure Ok (p : SyncPool γ) : Prop where
  nodup : p.waiting.Nodup
  unheld : ∀ r ∈ p.waiting, p.holder r = none
  waiting_lt : ∀ r ∈ p.waiting, r < p.made
  held_lt : ∀ r, p.holder r ≠ none → r < p.made

theorem ok_empty : (empty : SyncPool γ).Ok where
  nodup := List.nodup_nil
  unheld _ h := nomatch h
  waiting_lt _ h := nomatch h
  held_lt _ h := absurd rfl h

variable {p : SyncPool γ}

/-- What `Get` returns: nobody held it, the caller does now, and nothing else changes
hands. -/
theorem Ok.get_spec (h : p.Ok) (g : γ) (choice : Nat) :
    p.holder (p.get g choice).2 = none ∧
      (p.get g choice).1.holder = Function.update p.holder (p.get g choice).2 (some g) := by
  unfold get
  split
  · rename_i r hr
    exact ⟨h.unheld r (List.mem_of_getElem? hr), rfl⟩
  · refine ⟨?_, rfl⟩
    by_contra hheld
    exact absurd (h.held_lt _ hheld) (Nat.lt_irrefl _)

/-- Whether an object is held after it has been handed out. -/
theorem held_update_iff {r r' : Nat} (g : γ) :
    Function.update p.holder r (some g) r' = none ↔ r' ≠ r ∧ p.holder r' = none := by
  by_cases heq : r' = r
  · subst heq
    simp
  · rw [Function.update_of_ne heq]
    exact ⟨fun hnone => ⟨heq, hnone⟩, And.right⟩

/-- What is left in the pool is not what was taken out. -/
theorem Ok.mem_eraseIdx (h : p.Ok) {choice r r' : Nat} (hr : p.waiting[choice]? = some r)
    (hr' : r' ∈ p.waiting.eraseIdx choice) : r' ∈ p.waiting ∧ r' ≠ r := by
  obtain ⟨i, hne, hi⟩ := List.mem_eraseIdx_iff_getElem?.mp hr'
  refine ⟨List.mem_of_getElem? hi, fun heq => hne ?_⟩
  subst heq
  obtain ⟨hlt, -⟩ := List.getElem?_eq_some_iff.mp hi
  exact (List.getElem?_inj hlt h.nodup).mp (hi.trans hr.symm)

theorem Ok.get (h : p.Ok) (g : γ) (choice : Nat) : (p.get g choice).1.Ok := by
  unfold SyncPool.get
  split
  · rename_i r hr
    have hlt : r < p.made := h.waiting_lt r (List.mem_of_getElem? hr)
    refine ⟨h.nodup.eraseIdx choice, fun r' hr' => ?_, fun r' hr' => ?_, fun r' hheld => ?_⟩
    · obtain ⟨hmem, hne⟩ := h.mem_eraseIdx hr hr'
      exact (held_update_iff g).mpr ⟨hne, h.unheld r' hmem⟩
    · exact h.waiting_lt r' (h.mem_eraseIdx hr hr').1
    · by_cases heq : r' = r
      · exact heq ▸ hlt
      · exact h.held_lt r' fun hnone => hheld ((held_update_iff g).mpr ⟨heq, hnone⟩)
  · refine ⟨h.nodup, fun r hr => ?_, fun r hr => Nat.lt_succ_of_lt (h.waiting_lt r hr), fun r hheld => ?_⟩
    · exact (held_update_iff g).mpr ⟨Nat.ne_of_lt (h.waiting_lt r hr), h.unheld r hr⟩
    · by_cases heq : r = p.made
      · exact heq ▸ Nat.lt_succ_self _
      · exact Nat.lt_succ_of_lt (h.held_lt r fun hnone => hheld ((held_update_iff g).mpr ⟨heq, hnone⟩))

/-- Whoever holds an object may give it back. -/
theorem Ok.put (h : p.Ok) {r : Nat} (hheld : p.holder r ≠ none) : (p.put r).Ok where
  nodup := List.nodup_cons.mpr ⟨fun hr => hheld (h.unheld r hr), h.nodup⟩
  unheld r' hr' := by
    change Function.update p.holder r none r' = none
    by_cases heq : r' = r
    · rw [heq, Function.update_self]
    · rw [Function.update_of_ne heq]
      exact h.unheld r' ((List.mem_cons.mp hr').resolve_left heq)
  waiting_lt r' hr' := by
    obtain rfl | hr' := List.mem_cons.mp hr'
    · exact h.held_lt r' hheld
    · exact h.waiting_lt r' hr'
  held_lt r' hheld' := by
    apply h.held_lt r'
    intro hnone
    apply hheld'
    change Function.update p.holder r none r' = none
    by_cases heq : r' = r
    · rw [heq, Function.update_self]
    · rw [Function.update_of_ne heq, hnone]

theorem Ok.collect (h : p.Ok) (choice : Nat) : (p.collect choice).Ok where
  nodup := h.nodup.eraseIdx choice
  unheld r hr := h.unheld r (List.mem_of_mem_eraseIdx hr)
  waiting_lt r hr := h.waiting_lt r (List.mem_of_mem_eraseIdx hr)
  held_lt := h.held_lt

end SyncPool
