import Mathlib.Data.List.Induction

/-- Reporting by differences: a value is passed on when it is far from the value before
it. Kept are the last value, the last one reported, and how many came since. -/
structure DeltaReports (α : Type) where
  stored : α
  reported : α
  unreported : Nat

namespace DeltaReports

variable {α : Type} (far : α → α → Prop) [DecidableRel far]

/-- The first value counts as reported. -/
def start (x : α) : DeltaReports α := ⟨x, x, 0⟩

def take (r : DeltaReports α) (x : α) : DeltaReports α :=
  if far r.stored x then ⟨x, x, 0⟩ else ⟨x, r.reported, r.unreported + 1⟩

/-- After the values `xs`, from `x₀` on. -/
def after (x₀ : α) (xs : List α) : DeltaReports α := xs.foldl (take far) (start x₀)

@[simp] theorem after_nil (x₀ : α) : after far x₀ [] = start x₀ := rfl

theorem after_concat (x₀ : α) (xs : List α) (x : α) :
    after far x₀ (xs ++ [x]) = take far (after far x₀ xs) x := by
  simp [after]

@[simp] theorem take_stored (r : DeltaReports α) (x : α) : (take far r x).stored = x := by
  unfold take
  split <;> rfl

theorem take_reported (r : DeltaReports α) (x : α) :
    (take far r x).reported = if far r.stored x then x else r.reported := by
  unfold take
  split <;> rfl

/-- The value kept is the last. -/
theorem stored_after (x₀ : α) (xs : List α) : (after far x₀ xs).stored = xs.getLast?.getD x₀ := by
  rcases List.eq_nil_or_concat xs with rfl | ⟨front, x, rfl⟩
  · rfl
  · rw [List.concat_eq_append, after_concat, take_stored, List.getLast?_concat, Option.getD_some]

/-- What no two near values differ in is reported right. -/
theorem map_reported {β : Type} (f : α → β) (hnear : ∀ a b, ¬ far a b → f a = f b) (x₀ : α)
    (xs : List α) : f (after far x₀ xs).reported = f (after far x₀ xs).stored := by
  induction xs using List.reverseRecOn with
  | nil => rfl
  | append_singleton front x ih =>
    rw [after_concat, take_reported, take_stored]
    split
    · rfl
    · rename_i hsmall
      rw [ih]
      exact hnear _ _ hsmall

/-- A distance that small steps bound drifts by one small step for each value that was
not reported. -/
theorem dist_reported_le (d : α → α → Nat) (k : Nat) (hself : ∀ a, d a a = 0)
    (htriangle : ∀ a b c, d a c ≤ d a b + d b c) (hnear : ∀ a b, ¬ far a b → d a b ≤ k) (x₀ : α)
    (xs : List α) :
    d (after far x₀ xs).reported (after far x₀ xs).stored ≤ k * (after far x₀ xs).unreported := by
  induction xs using List.reverseRecOn with
  | nil => simp [start, hself]
  | append_singleton front x ih =>
    rw [after_concat]
    unfold take
    split
    · simp [hself]
    · rename_i hsmall
      have hstep := hnear _ _ hsmall
      calc d (after far x₀ front).reported x
          ≤ d (after far x₀ front).reported (after far x₀ front).stored + d (after far x₀ front).stored x :=
            htriangle _ _ _
        _ ≤ k * (after far x₀ front).unreported + k := Nat.add_le_add ih hstep
        _ = k * ((after far x₀ front).unreported + 1) := (Nat.mul_succ _ _).symm

end DeltaReports
