import Mathlib.Data.List.Induction

variable {α : Type}

/-- Each element of the list has, further to the front, everything that must come
before it. -/
def Preceded (before : α → α → Prop) (l : List α) : Prop :=
  ∀ front b rest, l = front ++ b :: rest → ∀ a, before a b → a ∈ front

namespace Preceded

variable {before before' : α → α → Prop} {l l' : List α}

theorem nil : Preceded before [] := by
  intro front b rest heq
  simp at heq

theorem of_append (h : Preceded before (l ++ l')) : Preceded before l := by
  intro front b rest heq
  exact h front b (rest ++ l') (by simp [heq])

/-- An element may join at the end once all that must come before it is there. -/
theorem concat_iff {b : α} : Preceded before (l ++ [b]) ↔ Preceded before l ∧ ∀ a, before a b → a ∈ l := by
  constructor
  · exact fun h => ⟨h.of_append, h l b [] rfl⟩
  · rintro ⟨hl, hb⟩ front b' rest heq
    rcases List.eq_nil_or_concat rest with rfl | ⟨init, last, rfl⟩
    · obtain ⟨rfl, hlast⟩ := List.append_inj' heq rfl
      cases hlast
      exact hb
    · have hsplit : l ++ [b] = (front ++ b' :: init) ++ [last] := by simpa using heq
      obtain ⟨hl', -⟩ := List.append_inj' hsplit rfl
      exact hl front b' init hl'

/-- A weaker demand on the elements that are there. -/
theorem imp (h : Preceded before l) (himp : ∀ b ∈ l, ∀ a, before' a b → before a b) : Preceded before' l := by
  intro front b rest heq a ha
  exact h front b rest heq a (himp b (by simp [heq]) a ha)

/-- What holds among some elements of a list holds for them in the list. -/
theorem of_filter {p : α → Bool} (h : Preceded before (l.filter p)) :
    Preceded (fun a b => p b = true ∧ before a b) l := by
  rintro front b rest rfl a ⟨hb, ha⟩
  rw [List.filter_append, List.filter_cons_of_pos hb] at h
  exact (List.mem_filter.mp (h _ b _ rfl a ha)).1

end Preceded
