import Mathlib.Tactic.ByContra

/-! An index from keys back to their holders that keeps one entry a key. Several holders can have a key, and
a holder who gives it up takes the entry along without looking whose it is. -/

namespace InverseIndex

variable {υ κ ρ : Type}

/-- `u` has the key, and nobody else. -/
def Sole (has : υ → κ → Prop) (u : υ) (k : κ) : Prop := has u k ∧ ∀ v, has v k → v = u

/-- A key that one holder has alone is in the index. -/
def Complete (has : υ → κ → Prop) (index : κ → Option ρ) : Prop := ∀ u k, Sole has u k → index k ≠ none

/-- Some holders take keys and some give keys up. A key taken is entered, a key given up is deleted, and the
other entries stay. -/
structure Change (has has' : υ → κ → Prop) (index index' : κ → Option ρ) (takes drops : υ → κ → Prop) :
    Prop where
  has_iff : ∀ u k, has' u k ↔ takes u k ∨ has u k ∧ ¬ drops u k
  apart : ∀ u v k, takes u k → ¬ drops v k
  taken : ∀ u k, takes u k → index' k ≠ none
  dropped : ∀ u k, drops u k → index' k = none
  kept : ∀ k, (∀ u, ¬ takes u k) → (∀ u, ¬ drops u k) → index' k = index k

/-- The entry of a holder who keeps the key stays, unless somebody takes the key. -/
def KeepsEntries (owner : ρ → υ) (index index' : κ → Option ρ) (takes drops : υ → κ → Prop) : Prop :=
  ∀ k r, index k = some r → ¬ drops (owner r) k → (∀ u, ¬ takes u k) → index' k = some r

/-- A key is given up only where the entry is that of a holder who gives it up, and where not just one holder
is left with it. -/
def Spares (has : υ → κ → Prop) (owner : ρ → υ) (index : κ → Option ρ) (drops : υ → κ → Prop) : Prop :=
  ∀ u k, drops u k → (∀ r, index k = some r → drops (owner r) k) ∧
    ∀ v, ¬ Sole (fun w k => has w k ∧ ¬ drops w k) v k

namespace Change

variable {has has' : υ → κ → Prop} {owner : ρ → υ} {index index' : κ → Option ρ} {takes drops : υ → κ → Prop}

/-- A key that is given up, but not by everybody, has the holders it is left with. -/
theorem has_iff_of_drops (h : Change has has' index index' takes drops) {u : υ} {k : κ} (hu : drops u k)
    (v : υ) : has' v k ↔ has v k ∧ ¬ drops v k := by
  rw [h.has_iff]
  constructor
  · rintro (htakes | hstays)
    · exact absurd hu (h.apart v u k htakes)
    · exact hstays
  · exact .inr

theorem keepsEntries_of_spares (h : Change has has' index index' takes drops)
    (hspares : Spares has owner index drops) : KeepsEntries owner index index' takes drops := by
  intro k r hr howner htakes
  rw [h.kept k htakes, hr]
  intro u hu
  exact howner ((hspares u k hu).1 r hr)

theorem complete_of_spares (h : Change has has' index index' takes drops) (hcomplete : Complete has index)
    (hspares : Spares has owner index drops) : Complete has' index' := by
  intro u k hsole
  obtain ⟨hhas, hothers⟩ := hsole
  by_cases htaken : ∃ v, takes v k
  · obtain ⟨v, hv⟩ := htaken
    exact h.taken v k hv
  · rw [not_exists] at htaken
    by_cases hgiven : ∃ v, drops v k
    · obtain ⟨v, hv⟩ := hgiven
      have hleft := h.has_iff_of_drops hv
      refine absurd ⟨(hleft u).mp hhas, fun w hw => hothers w ((hleft w).mpr hw)⟩ ((hspares v k hv).2 u)
    · rw [not_exists] at hgiven
      have hsame : ∀ v, has' v k ↔ has v k := by
        intro v
        rw [h.has_iff]
        simp [htaken v, hgiven v]
      rw [h.kept k htaken hgiven]
      exact hcomplete u k ⟨(hsame u).mp hhas, fun v hv => hothers v ((hsame v).mpr hv)⟩

/-- From a complete index on, the entries that should stay do and the index is complete again, exactly where
no key is given up at another's cost. -/
theorem keepsEntries_and_complete_iff (h : Change has has' index index' takes drops)
    (hcomplete : Complete has index) :
    KeepsEntries owner index index' takes drops ∧ Complete has' index' ↔ Spares has owner index drops := by
  constructor
  · rintro ⟨hkeeps, hcomplete'⟩ u k hu
    have hnone := h.dropped u k hu
    constructor
    · intro r hr
      by_contra howner
      have hkept := hkeeps k r hr howner fun v hv => h.apart v u k hv hu
      rw [hnone] at hkept
      cases hkept
    · intro v hsole
      have hleft := h.has_iff_of_drops hu
      refine hcomplete' v k ⟨(hleft v).mpr hsole.1, fun w hw => hsole.2 w ((hleft w).mp hw)⟩ hnone
  · intro hspares
    exact ⟨h.keepsEntries_of_spares hspares, h.complete_of_spares hcomplete hspares⟩

end Change

end InverseIndex
