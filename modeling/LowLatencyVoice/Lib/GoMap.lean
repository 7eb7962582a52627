import Mathlib.Data.List.AList
import Mathlib.Data.List.Induction

/-- A Go map: finitely many keys, each bound once. `range` visits `entries`. -/
abbrev GoMap (κ ν : Type) := AList fun _ : κ => ν

namespace GoMap

variable {κ ν : Type} [DecidableEq κ]

/-- The two-value read `v, ok := m[k]`. -/
def get? (m : GoMap κ ν) (k : κ) : Option ν := m.lookup k

/-- The assignment `m[k] = v`. -/
def set (m : GoMap κ ν) (k : κ) (v : ν) : GoMap κ ν := m.insert k v

/-- The builtin `delete(m, k)`, a no-op on a missing key. -/
def delete (m : GoMap κ ν) (k : κ) : GoMap κ ν := m.erase k

/-- The builtin `len(m)`. -/
def len (m : GoMap κ ν) : Nat := m.entries.length

/-- A `range` loop that deletes every entry satisfying `p`. -/
def deleteWhere (m : GoMap κ ν) (p : κ → ν → Bool) : GoMap κ ν :=
  ⟨m.entries.filter fun e => !p e.1 e.2, m.nodupKeys.sublist List.filter_sublist⟩

/-- A loop that rewrites the value of every key. -/
def mapValues (m : GoMap κ ν) (f : ν → ν) : GoMap κ ν :=
  ⟨m.entries.map fun e => ⟨e.1, f e.2⟩, by
    have hkeys : (m.entries.map fun e => (⟨e.1, f e.2⟩ : Sigma fun _ : κ => ν)).keys = m.entries.keys := by
      simp [List.keys]
    rw [List.NodupKeys, hkeys]
    exact m.nodupKeys⟩

/-- The entries a `range` loop visits, as pairs. -/
def pairs (m : GoMap κ ν) : List (κ × ν) := m.entries.map fun e => (e.1, e.2)

@[simp] theorem get?_empty (k : κ) : get? (∅ : GoMap κ ν) k = none := AList.lookup_empty k

@[simp] theorem get?_set (m : GoMap κ ν) (k k' : κ) (v : ν) :
    (m.set k v).get? k' = if k' = k then some v else m.get? k' := by
  by_cases h : k' = k
  · subst k'
    simp [get?, set]
  · rw [if_neg h]
    exact AList.lookup_insert_ne h

@[simp] theorem get?_delete (m : GoMap κ ν) (k k' : κ) :
    (m.delete k).get? k' = if k' = k then none else m.get? k' := by
  by_cases h : k' = k
  · subst k'
    simp [get?, delete]
  · rw [if_neg h]
    exact AList.lookup_erase_ne h

/-- What a lookup reads of a value, after an assignment. -/
theorem map_get?_set {ρ : Type} (m : GoMap κ ν) (k : κ) (v : ν) (f : ν → ρ) :
    (fun k' => ((m.set k v).get? k').map f) =
      Function.update (fun k' => (m.get? k').map f) k (some (f v)) := by
  funext k'
  rw [get?_set]
  by_cases hk : k' = k
  · subst k'
    simp
  · simp [hk]

/-- What a lookup reads of a value, after a `delete`. -/
theorem map_get?_delete {ρ : Type} (m : GoMap κ ν) (k : κ) (f : ν → ρ) :
    (fun k' => ((m.delete k).get? k').map f) = Function.update (fun k' => (m.get? k').map f) k none := by
  funext k'
  rw [get?_delete]
  by_cases hk : k' = k
  · subst k'
    simp
  · simp [hk]

theorem mem_entries_iff (m : GoMap κ ν) (k : κ) (v : ν) :
    (⟨k, v⟩ : Sigma fun _ : κ => ν) ∈ m.entries ↔ m.get? k = some v :=
  AList.mem_lookup_iff.symm

theorem mem_pairs_iff (m : GoMap κ ν) (k : κ) (v : ν) :
    (k, v) ∈ m.pairs ↔ m.get? k = some v := by
  rw [← mem_entries_iff, pairs, List.mem_map]
  constructor
  · rintro ⟨⟨k', v'⟩, hmem, heq⟩
    cases heq
    exact hmem
  · exact fun hmem => ⟨⟨k, v⟩, hmem, rfl⟩

omit [DecidableEq κ] in
/-- A `range` loop meets no key twice. -/
theorem nodup_pairs_keys (m : GoMap κ ν) : (m.pairs.map Prod.fst).Nodup := by
  have hkeys : m.pairs.map Prod.fst = m.entries.keys := by simp [pairs, List.keys]
  rw [hkeys]
  exact m.nodupKeys

@[simp] theorem get?_deleteWhere (m : GoMap κ ν) (p : κ → ν → Bool) (k : κ) :
    (m.deleteWhere p).get? k = (m.get? k).filter fun v => !p k v := by
  cases hget : (m.deleteWhere p).get? k with
  | some v =>
    have hmem := (mem_entries_iff _ _ _).mpr hget
    obtain ⟨hold, hkeep⟩ := List.mem_filter.mp hmem
    rw [(mem_entries_iff m k v).mp hold]
    simpa [Option.filter] using hkeep
  | none =>
    cases hold : m.get? k with
    | none => rfl
    | some v =>
      have hdropped : p k v = true := by
        by_contra hkeep
        have hmem : (⟨k, v⟩ : Sigma fun _ : κ => ν) ∈ (m.deleteWhere p).entries :=
          List.mem_filter.mpr ⟨(mem_entries_iff m k v).mpr hold, by simpa using hkeep⟩
        rw [(mem_entries_iff _ _ _).mp hmem] at hget
        cases hget
      simp [Option.filter, hdropped]

@[simp] theorem get?_mapValues (m : GoMap κ ν) (f : ν → ν) (k : κ) :
    (m.mapValues f).get? k = (m.get? k).map f := by
  have hmem : ∀ w, (m.mapValues f).get? k = some w ↔ ∃ v, m.get? k = some v ∧ f v = w := by
    intro w
    rw [← mem_entries_iff]
    simp only [mapValues, List.mem_map, Sigma.mk.injEq, heq_eq_eq]
    constructor
    · rintro ⟨⟨k', v⟩, hv, rfl, rfl⟩
      exact ⟨v, (mem_entries_iff m k' v).mp hv, rfl⟩
    · rintro ⟨v, hv, rfl⟩
      exact ⟨⟨k, v⟩, (mem_entries_iff m k v).mpr hv, rfl, rfl⟩
  rw [Option.ext_iff]
  intro w
  rw [hmem, Option.map_eq_some_iff]

/-- A map filled by assignments in order. -/
def ofList (entries : List (κ × ν)) : GoMap κ ν := entries.foldl (fun m e => m.set e.1 e.2) ∅

/-- The last assignment to a key counts. -/
theorem get?_ofList (entries : List (κ × ν)) (k : κ) :
    (ofList entries).get? k = entries.reverse.lookup k := by
  induction entries using List.reverseRecOn with
  | nil => exact get?_empty k
  | append_singleton entries e ih =>
    have hlast : ofList (entries ++ [e]) = (ofList entries).set e.1 e.2 := List.foldl_append
    rw [hlast, get?_set, List.reverse_concat, List.lookup_cons, ih]
    by_cases hk : k = e.1
    · simp [hk]
    · simp [hk, beq_false_of_ne hk]

theorem len_eq_zero_iff (m : GoMap κ ν) : m.len = 0 ↔ ∀ k, m.get? k = none := by
  rw [len, List.length_eq_zero_iff]
  constructor
  · intro hnil k
    cases hget : m.get? k with
    | none => rfl
    | some v =>
      have hmem := (mem_entries_iff m k v).mpr hget
      simp [hnil] at hmem
  · intro hnone
    rw [List.eq_nil_iff_forall_not_mem]
    rintro ⟨k, v⟩ hmem
    rw [mem_entries_iff, hnone] at hmem
    cases hmem

section nested

/-! The idiom `map[K]map[L]V`: inner maps are made on first use and may be
dropped once empty. -/

variable {ℓ : Type} [DecidableEq ℓ]

/-- The nested read `m[k][l]`. -/
def get₂ (m : GoMap κ (GoMap ℓ ν)) (k : κ) (l : ℓ) : Option ν :=
  (get? m k).bind fun inner => inner.get? l

/-- `if _, ok := m[k]; !ok { m[k] = make(..) }; m[k][l] = v`. -/
def put₂ (m : GoMap κ (GoMap ℓ ν)) (k : κ) (l : ℓ) (v : ν) : GoMap κ (GoMap ℓ ν) :=
  set m k (set ((get? m k).getD ∅) l v)

/-- `if inner, ok := m[k]; ok { delete(inner, l) }`. -/
def drop₂ (m : GoMap κ (GoMap ℓ ν)) (k : κ) (l : ℓ) : GoMap κ (GoMap ℓ ν) :=
  match get? m k with
  | some inner => set m k (inner.delete l)
  | none => m

/-- As `drop₂`, and an inner map left empty is deleted from `m`. -/
def prune₂ (m : GoMap κ (GoMap ℓ ν)) (k : κ) (l : ℓ) : GoMap κ (GoMap ℓ ν) :=
  match get? m k with
  | some inner => if (inner.delete l).len = 0 then delete m k else set m k (inner.delete l)
  | none => m

@[simp] theorem get₂_empty (k : κ) (l : ℓ) : get₂ (∅ : GoMap κ (GoMap ℓ ν)) k l = none := by
  simp [get₂]

@[simp] theorem get₂_put₂ (m : GoMap κ (GoMap ℓ ν)) (k k' : κ) (l l' : ℓ) (v : ν) :
    (put₂ m k l v).get₂ k' l' = if k' = k ∧ l' = l then some v else get₂ m k' l' := by
  by_cases hk : k' = k
  · subst k'
    cases hget : get? m k <;> by_cases hl : l' = l <;> simp [put₂, get₂, hget, hl]
  · simp [put₂, get₂, hk]

@[simp] theorem get₂_drop₂ (m : GoMap κ (GoMap ℓ ν)) (k k' : κ) (l l' : ℓ) :
    (drop₂ m k l).get₂ k' l' = if k' = k ∧ l' = l then none else get₂ m k' l' := by
  cases hget : get? m k with
  | none =>
    by_cases hk : k' = k
    · simp [drop₂, get₂, hget, hk]
    · simp [drop₂, hget, hk]
  | some inner =>
    by_cases hk : k' = k
    · subst k'
      by_cases hl : l' = l <;> simp [drop₂, get₂, hget, hl]
    · simp [drop₂, get₂, hget, hk]

/-- Dropping the emptied inner map is invisible to nested reads. -/
@[simp] theorem get₂_prune₂ (m : GoMap κ (GoMap ℓ ν)) (k k' : κ) (l l' : ℓ) :
    (prune₂ m k l).get₂ k' l' = if k' = k ∧ l' = l then none else get₂ m k' l' := by
  cases hget : get? m k with
  | none =>
    by_cases hk : k' = k
    · simp [prune₂, get₂, hget, hk]
    · simp [prune₂, hget, hk]
  | some inner =>
    by_cases hempty : (inner.delete l).len = 0
    · by_cases hk : k' = k
      · subst k'
        have hnone : ∀ l', (inner.delete l).get? l' = none := (len_eq_zero_iff _).mp hempty
        have hrest := hnone l'
        rw [get?_delete] at hrest
        by_cases hl : l' = l
        · simp [prune₂, get₂, hget, hempty, hl]
        · simpa [prune₂, get₂, hget, hempty, hl] using hrest.symm
      · simp [prune₂, get₂, hget, hempty, hk]
    · by_cases hk : k' = k
      · subst k'
        by_cases hl : l' = l <;> simp [prune₂, get₂, hget, hempty, hl]
      · simp [prune₂, get₂, hget, hempty, hk]

/-- Every inner map has an entry. -/
def NoEmpty (m : GoMap κ (GoMap ℓ ν)) : Prop := ∀ k, get? m k ≠ none → ∃ l, get₂ m k l ≠ none

theorem noEmpty_empty : NoEmpty (∅ : GoMap κ (GoMap ℓ ν)) := fun k hk => absurd (get?_empty k) hk

theorem NoEmpty.put₂ {m : GoMap κ (GoMap ℓ ν)} (h : NoEmpty m) (k : κ) (l : ℓ) (v : ν) :
    NoEmpty (put₂ m k l v) := by
  intro k' hk'
  by_cases hk : k' = k
  · exact ⟨l, by simp [hk]⟩
  · have hold : get? m k' ≠ none := by simpa [GoMap.put₂, hk] using hk'
    obtain ⟨l', hl'⟩ := h k' hold
    exact ⟨l', by simpa [hk] using hl'⟩

/-- Pruning leaves no empty inner map behind. -/
theorem NoEmpty.prune₂ {m : GoMap κ (GoMap ℓ ν)} (h : NoEmpty m) (k : κ) (l : ℓ) :
    NoEmpty (prune₂ m k l) := by
  intro k' hk'
  by_cases hk : k' = k
  · subst k'
    cases hget : get? m k with
    | none => simp [GoMap.prune₂, hget] at hk'
    | some inner =>
      by_cases hempty : (inner.delete l).len = 0
      · simp [GoMap.prune₂, hget, hempty] at hk'
      · rw [len_eq_zero_iff, not_forall] at hempty
        obtain ⟨l', hl'⟩ := hempty
        rw [get?_delete] at hl'
        split at hl'
        · exact absurd rfl hl'
        · rename_i hne
          refine ⟨l', ?_⟩
          rw [get₂_prune₂, if_neg fun hcase => hne hcase.2]
          simpa [get₂, hget] using hl'
  · have hold : get? m k' ≠ none := by
      intro hnone
      apply hk'
      unfold GoMap.prune₂
      split
      · split <;> simpa [hk] using hnone
      · exact hnone
    obtain ⟨l', hl'⟩ := h k' hold
    exact ⟨l', by simpa [hk] using hl'⟩

end nested

end GoMap
