import LowLatencyVoice.Lib.GoMap

/-! Requests and the answers that come back under their keys: each request is a promise
that waits in a map until it is answered, given up or aborted. -/

namespace Correlation

/-- The requests issued so far are 1 to `issued`. `completions` has every completion of
the promise of a request, and `waiting` whether its caller still waits. -/
structure Promises (κ α : Type) where
  issued : Nat
  pending : GoMap κ Nat
  keys : Nat → Option κ
  completions : Nat → List α
  waiting : Nat → Bool

namespace Promises

variable {κ α : Type} [DecidableEq κ]

def empty : Promises κ α where
  issued := 0
  pending := ∅
  keys _ := none
  completions _ := []
  waiting _ := false

/-- A new request under a key. -/
def issue (t : Promises κ α) (k : κ) : Promises κ α :=
  { t with
    issued := t.issued + 1
    pending := t.pending.set k (t.issued + 1)
    keys := Function.update t.keys (t.issued + 1) (some k)
    waiting := Function.update t.waiting (t.issued + 1) true }

/-- The caller of a request gives it up. -/
def withdraw (t : Promises κ α) (r : Nat) : Promises κ α :=
  match t.keys r with
  | none => t
  | some k => { t with pending := t.pending.delete k, waiting := Function.update t.waiting r false }

/-- The promise of a request is completed. -/
def complete (t : Promises κ α) (r : Nat) (a : α) : Promises κ α :=
  { t with
    completions := Function.update t.completions r (t.completions r ++ [a])
    waiting := Function.update t.waiting r false }

/-- An answer under a key. -/
def answer (t : Promises κ α) (k : κ) (a : α) : Promises κ α :=
  match t.pending.get? k with
  | none => t
  | some r => { t with pending := t.pending.delete k }.complete r a

/-- One turn of the loop of `abort`. -/
def abortOne (a : α) (t : Promises κ α) (r : Nat) : Promises κ α :=
  if t.completions r = [] then t.complete r a else t

/-- Every promise that waits is completed, and the map cleared. -/
def abort (t : Promises κ α) (a : α) : Promises κ α :=
  { (t.pending.pairs.map Prod.snd).foldl (abortOne a) t with pending := ∅ }

/-- What holds while the keys are all different: who waits is in the map under his key,
and a promise is completed once, after which nobody waits for it. -/
structure Ok (t : Promises κ α) : Prop where
  pending_iff : ∀ k r, t.pending.get? k = some r ↔ t.waiting r = true ∧ t.keys r = some k
  keys_iff : ∀ r, t.keys r = none ↔ r = 0 ∨ t.issued < r
  distinct : ∀ r r' k, t.keys r = some k → t.keys r' = some k → r = r'
  silent : ∀ r, t.waiting r = true ∨ t.keys r = none → t.completions r = []
  once : ∀ r, (t.completions r).length ≤ 1
  known : ∀ r, t.waiting r = true → t.keys r ≠ none

theorem ok_empty : (empty : Promises κ α).Ok where
  pending_iff k r := by simp [empty]
  keys_iff r := by simp [empty]; omega
  distinct r r' k h := by cases h
  silent _ _ := rfl
  once _ := Nat.zero_le 1
  known _ h := by cases h

section steps

variable {t : Promises κ α}

theorem get?_issue (k k' : κ) :
    (t.issue k).pending.get? k' = if k' = k then some (t.issued + 1) else t.pending.get? k' := by
  simp [issue, GoMap.get?_set]

@[simp] theorem issue_keys (k : κ) :
    (t.issue k).keys = Function.update t.keys (t.issued + 1) (some k) := rfl

@[simp] theorem issue_waiting (k : κ) :
    (t.issue k).waiting = Function.update t.waiting (t.issued + 1) true := rfl

section complete

omit [DecidableEq κ]

@[simp] theorem complete_keys (r : Nat) (a : α) : (t.complete r a).keys = t.keys := rfl

@[simp] theorem complete_waiting (r : Nat) (a : α) :
    (t.complete r a).waiting = Function.update t.waiting r false := rfl

@[simp] theorem complete_completions (r : Nat) (a : α) :
    (t.complete r a).completions = Function.update t.completions r (t.completions r ++ [a]) := rfl

end complete

theorem Ok.keys_next (h : t.Ok) : t.keys (t.issued + 1) = none := (h.keys_iff _).mpr (.inr (by omega))

/-- A key that no request had before. -/
theorem Ok.issue (h : t.Ok) {k : κ} (hfresh : ∀ r, t.keys r ≠ some k) : (t.issue k).Ok := by
  have hnext := h.keys_next
  have hidle : t.waiting (t.issued + 1) ≠ true := fun hwaits => h.known _ hwaits hnext
  constructor
  · intro k' r
    rw [get?_issue, issue_waiting, issue_keys]
    by_cases hr : r = t.issued + 1
    · subst r
      simp only [Function.update_self, Option.some.injEq, true_and]
      by_cases hk : k' = k
      · simp [hk]
      · rw [if_neg hk, h.pending_iff, hnext]
        exact iff_of_false (by simp) (Ne.symm hk)
    · simp only [Function.update_of_ne hr]
      by_cases hk : k' = k
      · rw [if_pos hk]
        refine iff_of_false (fun heq => hr (Option.some.inj heq).symm) fun hold => hfresh r ?_
        rw [hold.2, hk]
      · rw [if_neg hk, h.pending_iff]
  · intro r
    rw [issue_keys]
    change _ ↔ r = 0 ∨ t.issued + 1 < r
    by_cases hr : r = t.issued + 1
    · subst r
      simp
    · rw [Function.update_of_ne hr, h.keys_iff]
      omega
  · intro r r' k' hk hk'
    rw [issue_keys] at hk hk'
    by_cases hr : r = t.issued + 1 <;> by_cases hr' : r' = t.issued + 1
    · rw [hr, hr']
    · subst r
      rw [Function.update_self] at hk
      rw [Function.update_of_ne hr', ← hk] at hk'
      exact absurd hk' (hfresh r')
    · subst r'
      rw [Function.update_self] at hk'
      rw [Function.update_of_ne hr, ← hk'] at hk
      exact absurd hk (hfresh r)
    · rw [Function.update_of_ne hr] at hk
      rw [Function.update_of_ne hr'] at hk'
      exact h.distinct r r' k' hk hk'
  · intro r hr
    rw [issue_waiting, issue_keys] at hr
    by_cases hnew : r = t.issued + 1
    · subst r
      exact h.silent _ (.inr hnext)
    · rw [Function.update_of_ne hnew, Function.update_of_ne hnew] at hr
      exact h.silent r hr
  · exact h.once
  · intro r hr
    rw [issue_waiting] at hr
    rw [issue_keys]
    by_cases hnew : r = t.issued + 1
    · subst r
      simp
    · rw [Function.update_of_ne hnew] at hr ⊢
      exact h.known r hr

/-- A request that nobody waits for any more leaves the map. -/
theorem Ok.withdraw (h : t.Ok) (r : Nat) : (t.withdraw r).Ok := by
  unfold Promises.withdraw
  cases hkey : t.keys r with
  | none => exact h
  | some k =>
    refine ⟨fun k' r' => ?_, h.keys_iff, h.distinct, fun r' hr' => ?_, h.once, fun r' hr' => ?_⟩
    · change (t.pending.delete k).get? k' = some r' ↔
        Function.update t.waiting r false r' = true ∧ t.keys r' = some k'
      rw [GoMap.get?_delete]
      by_cases hr : r' = r
      · subst r'
        rw [Function.update_self]
        refine iff_of_false (fun hget => ?_) (by simp)
        split at hget
        · cases hget
        · rename_i hk
          exact hk (Option.some.inj (((h.pending_iff k' r).mp hget).2.symm.trans hkey))
      · rw [Function.update_of_ne hr]
        split
        · rename_i hk
          refine iff_of_false (by simp) fun hold => hr (h.distinct r' r k ?_ hkey)
          rw [hold.2, hk]
        · exact h.pending_iff k' r'
    · change Function.update t.waiting r false r' = true ∨ _ at hr'
      by_cases hr : r' = r
      · subst r'
        rw [Function.update_self, hkey] at hr'
        simp at hr'
      · rw [Function.update_of_ne hr] at hr'
        exact h.silent r' hr'
    · change Function.update t.waiting r false r' = true at hr'
      by_cases hr : r' = r
      · subst r'
        simp at hr'
      · rw [Function.update_of_ne hr] at hr'
        exact h.known r' hr'

theorem withdraw_completions (r : Nat) : (t.withdraw r).completions = t.completions := by
  unfold Promises.withdraw
  cases t.keys r <;> rfl

theorem withdraw_keys (r : Nat) : (t.withdraw r).keys = t.keys := by
  unfold Promises.withdraw
  cases hkey : t.keys r <;> rfl

theorem withdraw_issued (r : Nat) : (t.withdraw r).issued = t.issued := by
  unfold Promises.withdraw
  cases t.keys r <;> rfl

theorem Ok.withdraw_waiting (h : t.Ok) (r : Nat) :
    (t.withdraw r).waiting = Function.update t.waiting r false := by
  unfold Promises.withdraw
  cases hkey : t.keys r with
  | none =>
    have hidle : t.waiting r = false := by
      by_contra hwaits
      exact h.known r (by simpa using hwaits) hkey
    rw [← hidle, Function.update_eq_self]
  | some k => rfl

/-- A promise may be completed once its request has left the map. -/
theorem Ok.complete (h : t.Ok) {r : Nat} (hkey : t.keys r ≠ none) (hidle : t.waiting r = false)
    (hsilent : t.completions r = []) (a : α) : (t.complete r a).Ok := by
  have hwaiting : Function.update t.waiting r false = t.waiting := by
    rw [← hidle, Function.update_eq_self]
  refine ⟨fun k r' => ?_, h.keys_iff, h.distinct, fun r' hr' => ?_, fun r' => ?_, fun r' hr' => ?_⟩
  · rw [complete_waiting, hwaiting]
    exact h.pending_iff k r'
  · rw [complete_waiting, complete_keys, hwaiting] at hr'
    rw [complete_completions]
    have hne : r' ≠ r := by
      rintro rfl
      obtain hwaits | hnone := hr'
      · rw [hidle] at hwaits
        cases hwaits
      · exact hkey hnone
    rw [Function.update_of_ne hne]
    exact h.silent r' hr'
  · rw [complete_completions]
    by_cases hr : r' = r
    · subst r'
      simp [hsilent]
    · rw [Function.update_of_ne hr]
      exact h.once r'
  · rw [complete_waiting, hwaiting] at hr'
    exact h.known r' hr'

/-- An answer under a key that is in the map completes the request of that key. -/
theorem Ok.answer_eq (h : t.Ok) {k : κ} {r : Nat} (hpending : t.pending.get? k = some r) (a : α) :
    t.answer k a = (t.withdraw r).complete r a := by
  have hkey := ((h.pending_iff k r).mp hpending).2
  unfold Promises.answer Promises.withdraw Promises.complete
  rw [hpending, hkey]
  simp

theorem Ok.answer (h : t.Ok) (k : κ) (a : α) : (t.answer k a).Ok := by
  cases hpending : t.pending.get? k with
  | none =>
    unfold Promises.answer
    rw [hpending]
    exact h
  | some r =>
    obtain ⟨hwaits, -⟩ := (h.pending_iff k r).mp hpending
    rw [h.answer_eq hpending]
    refine (h.withdraw r).complete ?_ ?_ ?_ a
    · rw [withdraw_keys]
      exact h.known r hwaits
    · rw [h.withdraw_waiting, Function.update_self]
    · rw [withdraw_completions]
      exact h.silent r (.inl hwaits)

section abort

variable (a : α)

omit [DecidableEq κ] in
theorem abortOne_spec (t : Promises κ α) (r : Nat) :
    (abortOne a t r).keys = t.keys ∧ (abortOne a t r).issued = t.issued ∧
      ∀ r', ((abortOne a t r).completions r' =
          if r' = r ∧ t.completions r' = [] then [a] else t.completions r') ∧
        (abortOne a t r).waiting r' = if r' = r ∧ t.completions r' = [] then false else t.waiting r' := by
  unfold abortOne
  by_cases hsilent : t.completions r = []
  · rw [if_pos hsilent]
    refine ⟨rfl, rfl, fun r' => ?_⟩
    change Function.update t.completions r (t.completions r ++ [a]) r' = _ ∧
      Function.update t.waiting r false r' = _
    by_cases hr : r' = r
    · subst r'
      simp [hsilent]
    · simp [hr]
  · rw [if_neg hsilent]
    refine ⟨rfl, rfl, fun r' => ?_⟩
    have hnot : ¬ (r' = r ∧ t.completions r' = []) := by
      rintro ⟨rfl, hnil⟩
      exact hsilent hnil
    rw [if_neg hnot, if_neg hnot]
    exact ⟨rfl, rfl⟩

omit [DecidableEq κ] in
theorem foldl_abortOne (rs : List Nat) (t : Promises κ α) :
    (rs.foldl (abortOne a) t).keys = t.keys ∧ (rs.foldl (abortOne a) t).issued = t.issued ∧
      ∀ r, ((rs.foldl (abortOne a) t).completions r =
          if r ∈ rs ∧ t.completions r = [] then [a] else t.completions r) ∧
        (rs.foldl (abortOne a) t).waiting r = if r ∈ rs ∧ t.completions r = [] then false else t.waiting r := by
  induction rs generalizing t with
  | nil => simp
  | cons r rs ih =>
    obtain ⟨hkeys, hissued, hone⟩ := abortOne_spec a t r
    obtain ⟨hkeys', hissued', hrest⟩ := ih (abortOne a t r)
    rw [List.foldl_cons]
    refine ⟨hkeys'.trans hkeys, hissued'.trans hissued, fun r' => ?_⟩
    rw [(hrest r').1, (hrest r').2, (hone r').1, (hone r').2]
    by_cases hsilent : t.completions r' = []
    · by_cases hr : r' = r
      · subst r'
        simp [hsilent]
      · simp [hr, hsilent]
    · simp [hsilent]

/-- Whoever waits is told, and nobody waits any more. -/
theorem Ok.abort_spec (h : t.Ok) :
    (t.abort a).keys = t.keys ∧ (t.abort a).issued = t.issued ∧
      (∀ r, (t.abort a).completions r = if t.waiting r then [a] else t.completions r) ∧
      ∀ r, (t.abort a).waiting r = false := by
  have hmem : ∀ r, r ∈ t.pending.pairs.map Prod.snd ↔ t.waiting r = true := by
    intro r
    rw [List.mem_map]
    constructor
    · rintro ⟨⟨k, r'⟩, hpair, rfl⟩
      exact ((h.pending_iff k r').mp ((GoMap.mem_pairs_iff _ _ _).mp hpair)).1
    · intro hwaits
      obtain ⟨k, hk⟩ := Option.ne_none_iff_exists'.mp (h.known r hwaits)
      exact ⟨(k, r), (GoMap.mem_pairs_iff _ _ _).mpr ((h.pending_iff k r).mpr ⟨hwaits, hk⟩), rfl⟩
  obtain ⟨hkeys, hissued, hone⟩ := foldl_abortOne a (t.pending.pairs.map Prod.snd) t
  have hlisted : ∀ r, r ∈ t.pending.pairs.map Prod.snd ∧ t.completions r = [] ↔ t.waiting r = true := by
    intro r
    rw [hmem]
    exact and_iff_left_of_imp fun hwaits => h.silent r (.inl hwaits)
  refine ⟨hkeys, hissued, fun r => ?_, fun r => ?_⟩
  · refine (hone r).1.trans ?_
    simp only [hlisted]
  · refine (hone r).2.trans ?_
    simp only [hlisted]
    cases t.waiting r <;> rfl

theorem Ok.abort (h : t.Ok) : (t.abort a).Ok := by
  obtain ⟨hkeys, hissued, hcompletions, hwaiting⟩ := h.abort_spec a
  refine ⟨fun k r => ?_, fun r => ?_, fun r r' k => ?_, fun r hr => ?_, fun r => ?_, fun r hr => ?_⟩
  · rw [hwaiting]
    exact iff_of_false (by simp [Promises.abort]) (by simp)
  · rw [hkeys, hissued]
    exact h.keys_iff r
  · rw [hkeys]
    exact h.distinct r r' k
  · rw [hwaiting, hkeys] at hr
    have hnone := hr.resolve_left (by simp)
    have hidle : ¬ t.waiting r = true := fun hwaits => h.known r hwaits hnone
    rw [hcompletions, if_neg hidle]
    exact h.silent r (.inr hnone)
  · rw [hcompletions]
    split
    · exact Nat.le_refl 1
    · exact h.once r
  · rw [hwaiting] at hr
    cases hr

end abort

end steps

end Promises

end Correlation
