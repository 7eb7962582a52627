import Mathlib.Logic.Function.Basic
import LowLatencyVoice.Lib.Machine

/-- Goroutines over shared memory. A request fixes the actions its goroutine
will do; performing one action may put others before the rest, and `none`
means that the goroutine waits. The choice stands for what the environment
decides at that action. -/
structure Goroutines (γ σ ρ α χ : Type) where
  owner : ρ → γ
  program : σ → ρ → List α
  perform : σ → γ → α → χ → Option (σ × List α)

namespace Goroutines

/-- The shared memory, and what each goroutine still has to do. -/
structure Config (γ σ α : Type) where
  shared : σ
  todo : γ → List α

/-- What the scheduler may do next. -/
inductive Turn (γ ρ χ : Type) where
  | serve (request : ρ)
  | advance (g : γ) (choice : χ)

variable {γ σ ρ α χ : Type} [DecidableEq γ] (G : Goroutines γ σ ρ α χ)

/-- One turn. A goroutine serves one request at a time. -/
def step (k : Config γ σ α) : Turn γ ρ χ → Config γ σ α
  | .serve r =>
    if k.todo (G.owner r) = [] then
      { k with todo := Function.update k.todo (G.owner r) (G.program k.shared r) }
    else k
  | .advance g x =>
    match k.todo g with
    | [] => k
    | a :: rest =>
      match G.perform k.shared g a x with
      | none => k
      | some (s, acts) => ⟨s, Function.update k.todo g (acts ++ rest)⟩

/-- The goroutines under every schedule. -/
def machine : Machine (Config γ σ α) (Turn γ ρ χ) Unit := ⟨fun k t => (G.step k t, ())⟩

/-- A start in which nothing is in progress. -/
def idle (s : σ) : Config γ σ α := ⟨s, fun _ => []⟩

/-- No request is in progress. -/
def Quiet (k : Config γ σ α) : Prop := ∀ g, k.todo g = []

/-- Some goroutine still has `a` to do. -/
def Pending (k : Config γ σ α) (a : α) : Prop := ∃ g, a ∈ k.todo g

/-- The turn performs `a` on behalf of `g`, and `acts` are put before the rest. -/
structure Performs (k : Config γ σ α) (t : Turn γ ρ χ) (g : γ) (a : α) (s : σ) (acts : List α) :
    Prop where
  turn : ∃ x, t = .advance g x ∧ G.perform k.shared g a x = some (s, acts)
  head : ∃ rest, k.todo g = a :: rest ∧ G.step k t = ⟨s, Function.update k.todo g (acts ++ rest)⟩

/-- The turn comes to `a`, under what the environment chooses. -/
def Does (k : Config γ σ α) (t : Turn γ ρ χ) (a : α) (x : χ) : Prop :=
  ∃ g rest, t = .advance g x ∧ k.todo g = a :: rest

omit [DecidableEq γ] in
theorem Quiet.not_pending {k : Config γ σ α} (h : Quiet k) (a : α) : ¬ Pending k a := by
  intro hpending
  obtain ⟨g, hmem⟩ := hpending
  rw [h g] at hmem
  cases hmem

/-- What a turn can do: nothing, take up a request, or perform one action. -/
theorem step_cases (k : Config γ σ α) (t : Turn γ ρ χ) :
    G.step k t = k ∨
    (∃ r, t = .serve r ∧ k.todo (G.owner r) = [] ∧
      G.step k t = { k with todo := Function.update k.todo (G.owner r) (G.program k.shared r) }) ∨
    ∃ g a s acts, G.Performs k t g a s acts := by
  cases t with
  | serve r =>
    by_cases hidle : k.todo (G.owner r) = []
    · exact .inr (.inl ⟨r, rfl, hidle, by rw [step, if_pos hidle]⟩)
    · exact .inl (by rw [step, if_neg hidle])
  | advance g x =>
    cases htodo : k.todo g with
    | nil => exact .inl (by simp only [step, htodo])
    | cons a rest =>
      cases hperform : G.perform k.shared g a x with
      | none => exact .inl (by simp only [step, htodo, hperform])
      | some result =>
        obtain ⟨s, acts⟩ := result
        exact .inr (.inr ⟨g, a, s, acts, ⟨x, rfl, hperform⟩, rest, htodo,
          by simp only [step, htodo, hperform]⟩)

/-- A goroutine with nothing to do lets its turn pass. -/
theorem step_advance_nil {k : Config γ σ α} {g : γ} (h : k.todo g = []) (x : χ) :
    G.step k (.advance g x) = k := by
  simp only [step, h]

/-- The goroutine a turn belongs to. -/
def routine : Turn γ ρ χ → γ
  | .serve r => G.owner r
  | .advance g _ => g

/-- A turn leaves the other goroutines alone. -/
theorem step_todo_of_ne {k : Config γ σ α} {t : Turn γ ρ χ} {g : γ} (hne : G.routine t ≠ g) :
    (G.step k t).todo g = k.todo g := by
  obtain hsame | ⟨r, rfl, -, hstep⟩ | ⟨g', a, s, acts, ⟨⟨_, rfl, -⟩, rest, -, hstep⟩⟩ := G.step_cases k t
  · rw [hsame]
  · rw [hstep]
    exact Function.update_of_ne (Ne.symm hne) _ _
  · rw [hstep]
    exact Function.update_of_ne (Ne.symm hne) _ _

/-- A goroutine without a turn has nothing to do. -/
theorem run_todo_of_untouched (s : σ) {ts : List (Turn γ ρ χ)} {g : γ}
    (h : ∀ t ∈ ts, G.routine t ≠ g) : (G.machine.run (idle s) ts).todo g = [] := by
  induction ts using List.reverseRecOn with
  | nil => rfl
  | append_singleton ts t ih =>
    rw [Machine.run_concat]
    refine (G.step_todo_of_ne (h t (by simp))).trans (ih fun t' ht' => h t' (by simp [ht']))

/-- What is to do is with a goroutine that had a turn. -/
theorem exists_of_pending (s : σ) {ts : List (Turn γ ρ χ)} {a : α}
    (h : Pending (G.machine.run (idle s) ts) a) :
    ∃ t ∈ ts, a ∈ (G.machine.run (idle s) ts).todo (G.routine t) := by
  obtain ⟨g, hmem⟩ := h
  by_contra hnone
  have huntouched : ∀ t ∈ ts, G.routine t ≠ g := by
    intro t ht hg
    subst hg
    exact hnone ⟨t, ht, hmem⟩
  rw [G.run_todo_of_untouched s huntouched] at hmem
  cases hmem

/-- A run is over once each goroutine that had a turn has nothing to do. -/
theorem quiet_of_all (s : σ) {ts : List (Turn γ ρ χ)}
    (h : ts.all (fun t => ((G.machine.run (idle s) ts).todo (G.routine t)).isEmpty) = true) :
    Quiet (G.machine.run (idle s) ts) := by
  intro g
  by_cases htouched : ∃ t ∈ ts, G.routine t = g
  · obtain ⟨t, ht, rfl⟩ := htouched
    exact List.isEmpty_iff.mp (List.all_eq_true.mp h t ht)
  · exact G.run_todo_of_untouched s fun t ht heq => htouched ⟨t, ht, heq⟩

section performs

variable {G} {k : Config γ σ α} {t : Turn γ ρ χ} {g : γ} {a : α} {s : σ} {acts : List α}

theorem Performs.shared (h : G.Performs k t g a s acts) : (G.step k t).shared = s := by
  obtain ⟨rest, -, hstep⟩ := h.head
  rw [hstep]

theorem Performs.exists_does (h : G.Performs k t g a s acts) :
    ∃ x, Does k t a x ∧ G.perform k.shared g a x = some (s, acts) := by
  obtain ⟨⟨x, hturn, hperform⟩, rest, htodo, -⟩ := h
  exact ⟨x, ⟨g, rest, hturn, htodo⟩, hperform⟩

theorem Performs.mem_todo (h : G.Performs k t g a s acts) : a ∈ k.todo g := by
  obtain ⟨rest, htodo, -⟩ := h.head
  rw [htodo]
  exact List.mem_cons_self

/-- Another action of a goroutine stays with it. -/
theorem Performs.mem_of_ne (h : G.Performs k t g a s acts) {g' : γ} {b : α} (hb : b ∈ k.todo g')
    (hne : b ≠ a) : b ∈ (G.step k t).todo g' := by
  obtain ⟨rest, htodo, hstep⟩ := h.head
  rw [hstep]
  by_cases hg : g' = g
  · subst g'
    rw [htodo, List.mem_cons] at hb
    simp [hb.resolve_left hne]
  · simp only [Function.update_of_ne hg]
    exact hb

/-- What a goroutine has to do after the turn it had to do before, or it has
just been put there. -/
theorem Performs.mem_elim (h : G.Performs k t g a s acts) {g' : γ} {b : α}
    (hb : b ∈ (G.step k t).todo g') : g' = g ∧ b ∈ acts ∨ b ∈ k.todo g' := by
  obtain ⟨rest, htodo, hstep⟩ := h.head
  rw [hstep] at hb
  by_cases hg : g' = g
  · subst g'
    simp only [Function.update_self, List.mem_append] at hb
    obtain hnew | hrest := hb
    · exact .inl ⟨rfl, hnew⟩
    · exact .inr (by simp [htodo, hrest])
  · simp only [Function.update_of_ne hg] at hb
    exact .inr hb

/-- Another action that was still to do remains to do. -/
theorem Performs.pending_of_ne (h : G.Performs k t g a s acts) {b : α} (hb : Pending k b) (hne : b ≠ a) :
    Pending (G.step k t) b := by
  obtain ⟨g', hmem⟩ := hb
  exact ⟨g', h.mem_of_ne hmem hne⟩

/-- An action that was to do remains to do, or has just been performed. -/
theorem Performs.pending_or_eq (h : G.Performs k t g a s acts) {b : α} (hb : Pending k b) :
    b = a ∨ Pending (G.step k t) b := by
  by_cases hne : b = a
  · exact .inl hne
  · exact .inr (h.pending_of_ne hb hne)

/-- What an action puts before the rest is to do. -/
theorem Performs.pending_of_mem (h : G.Performs k t g a s acts) {b : α} (hb : b ∈ acts) :
    Pending (G.step k t) b := by
  obtain ⟨rest, -, hstep⟩ := h.head
  exact ⟨g, by simp [hstep, hb]⟩

end performs

/-- Each goroutine has at most one action to do: what it is waiting for. -/
def Single (k : Config γ σ α) : Prop := ∀ g, (k.todo g).length ≤ 1

section single

variable {G} {k : Config γ σ α} {t : Turn γ ρ χ} {g : γ} {a : α} {s : σ} {acts : List α}

omit [DecidableEq γ] in
theorem Single.rest_eq (h : Single k) {rest : List α} (htodo : k.todo g = a :: rest) : rest = [] := by
  have hlength := h g
  rw [htodo, List.length_cons] at hlength
  exact List.eq_nil_of_length_eq_zero (by omega)

theorem Single.todo_eq (h : Single k) (hp : G.Performs k t g a s acts) : k.todo g = [a] := by
  obtain ⟨rest, htodo, -⟩ := hp.head
  rw [htodo, h.rest_eq htodo]

/-- A turn replaces the one action by what it leads to. -/
theorem Single.step_advance (h : Single k) {x : χ} {rest : List α} (htodo : k.todo g = a :: rest)
    (hperform : G.perform k.shared g a x = some (s, acts)) :
    rest = [] ∧ G.step k (.advance g x) = ⟨s, Function.update k.todo g acts⟩ := by
  refine ⟨h.rest_eq htodo, ?_⟩
  simp only [step, htodo, hperform, h.rest_eq htodo, List.append_nil]

/-- Then what there is to do after an action is what it has led to, and what the
other goroutines had to do. -/
theorem Single.mem_step_iff (h : Single k) (hp : G.Performs k t g a s acts) {g' : γ} {b : α} :
    b ∈ (G.step k t).todo g' ↔ g' = g ∧ b ∈ acts ∨ g' ≠ g ∧ b ∈ k.todo g' := by
  obtain ⟨rest, htodo, hstep⟩ := hp.head
  rw [hstep, h.rest_eq htodo]
  by_cases hg : g' = g
  · simp [hg]
  · simp [hg]

theorem Single.perform (h : Single k) (hp : G.Performs k t g a s acts) (hacts : acts.length ≤ 1) :
    Single (G.step k t) := by
  intro g'
  obtain ⟨rest, htodo, hstep⟩ := hp.head
  rw [h.todo_eq hp] at htodo
  cases htodo
  rw [hstep]
  by_cases hg : g' = g
  · simpa [hg] using hacts
  · simpa [Function.update_of_ne hg] using h g'

theorem Single.serve (h : Single k) (acts : List α) (hacts : acts.length ≤ 1) :
    Single { k with todo := Function.update k.todo g acts } := by
  intro g'
  by_cases hg : g' = g
  · simpa [hg] using hacts
  · simpa [Function.update_of_ne hg] using h g'

end single

/-- Taking up a request only adds actions. -/
theorem mem_serve {k : Config γ σ α} {g g' : γ} {b : α} (hmem : b ∈ k.todo g') (hidle : k.todo g = [])
    (acts : List α) : b ∈ Function.update k.todo g acts g' := by
  have hne : g' ≠ g := by
    intro h
    subst g'
    rw [hidle] at hmem
    cases hmem
  rw [Function.update_of_ne hne]
  exact hmem

theorem Pending.serve {k : Config γ σ α} {b : α} (hb : Pending k b) {g : γ} (hidle : k.todo g = [])
    (acts : List α) : Pending { k with todo := Function.update k.todo g acts } b := by
  obtain ⟨g', hmem⟩ := hb
  exact ⟨g', mem_serve hmem hidle acts⟩

/-- What there is to do after a request is taken up is part of it, or was there before. -/
theorem Pending.of_serve {k : Config γ σ α} {b : α} {g : γ} {acts : List α}
    (hb : Pending { k with todo := Function.update k.todo g acts } b) : b ∈ acts ∨ Pending k b := by
  obtain ⟨g', hmem⟩ := hb
  by_cases hg : g' = g
  · subst g'
    simp only [Function.update_self] at hmem
    exact .inl hmem
  · simp only [Function.update_of_ne hg] at hmem
    exact .inr ⟨g', hmem⟩

/-- An action a goroutine has performed, with the memory it found and left. -/
structure OwnStep (σ α χ : Type) where
  before : σ
  act : α
  choice : χ
  after : σ

/-- What a turn performs for `g`, if anything. -/
def ownStep? (g : γ) (k : Config γ σ α) : Turn γ ρ χ → Option (OwnStep σ α χ)
  | .serve _ => none
  | .advance g' x =>
    if g' = g then
      match k.todo g with
      | [] => none
      | a :: _ => (G.perform k.shared g a x).map fun result => ⟨k.shared, a, x, result.1⟩
    else none

/-- What the turns perform for `g`, whatever the other goroutines do between. -/
def ownSteps (g : γ) : Config γ σ α → List (Turn γ ρ χ) → List (OwnStep σ α χ)
  | _, [] => []
  | k, t :: ts => (G.ownStep? g k t).toList ++ ownSteps g (G.step k t) ts

/-- The steps are those of a goroutine with `acts` to do: each action leads to the next
ones, in whatever memory it is performed. -/
inductive Unfolds (g : γ) : List α → List (OwnStep σ α χ) → Prop where
  | stop (acts : List α) : Unfolds g acts []
  | step {a : α} {rest acts : List α} {s s' : σ} {x : χ} {steps : List (OwnStep σ α χ)}
      (hperform : G.perform s g a x = some (s', acts)) (hrest : Unfolds g (acts ++ rest) steps) :
      Unfolds g (a :: rest) (⟨s, a, x, s'⟩ :: steps)

/-- A goroutine that takes up no other request goes through its actions. -/
theorem unfolds_ownSteps {g : γ} (k : Config γ σ α) {ts : List (Turn γ ρ χ)}
    (h : ∀ r, Turn.serve r ∈ ts → G.owner r ≠ g) : G.Unfolds g (k.todo g) (G.ownSteps g k ts) := by
  induction ts generalizing k with
  | nil => exact .stop _
  | cons t ts ih =>
    have hrest := ih (G.step k t) fun r hr => h r (List.mem_cons_of_mem t hr)
    have hother : G.routine t ≠ g → G.ownStep? g k t = none →
        G.Unfolds g (k.todo g) (G.ownSteps g k (t :: ts)) := by
      intro hne hnone
      rw [G.step_todo_of_ne hne] at hrest
      simpa only [ownSteps, hnone, Option.toList_none, List.nil_append] using hrest
    cases t with
    | serve r => exact hother (h r List.mem_cons_self) rfl
    | advance g' x =>
      by_cases hg : g' = g
      · subst hg
        cases htodo : k.todo g' with
        | nil =>
          have hsame := G.step_advance_nil htodo x
          rw [hsame, htodo] at hrest
          simpa [ownSteps, ownStep?, htodo, hsame] using hrest
        | cons a rest =>
          cases hperform : G.perform k.shared g' a x with
          | none =>
            have hsame : G.step k (.advance g' x) = k := by simp only [step, htodo, hperform]
            rw [hsame, htodo] at hrest
            simpa [ownSteps, ownStep?, htodo, hperform, hsame] using hrest
          | some result =>
            obtain ⟨s', acts⟩ := result
            have hstep : G.step k (.advance g' x) = ⟨s', Function.update k.todo g' (acts ++ rest)⟩ := by
              simp only [step, htodo, hperform]
            simp only [hstep, Function.update_self] at hrest
            simp only [ownSteps, ownStep?, if_true, htodo, hperform, Option.map_some, Option.toList_some,
              List.singleton_append, hstep]
            exact .step hperform hrest
      · exact hother hg (by simp only [ownStep?, if_neg hg])

/-- The invariant rule: what holds at the start, survives the start of every
request and every action that meets `ok`, holds after every schedule. -/
theorem run_rule {k₀ : Config γ σ α} (ok : Config γ σ α → Turn γ ρ χ → Prop) (inv : Config γ σ α → Prop)
    (hinit : inv k₀)
    (hserve : ∀ k r, inv k → ok k (.serve r) → k.todo (G.owner r) = [] →
      inv { k with todo := Function.update k.todo (G.owner r) (G.program k.shared r) })
    (hperform : ∀ k t g a s acts, inv k → ok k t → G.Performs k t g a s acts → inv (G.step k t))
    (ts : List (Turn γ ρ χ)) (hok : Machine.Along (fun pre t => ok (G.machine.run k₀ pre) t) ts) :
    inv (G.machine.run k₀ ts) := by
  refine Machine.run_invariant G.machine (fun _ k => inv k) hinit ?_ ts hok
  intro pre t ht hinv
  obtain hsame | ⟨r, rfl, hidle, hstart⟩ | ⟨g, a, s, acts, hact⟩ := G.step_cases (G.machine.run k₀ pre) t
  · change inv (G.step (G.machine.run k₀ pre) t)
    rw [hsame]
    exact hinv
  · change inv (G.step (G.machine.run k₀ pre) (.serve r))
    rw [hstart]
    exact hserve _ r hinv ht hidle
  · exact hperform _ t g a s acts hinv ht hact

end Goroutines
