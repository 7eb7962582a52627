import Mathlib.Data.List.Induction

/-- A deterministic machine. An event carries every choice the environment
makes; the step returns the next state and what the step shows outside. -/
structure Machine (σ ε ο : Type) where
  step : σ → ε → σ × ο

namespace Machine

variable {σ ε ο : Type} (m : Machine σ ε ο)

/-- The state after one event. -/
def next (s : σ) (e : ε) : σ := (m.step s e).1

/-- What one event shows outside. -/
def out (s : σ) (e : ε) : ο := (m.step s e).2

/-- The state after a finite run of events. -/
def run (s : σ) (es : List ε) : σ := es.foldl m.next s

@[simp] theorem run_nil (s : σ) : m.run s [] = s := rfl

@[simp] theorem run_cons (s : σ) (e : ε) (es : List ε) :
    m.run s (e :: es) = m.run (m.next s e) es := rfl

theorem run_append (s : σ) (es es' : List ε) :
    m.run s (es ++ es') = m.run (m.run s es) es' := List.foldl_append

theorem run_concat (s : σ) (es : List ε) (e : ε) :
    m.run s (es ++ [e]) = m.next (m.run s es) e := by
  rw [run_append, run_cons, run_nil]

/-- Every step of the run meets `ok`, a condition on the events before it and
the event itself. -/
def Along (ok : List ε → ε → Prop) (es : List ε) : Prop :=
  ∀ pre e post, es = pre ++ e :: post → ok pre e

omit m in
theorem Along.front {ok : List ε → ε → Prop} {es es' : List ε}
    (h : Along ok (es ++ es')) : Along ok es := by
  intro pre e post heq
  exact h pre e (post ++ es') (by simp [heq])

omit m in
theorem Along.last {ok : List ε → ε → Prop} {es : List ε} {e : ε}
    (h : Along ok (es ++ [e])) : ok es e := h es e [] rfl

omit m in
theorem along_concat_iff {ok : List ε → ε → Prop} {es : List ε} {e : ε} :
    Along ok (es ++ [e]) ↔ Along ok es ∧ ok es e := by
  refine ⟨fun h => ⟨h.front, h.last⟩, ?_⟩
  rintro ⟨hes, he⟩ pre e' post heq
  rcases List.eq_nil_or_concat post with rfl | ⟨front, last, rfl⟩
  · obtain ⟨rfl, hlast⟩ := List.append_inj' heq rfl
    cases hlast
    exact he
  · have hsplit : es ++ [e] = (pre ++ e' :: front) ++ [last] := by simpa using heq
    obtain ⟨hpre, -⟩ := List.append_inj' hsplit rfl
    exact hes pre e' front hpre

omit m in
theorem along_nil {ok : List ε → ε → Prop} : Along ok [] := by
  intro pre e post heq
  simp at heq

omit m in
theorem along_cons_iff {ok : List ε → ε → Prop} {e : ε} {es : List ε} :
    Along ok (e :: es) ↔ ok [] e ∧ Along (fun pre => ok (e :: pre)) es := by
  constructor
  · exact fun h => ⟨h [] e es rfl, fun pre e' post heq => h (e :: pre) e' post (by simp [heq])⟩
  · rintro ⟨he, hes⟩ pre e' post heq
    cases pre with
    | nil =>
      cases heq
      exact he
    | cons e₀ pre =>
      cases heq
      exact hes pre e' post rfl

omit m in
/-- What holds at the start and after every step holds at every point of the run. -/
theorem forall_front_iff {P : List ε → Prop} (hinit : P []) {es : List ε} :
    (∀ pre post, es = pre ++ post → P pre) ↔ Along (fun pre e => P (pre ++ [e])) es := by
  constructor
  · exact fun h pre e post heq => h (pre ++ [e]) post (by simp [heq])
  · intro h pre post heq
    rcases List.eq_nil_or_concat pre with rfl | ⟨front, e, rfl⟩
    · exact hinit
    · rw [List.concat_eq_append]
      exact h front e post (by simp [heq])

omit m in
/-- Two conditions that agree on each step of an invariant hold along the same
runs. `env` is what the environment promises. -/
theorem along_iff_along {good ok : List ε → ε → Prop} (env : List ε → ε → Prop) (inv : List ε → Prop)
    (hinit : inv [])
    (hiff : ∀ pre e, env pre e → inv pre → (good pre e ↔ ok pre e))
    (hkeep : ∀ pre e, env pre e → inv pre → ok pre e → inv (pre ++ [e])) (es : List ε)
    (henv : Along env es) : Along good es ↔ Along ok es := by
  have hboth : (Along good es ↔ Along ok es) ∧ (Along ok es → inv es) := by
    induction es using List.reverseRecOn with
    | nil => exact ⟨iff_of_true along_nil along_nil, fun _ => hinit⟩
    | append_singleton pre e ih =>
      obtain ⟨hruns, hinv⟩ := ih henv.front
      constructor
      · rw [along_concat_iff, along_concat_iff, hruns]
        exact and_congr_right fun hok => hiff pre e henv.last (hinv hok)
      · exact fun hok => hkeep pre e henv.last (hinv hok.front) hok.last
  exact hboth.1

/-- The past-time operator: some earlier event opened, and no event after it
closed. What opens may depend on the events before it. -/
def Since (opens : List ε → ε → Prop) (closes : ε → Prop) (es : List ε) : Prop :=
  ∃ front e rest, es = front ++ e :: rest ∧ opens front e ∧ ∀ e' ∈ rest, ¬ closes e'

omit m in
theorem not_since_nil {opens : List ε → ε → Prop} {closes : ε → Prop} :
    ¬ Since opens closes [] := by
  rintro ⟨front, e, rest, heq, -⟩
  simp at heq

omit m in
theorem Since.exists_mem {opens : List ε → ε → Prop} {closes : ε → Prop} {es : List ε}
    (h : Since opens closes es) : ∃ pre, ∃ e ∈ es, opens pre e := by
  obtain ⟨front, e, rest, rfl, hopen, -⟩ := h
  exact ⟨front, e, by simp, hopen⟩

/-- `Since` where what closes may depend on the events before it too. -/
def HistorySince (opens closes : List ε → ε → Prop) (es : List ε) : Prop :=
  ∃ front e rest, es = front ++ e :: rest ∧ opens front e ∧
    Along (fun pre e' => ¬ closes (front ++ e :: pre) e') rest

omit m in
theorem not_historySince_nil {opens closes : List ε → ε → Prop} : ¬ HistorySince opens closes [] := by
  rintro ⟨front, e, rest, heq, -⟩
  simp at heq

omit m in
theorem historySince_concat_iff {opens closes : List ε → ε → Prop} {es : List ε} {e : ε} :
    HistorySince opens closes (es ++ [e]) ↔ opens es e ∨ HistorySince opens closes es ∧ ¬ closes es e := by
  constructor
  · rintro ⟨front, e', rest, heq, hopen, hrest⟩
    rcases List.eq_nil_or_concat rest with rfl | ⟨init, last, rfl⟩
    · obtain ⟨rfl, hlast⟩ := List.append_inj' heq rfl
      cases hlast
      exact .inl hopen
    · have hsplit : es ++ [e] = (front ++ e' :: init) ++ [last] := by simpa using heq
      obtain ⟨rfl, hlast⟩ := List.append_inj' hsplit rfl
      cases hlast
      rw [List.concat_eq_append] at hrest
      obtain ⟨hinit, hnot⟩ := along_concat_iff.mp hrest
      exact .inr ⟨⟨front, e', init, rfl, hopen, hinit⟩, hnot⟩
  · rintro (hopen | ⟨⟨front, e', rest, rfl, hopen, hrest⟩, hlast⟩)
    · exact ⟨es, e, [], rfl, hopen, along_nil⟩
    · exact ⟨front, e', rest ++ [e], by simp, hopen, along_concat_iff.mpr ⟨hrest, hlast⟩⟩

omit m in
theorem along_const_iff {ok : ε → Prop} {es : List ε} : Along (fun _ e => ok e) es ↔ ∀ e ∈ es, ok e := by
  constructor
  · intro h e he
    obtain ⟨pre, post, heq⟩ := List.append_of_mem he
    exact h pre e post heq
  · rintro h pre e post rfl
    exact h e (by simp)

omit m in
theorem since_iff_historySince {opens : List ε → ε → Prop} {closes : ε → Prop} {es : List ε} :
    Since opens closes es ↔ HistorySince opens (fun _ => closes) es := by
  have hopen : ∀ rest, Along (fun _ e' => ¬ closes e') rest ↔ ∀ e' ∈ rest, ¬ closes e' :=
    fun _ => along_const_iff
  simp only [Since, HistorySince, hopen]

omit m in
theorem since_concat_iff {opens : List ε → ε → Prop} {closes : ε → Prop} {es : List ε} {e : ε} :
    Since opens closes (es ++ [e]) ↔ opens es e ∨ Since opens closes es ∧ ¬ closes e := by
  rw [since_iff_historySince, since_iff_historySince, historySince_concat_iff]

omit m in
theorem Since.imp_opens {opens opens' : List ε → ε → Prop} {closes : ε → Prop} {es : List ε}
    (h : Since opens closes es) (himp : ∀ pre e, opens pre e → opens' pre e) :
    Since opens' closes es := by
  obtain ⟨front, e, rest, heq, hopen, hrest⟩ := h
  exact ⟨front, e, rest, heq, himp front e hopen, hrest⟩

/-- Some earlier event did it. -/
abbrev Earlier (did : List ε → ε → Prop) : List ε → Prop := Since did fun _ => False

omit m in
theorem earlier_concat_iff {did : List ε → ε → Prop} {es : List ε} {e : ε} :
    Earlier did (es ++ [e]) ↔ did es e ∨ Earlier did es := by
  rw [Earlier, since_concat_iff]
  simp

omit m in
theorem earlier_or {did did' : List ε → ε → Prop} {es : List ε}
    (h : Earlier (fun pre e => did pre e ∨ did' pre e) es) : Earlier did es ∨ Earlier did' es := by
  obtain ⟨front, e, rest, heq, hdid | hdid, hrest⟩ := h
  · exact .inl ⟨front, e, rest, heq, hdid, hrest⟩
  · exact .inr ⟨front, e, rest, heq, hdid, hrest⟩

/-- The machine with an observer, who takes in every output once and in order. -/
def observed {κ : Type} (m : Machine σ ε (List ο)) (takeIn : κ → ο → κ) : Machine (σ × κ) ε (List ο) where
  step s e := ((m.next s.1 e, (m.out s.1 e).foldl takeIn s.2), m.out s.1 e)

/-- The observer does not disturb the machine. -/
theorem run_observed_fst {κ : Type} (m : Machine σ ε (List ο)) (takeIn : κ → ο → κ) (s : σ) (k : κ)
    (es : List ε) : ((m.observed takeIn).run (s, k) es).1 = m.run s es := by
  induction es using List.reverseRecOn with
  | nil => rfl
  | append_singleton pre e ih =>
    rw [run_concat, run_concat, ← ih]
    rfl

/-- All that a run shows, in order. -/
def outputs (m : Machine σ ε (List ο)) (s : σ) : List ε → List ο
  | [] => []
  | e :: es => m.out s e ++ m.outputs (m.next s e) es

theorem outputs_append (m : Machine σ ε (List ο)) (s : σ) (es es' : List ε) :
    m.outputs s (es ++ es') = m.outputs s es ++ m.outputs (m.run s es) es' := by
  induction es generalizing s with
  | nil => rfl
  | cons e es ih =>
    rw [List.cons_append, outputs, outputs, ih, List.append_assoc]
    rfl

/-- The invariant rule. `inv` may mention the run so far; it has to hold at the
start and survive each step that meets `ok`. -/
theorem run_invariant {ok : List ε → ε → Prop} (inv : List ε → σ → Prop) {s : σ}
    (hinit : inv [] s)
    (hstep : ∀ pre e, ok pre e → inv pre (m.run s pre) → inv (pre ++ [e]) (m.next (m.run s pre) e))
    (es : List ε) (hok : Along ok es) : inv es (m.run s es) := by
  induction es using List.reverseRecOn with
  | nil => exact hinit
  | append_singleton pre e ih =>
    rw [run_concat]
    exact hstep pre e hok.last (ih hok.front)

/-- What no step undoes holds after every run. -/
theorem run_stable (inv : σ → Prop) (hstep : ∀ s e, inv s → inv (m.next s e)) {s : σ} (h : inv s)
    (es : List ε) : inv (m.run s es) := by
  refine m.run_invariant (fun _ s => inv s) h ?_ es (fun _ _ _ _ => trivial : Along (fun _ _ => True) es)
  exact fun pre e _ hinv => hstep _ e hinv

/-- No two steps of the run do it. -/
def AtMostOnce (did : List ε → ε → Prop) (es : List ε) : Prop :=
  ∀ pre e mid e' post, es = pre ++ e :: (mid ++ e' :: post) → did pre e → ¬ did (pre ++ e :: mid) e'

end Machine
