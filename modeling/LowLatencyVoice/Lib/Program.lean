import Mathlib.Data.List.Basic

/-- A program: it is done, or makes a call and goes on with the answer. -/
inductive Program (κ : Type) (Answer : κ → Type) (α : Type) where
  | done (a : α)
  | call (k : κ) (next : Answer k → Program κ Answer α)

namespace Program

variable {κ : Type} {Answer : κ → Type} {α β ι σ ο : Type}

def bind : Program κ Answer α → (α → Program κ Answer β) → Program κ Answer β
  | .done a, f => f a
  | .call k next, f => .call k fun answer => (next answer).bind f

instance instMonad : Monad (Program κ Answer) where
  pure := .done
  bind := bind

/-- One call. -/
def perform (k : κ) : Program κ Answer (Answer k) := .call k .done

/-- A loop over a list. -/
def forEach (items : List ι) (body : ι → Program κ Answer Unit) : Program κ Answer Unit :=
  match items with
  | [] => .done ()
  | item :: rest => (body item).bind fun _ => forEach rest body

/-- A call that was made, with its answer. -/
abbrev Exchange (Answer : κ → Type) := (k : κ) × Answer k

/-- What the calls of a trace show outside. -/
def shown (out : κ → List ο) (trace : List (Exchange Answer)) : List ο := trace.flatMap fun e => out e.1

@[simp] theorem shown_nil (out : κ → List ο) : shown out ([] : List (Exchange Answer)) = [] := rfl

@[simp] theorem shown_cons (out : κ → List ο) (e : Exchange Answer) (trace : List (Exchange Answer)) :
    shown out (e :: trace) = out e.1 ++ shown out trace := rfl

theorem shown_append (out : κ → List ο) (trace trace' : List (Exchange Answer)) :
    shown out (trace ++ trace') = shown out trace ++ shown out trace' := List.flatMap_append

/-- A run among others, who may change the shared state before each call. A call is
answered from the state it finds, and may change it. -/
inductive Runs (others : σ → σ → Prop) (does : (k : κ) → σ → Answer k → σ → Prop) :
    Program κ Answer α → σ → List (Exchange Answer) → α → σ → Prop
  | done (a : α) (s : σ) : Runs others does (.done a) s [] a s
  | call {k : κ} {next : Answer k → Program κ Answer α} {s s₁ s₂ s₃ : σ} {answer : Answer k}
      {trace : List (Exchange Answer)} {a : α} (hothers : others s s₁) (hdoes : does k s₁ answer s₂)
      (hrest : Runs others does (next answer) s₂ trace a s₃) :
      Runs others does (.call k next) s (⟨k, answer⟩ :: trace) a s₃

section runs

variable {others : σ → σ → Prop} {does : (k : κ) → σ → Answer k → σ → Prop}

theorem runs_done_iff {a a' : α} {s s' : σ} {trace : List (Exchange Answer)} :
    Runs others does (.done a : Program κ Answer α) s trace a' s' ↔ trace = [] ∧ a' = a ∧ s' = s := by
  constructor
  · intro h
    cases h
    exact ⟨rfl, rfl, rfl⟩
  · rintro ⟨rfl, rfl, rfl⟩
    exact .done a' s'

/-- A run of two programs in turn is a run of the one and a run of the other. -/
theorem Runs.split {p : Program κ Answer α} {f : α → Program κ Answer β} {s s' : σ}
    {trace : List (Exchange Answer)} {b : β} (h : Runs others does (p.bind f) s trace b s') :
    ∃ front a mid back, trace = front ++ back ∧ Runs others does p s front a mid ∧
      Runs others does (f a) mid back b s' := by
  induction p generalizing s trace with
  | done a => exact ⟨[], a, s, trace, rfl, .done a s, h⟩
  | call k next ih =>
    cases h with
    | call hothers hdoes hrest =>
      obtain ⟨front, a, mid, back, rfl, hfront, hback⟩ := ih _ hrest
      exact ⟨_ :: front, a, mid, back, rfl, .call hothers hdoes hfront, hback⟩

/-- No program waits for ever where every call can be answered. -/
theorem exists_runs (hothers : ∀ s, others s s) (hdoes : ∀ k s, ∃ answer s', does k s answer s')
    (p : Program κ Answer α) (s : σ) : ∃ trace a s', Runs others does p s trace a s' := by
  induction p generalizing s with
  | done a => exact ⟨[], a, s, .done a s⟩
  | call k next ih =>
    obtain ⟨answer, s₁, hanswer⟩ := hdoes k s
    obtain ⟨trace, a, s', hrest⟩ := ih answer s₁
    exact ⟨_, a, s', .call (hothers s) hanswer hrest⟩

end runs

/-- The program alone, answered by a function. -/
def exec (answer : (k : κ) → σ → Answer k × σ) : Program κ Answer α → σ → List (Exchange Answer) × α × σ
  | .done a, s => ([], a, s)
  | .call k next, s =>
    let (trace, result) := (next (answer k s).1).exec answer (answer k s).2
    (⟨k, (answer k s).1⟩ :: trace, result)

/-- Alone, two programs in turn are executed one after the other. -/
theorem exec_bind (answer : (k : κ) → σ → Answer k × σ) (p : Program κ Answer α) (f : α → Program κ Answer β)
    (s : σ) :
    (p.bind f).exec answer s =
      ((p.exec answer s).1 ++ ((f (p.exec answer s).2.1).exec answer (p.exec answer s).2.2).1,
        ((f (p.exec answer s).2.1).exec answer (p.exec answer s).2.2).2) := by
  induction p generalizing s with
  | done a => rfl
  | call k next ih =>
    have hnext := ih (answer k s).1 (answer k s).2
    simp only [bind, exec, hnext, List.cons_append]

/-- Run alone, a program runs; of the shared state the others see the part `view`. -/
theorem runs_exec {τ : Type} {others : τ → τ → Prop} {does : (k : κ) → τ → Answer k → τ → Prop}
    {answer : (k : κ) → σ → Answer k × σ} (view : σ → τ) (hothers : ∀ t, others t t)
    (hdoes : ∀ k s, does k (view s) (answer k s).1 (view (answer k s).2)) (p : Program κ Answer α) (s : σ) :
    Runs others does p (view s) (p.exec answer s).1 (p.exec answer s).2.1 (view (p.exec answer s).2.2) := by
  induction p generalizing s with
  | done a => exact .done a (view s)
  | call k next ih => exact .call (hothers _) (hdoes k s) (ih (answer k s).1 (answer k s).2)

section shows

variable (others : σ → σ → Prop) (does : (k : κ) → σ → Answer k → σ → Prop) (out : κ → List ο)

/-- Whatever is answered, what a run from a state with `I` shows meets `Q`. -/
structure Shows (I : σ → Prop) (Q : List ο → Prop) (p : Program κ Answer α) : Prop where
  run : ∀ s trace a s', I s → Runs others does p s trace a s' → Q (shown out trace)

variable {others does out} {I J : σ → Prop} {Q Q' : List ο → Prop}

theorem Shows.done {a : α} (h : Q []) : Shows others does out I Q (.done a : Program κ Answer α) where
  run s trace a' s' _ hrun := by
    obtain ⟨rfl, -, -⟩ := runs_done_iff.mp hrun
    exact h

theorem Shows.mono {p : Program κ Answer α} (h : Shows others does out I Q p) (hI : ∀ s, J s → I s)
    (hQ : ∀ os, Q os → Q' os) : Shows others does out J Q' p where
  run s trace a s' hs hrun := hQ _ (h.run s trace a s' (hI s hs) hrun)

/-- The rule of one call. -/
theorem Shows.call {k : κ} {next : Answer k → Program κ Answer α} (hothers : ∀ s s', I s → others s s' → I s')
    (hkeeps : ∀ s answer s', I s → does k s answer s' → J s')
    (h : ∀ answer, (∃ s s', I s ∧ does k s answer s') →
      Shows others does out J (fun os => Q (out k ++ os)) (next answer)) :
    Shows others does out I Q (.call k next) where
  run s trace a s' hs hrun := by
    cases hrun with
    | @call _ _ _ s₁ s₂ _ answer trace _ hothers' hdoes hrest =>
      have hs₁ := hothers s s₁ hs hothers'
      have hs₂ := hkeeps s₁ answer s₂ hs₁ hdoes
      exact (h answer ⟨s₁, s₂, hs₁, hdoes⟩).run s₂ trace a s' hs₂ hrest

/-- The rule of one call and what comes after it. -/
theorem Shows.perform_bind {k : κ} {next : Answer k → Program κ Answer α}
    (hothers : ∀ s s', I s → others s s' → I s') (hkeeps : ∀ s answer s', I s → does k s answer s' → J s')
    (h : ∀ answer, (∃ s s', I s ∧ does k s answer s') →
      Shows others does out J (fun os => Q (out k ++ os)) (next answer)) :
    Shows others does out I Q (perform k >>= next) := Shows.call hothers hkeeps h

/-- The rule of two programs in turn. -/
theorem Shows.bind {p : Program κ Answer α} {f : α → Program κ Answer β} {P : List ο → Prop}
    (hp : Shows others does out (fun _ => True) P p)
    (hf : ∀ os, P os → ∀ a, Shows others does out (fun _ => True) (fun os' => Q (os ++ os')) (f a)) :
    Shows others does out (fun _ => True) Q (p.bind f) where
  run s trace b s' _ hrun := by
    obtain ⟨front, a, mid, back, rfl, hfront, hback⟩ := hrun.split
    rw [shown_append]
    have hshown := hp.run s front a mid trivial hfront
    exact (hf _ hshown a).run mid back b s' trivial hback

/-- The rule of the loop: what every round shows meets `P`, and so does what two such
show together. -/
theorem Shows.forEach {P : List ο → Prop} (hnil : P []) (happend : ∀ os os', P os → P os' → P (os ++ os'))
    {items : List ι} {body : ι → Program κ Answer Unit}
    (hbody : ∀ item, Shows others does out (fun _ => True) P (body item)) :
    Shows others does out (fun _ => True) P (Program.forEach items body) := by
  induction items with
  | nil => exact .done hnil
  | cons item rest ih =>
    apply Shows.bind (hbody item)
    intro os hos _
    exact ih.mono (fun s _ => trivial) fun os' hos' => happend os os' hos hos'

end shows

section every

/-- Every call the program may make, whatever it is answered, meets `P`. -/
def Every (P : κ → Prop) : Program κ Answer α → Prop
  | .done _ => True
  | .call k next => P k ∧ ∀ answer, (next answer).Every P

variable {P : κ → Prop}

theorem Every.perform {k : κ} (hk : P k) : (perform k : Program κ Answer (Answer k)).Every P := ⟨hk, fun _ => trivial⟩

/-- The rule of two programs in turn. -/
theorem Every.bind {p : Program κ Answer α} {f : α → Program κ Answer β} (hp : p.Every P)
    (hf : ∀ a, (f a).Every P) : (p.bind f).Every P := by
  induction p with
  | done a => exact hf a
  | call k next ih => exact ⟨hp.1, fun answer => ih answer (hp.2 answer)⟩

/-- The rule of one call and what comes after it. -/
theorem Every.perform_bind {k : κ} {next : Answer k → Program κ Answer α} (hk : P k)
    (h : ∀ answer, (next answer).Every P) : (Program.perform k >>= next).Every P := ⟨hk, h⟩

/-- The rule of the loop. -/
theorem Every.forEach {items : List ι} {body : ι → Program κ Answer Unit} (hbody : ∀ item, (body item).Every P) :
    (Program.forEach items body).Every P := by
  induction items with
  | nil => trivial
  | cons item rest ih => exact Every.bind (hbody item) fun _ => ih

/-- A run makes no other calls. -/
theorem Every.of_runs {p : Program κ Answer α} (hp : p.Every P) {others : σ → σ → Prop}
    {does : (k : κ) → σ → Answer k → σ → Prop} {s s' : σ} {trace : List (Exchange Answer)} {a : α}
    (hrun : Runs others does p s trace a s') : ∀ e ∈ trace, P e.1 := by
  induction hrun with
  | done a s =>
    intro e he
    cases he
  | call hothers hdoes hrest ih =>
    intro e he
    rcases List.mem_cons.mp he with rfl | hrest'
    · exact hp.1
    · exact ih (hp.2 _) e hrest'

end every

end Program
