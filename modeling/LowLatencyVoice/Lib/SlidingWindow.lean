import Mathlib.Data.List.Basic
import Mathlib.Order.Lattice
import Mathlib.Order.Monotone.Defs
import LowLatencyVoice.Lib.Machine

namespace Machine

variable {σ ε : Type} (m : Machine σ ε Bool)

/-- The events of the run that were answered with true, in order. -/
def accepted (s : σ) : List ε → List ε
  | [] => []
  | e :: es => if m.out s e then e :: accepted (m.next s e) es else accepted (m.next s e) es

theorem accepted_append (s : σ) (es es' : List ε) :
    m.accepted s (es ++ es') = m.accepted s es ++ m.accepted (m.run s es) es' := by
  induction es generalizing s with
  | nil => rfl
  | cons e es ih =>
    simp only [List.cons_append, accepted, run_cons, ih]
    split <;> rfl

theorem accepted_concat (s : σ) (es : List ε) (e : ε) :
    m.accepted s (es ++ [e]) = m.accepted s es ++ if m.out (m.run s es) e then [e] else [] := by
  rw [accepted_append]
  rfl

theorem accepted_sublist (s : σ) (es : List ε) : (m.accepted s es).Sublist es := by
  induction es generalizing s with
  | nil => exact List.Sublist.slnil
  | cons e es ih =>
    unfold accepted
    split
    · exact (ih _).cons_cons e
    · exact (ih _).cons e

end Machine

/-- A limiter that lets `limit` calls into any window. `cutoff now` is the last
instant that a window ending at `now` leaves out. -/
structure SlidingWindow (Time : Type) where
  cutoff : Time → Time
  limit : Nat

namespace SlidingWindow

variable {Time : Type} [LinearOrder Time] (w : SlidingWindow Time)

/-- The instants of `ts` after `a`, up to and including `b`. -/
def within (a b : Time) (ts : List Time) : List Time := ts.filter fun t => a < t ∧ t ≤ b

/-- What is kept of the accepted calls: those the window still holds. -/
def unexpired (now : Time) (kept : List Time) : List Time := kept.filter fun t => w.cutoff now < t

def answer (kept : List Time) (now : Time) : List Time × Bool :=
  if (w.unexpired now kept).length ≥ w.limit then (w.unexpired now kept, false)
  else (w.unexpired now kept ++ [now], true)

def limiter : Machine (List Time) Time Bool where
  step := w.answer

variable {w}

theorem out_limiter {kept : List Time} {now : Time} :
    w.limiter.out kept now = true ↔ (w.unexpired now kept).length < w.limit := by
  simp only [Machine.out, limiter, answer]
  split <;> simp_all

theorem next_limiter (kept : List Time) (now : Time) :
    w.limiter.next kept now =
      w.unexpired now kept ++ if w.limiter.out kept now then [now] else [] := by
  simp only [Machine.next, Machine.out, limiter, answer]
  split <;> simp

/-- What has expired stays expired: the window only moves on. -/
theorem unexpired_unexpired (hcutoff : Monotone w.cutoff) {t now : Time} (hle : t ≤ now) (ts : List Time) :
    w.unexpired now (w.unexpired t ts) = w.unexpired now ts := by
  simp only [unexpired, List.filter_filter]
  refine List.filter_congr fun a _ => ?_
  have := hcutoff hle
  grind

/-- The limiter forgets only what no later window holds. -/
theorem unexpired_run (hcutoff : Monotone w.cutoff) {ts : List Time} (hts : ts.Pairwise (· ≤ ·)) {now : Time}
    (hnow : ∀ t ∈ ts, t ≤ now) :
    w.unexpired now (w.limiter.run [] ts) = w.unexpired now (w.limiter.accepted [] ts) := by
  induction ts using List.reverseRecOn generalizing now with
  | nil => rfl
  | append_singleton ts t ih =>
    obtain ⟨hts, -, hlast⟩ := List.pairwise_append.mp hts
    have hbefore : ∀ t' ∈ ts, t' ≤ t := fun t' h => hlast t' h t (by simp)
    have ht : t ≤ now := hnow t (by simp)
    rw [Machine.run_concat, Machine.accepted_concat, next_limiter, ih hts hbefore]
    simp only [unexpired, List.filter_append]
    congr 1
    exact unexpired_unexpired hcutoff ht _

/-- An accepted call is one of those the window up to it holds, exactly when it
comes after the cutoff. -/
theorem within_accepted {ts : List Time} {now : Time} (hnow : ∀ t ∈ ts, t ≤ now) (a : Time) :
    within a now (w.limiter.accepted [] ts) = (w.limiter.accepted [] ts).filter (a < ·) := by
  refine List.filter_congr fun t ht => ?_
  have := hnow t ((w.limiter.accepted_sublist [] ts).subset ht)
  simp [this]

/-- The limiter answers from the history of accepted calls alone. -/
theorem out_run_iff (hcutoff : Monotone w.cutoff) {ts : List Time} (hts : ts.Pairwise (· ≤ ·)) {now : Time}
    (hnow : ∀ t ∈ ts, t ≤ now) :
    w.limiter.out (w.limiter.run [] ts) now = true ↔
      (within (w.cutoff now) now (w.limiter.accepted [] ts)).length < w.limit := by
  rw [out_limiter, unexpired_run hcutoff hts hnow, within_accepted hnow]
  rfl

/-- No window holds more than `limit` accepted calls. -/
theorem length_within_le (hcutoff : Monotone w.cutoff) {ts : List Time} (hts : ts.Pairwise (· ≤ ·)) {a b : Time}
    (hab : w.cutoff b ≤ a) : (within a b (w.limiter.accepted [] ts)).length ≤ w.limit := by
  induction ts using List.reverseRecOn with
  | nil => exact Nat.zero_le _
  | append_singleton ts t ih =>
    obtain ⟨hts, -, hlast⟩ := List.pairwise_append.mp hts
    have hbefore : ∀ t' ∈ ts, t' ≤ t := fun t' h => hlast t' h t (by simp)
    rw [Machine.accepted_concat]
    split
    · next hout =>
      rw [within, List.filter_append, List.length_append]
      by_cases hin : a < t ∧ t ≤ b
      · -- what the window held before `t` the window up to `t` still holds
        have hroom := (out_run_iff hcutoff hts hbefore).mp hout
        have hfewer : (within a b (w.limiter.accepted [] ts)).length ≤
            (within (w.cutoff t) t (w.limiter.accepted [] ts)).length := by
          rw [within_accepted hbefore]
          refine (List.monotone_filter_right _ fun t' => ?_).length_le
          have := (hcutoff hin.2).trans hab
          grind
        have hone : ([t].filter fun t => a < t ∧ t ≤ b).length ≤ 1 := List.length_filter_le _ _
        exact Nat.le_trans (Nat.add_le_add hfewer hone) hroom
      · simpa [within, List.filter_cons, hin] using ih hts
    · simpa using ih hts

/-- After a refusal every later call is answered as if it had not been made. -/
theorem unexpired_run_refused (hcutoff : Monotone w.cutoff) (kept : List Time) {t : Time}
    (hrefused : w.limiter.out kept t = false) {mid : List Time} {now : Time}
    (hmid : (t :: mid).Pairwise (· ≤ ·)) (hnow : ∀ t' ∈ t :: mid, t' ≤ now) :
    w.unexpired now (w.limiter.run kept (t :: mid)) = w.unexpired now (w.limiter.run kept mid) := by
  induction mid using List.reverseRecOn generalizing now with
  | nil =>
    rw [Machine.run_cons, Machine.run_nil, Machine.run_nil, next_limiter, hrefused]
    simpa using unexpired_unexpired hcutoff (hnow t (by simp)) kept
  | append_singleton mid t' ih =>
    rw [← List.cons_append] at hmid ⊢
    obtain ⟨hmid, -, hlast⟩ := List.pairwise_append.mp hmid
    have hsame := ih hmid fun t'' h => hlast t'' h t' (by simp)
    have hout : w.limiter.out (w.limiter.run kept (t :: mid)) t' =
        w.limiter.out (w.limiter.run kept mid) t' := by
      rw [Bool.eq_iff_iff, out_limiter, out_limiter, hsame]
    rw [Machine.run_concat, Machine.run_concat, next_limiter, next_limiter, hsame, hout]

/-- The limiter never keeps more than it lets through. -/
theorem length_run_le (ts : List Time) : (w.limiter.run [] ts).length ≤ w.limit := by
  refine w.limiter.run_stable (fun kept => kept.length ≤ w.limit) ?_ (Nat.zero_le _) ts
  intro kept now hkept
  rw [next_limiter]
  have hfewer : (w.unexpired now kept).length ≤ kept.length := List.length_filter_le _ _
  split
  · next hout =>
    rw [out_limiter] at hout
    simpa [Nat.succ_le_iff] using hout
  · simpa using Nat.le_trans hfewer hkept

end SlidingWindow
