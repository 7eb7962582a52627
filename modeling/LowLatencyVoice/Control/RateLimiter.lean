import Mathlib.Algebra.Order.Group.Int
import LowLatencyVoice.Lib.GoSlice
import LowLatencyVoice.Lib.SlidingWindow
import LowLatencyVoice.Model.Voice

open Machine low_latency_voice.model

namespace low_latency_voice.control

/-- `time.Second`. -/
def second : Time := 1000000000

/-- The fields of `Client` that `rateMu` guards. -/
structure RateLimit where
  msgTimestamps : GoSlice Time

namespace RateLimit

/-- As `NewClient` makes it. -/
def new : RateLimit where
  msgTimestamps := .make 0 16

/-- `Client.AllowMessage` at the instant `now`. -/
def allowMessage (c : RateLimit) (now : Time) : RateLimit × Bool :=
  let cutoff := now + -1 * second
  let valid := c.msgTimestamps.filterInPlace fun t => cutoff < t
  if valid.len ≥ 10 then ({ msgTimestamps := valid }, false)
  else ({ msgTimestamps := valid.append now }, true)

/-- The calls of one client, each at its instant. -/
def calls : Machine RateLimit Time Bool where
  step := allowMessage

/-- What the client may send: ten messages in any second. -/
def window : SlidingWindow Time where
  cutoff now := now + -1 * second
  limit := 10

theorem cutoff_le {t now : Time} (hle : t ≤ now) : window.cutoff t ≤ window.cutoff now :=
  Int.add_le_add_right hle _

/-- One call does to the slice what the window limiter does to the list in it. -/
theorem allowMessage_answer (c : RateLimit) (now : Time) :
    ((c.allowMessage now).1.msgTimestamps.toList, (c.allowMessage now).2) =
      window.answer c.msgTimestamps.toList now := by
  have hvalid : (c.msgTimestamps.filterInPlace fun t => now + -1 * second < t).toList =
      window.unexpired now c.msgTimestamps.toList := GoSlice.toList_filterInPlace ..
  have hlimit : window.limit = 10 := rfl
  simp only [allowMessage, SlidingWindow.answer, ← hvalid, GoSlice.length_toList, hlimit]
  split
  · rfl
  · rw [GoSlice.toList_append]

theorem toList_run (c : RateLimit) (ts : List Time) :
    (calls.run c ts).msgTimestamps.toList = window.limiter.run c.msgTimestamps.toList ts := by
  induction ts generalizing c with
  | nil => rfl
  | cons t ts ih =>
    rw [run_cons, run_cons, ih]
    exact congrArg (window.limiter.run · ts) (congrArg Prod.fst (c.allowMessage_answer t))

theorem out_calls (c : RateLimit) (now : Time) :
    calls.out c now = window.limiter.out c.msgTimestamps.toList now :=
  congrArg Prod.snd (c.allowMessage_answer now)

theorem accepted_calls (c : RateLimit) (ts : List Time) :
    calls.accepted c ts = window.limiter.accepted c.msgTimestamps.toList ts := by
  induction ts generalizing c with
  | nil => rfl
  | cons t ts ih =>
    have hnext : (calls.next c t).msgTimestamps.toList = window.limiter.next c.msgTimestamps.toList t :=
      toList_run c [t]
    simp only [accepted, out_calls, ih, hnext]

/-- A call comes after every call before it in a run. -/
theorem le_of_pairwise {pre post : List Time} {t : Time} (hts : (pre ++ t :: post).Pairwise (· ≤ ·)) :
    pre.Pairwise (· ≤ ·) ∧ ∀ t' ∈ pre, t' ≤ t := by
  obtain ⟨hpre, -, hle⟩ := List.pairwise_append.mp hts
  exact ⟨hpre, fun t' h => hle t' h t (by simp)⟩

/-- A refused call leaves no trace in any later answer. -/
theorem out_calls_refused {pre mid post : List Time} {t now : Time}
    (hts : (pre ++ t :: (mid ++ now :: post)).Pairwise (· ≤ ·))
    (hrefused : calls.out (calls.run new pre) t = false) :
    calls.out (calls.run new (pre ++ t :: mid)) now = calls.out (calls.run new (pre ++ mid)) now := by
  obtain ⟨-, hlater, -⟩ := List.pairwise_append.mp hts
  rw [← List.cons_append] at hlater
  obtain ⟨hmid, hle⟩ := le_of_pairwise hlater
  rw [out_calls] at hrefused
  rw [run_append, run_append, out_calls, out_calls, toList_run _ (t :: mid), toList_run _ mid, Bool.eq_iff_iff,
    SlidingWindow.out_limiter, SlidingWindow.out_limiter,
    SlidingWindow.unexpired_run_refused (fun _ _ => cutoff_le) _ hrefused hmid hle]

/-- `AllowMessage` is a sliding window: it answers from the accepted calls of
the last second, no second holds more than ten of them, and neither a refused
call nor an expired one is remembered. -/
theorem allowMessage_exact (ts : List Time) (hts : ts.Pairwise (· ≤ ·)) :
    (∀ pre t post, ts = pre ++ t :: post →
      (calls.out (calls.run new pre) t = true ↔
        (SlidingWindow.within (t - second) t (calls.accepted new pre)).length < 10)) ∧
    (∀ a, (SlidingWindow.within a (a + second) (calls.accepted new ts)).length ≤ 10) ∧
    (∀ pre t mid t' post, ts = pre ++ t :: (mid ++ t' :: post) →
      calls.out (calls.run new pre) t = false →
      calls.out (calls.run new (pre ++ t :: mid)) t' = calls.out (calls.run new (pre ++ mid)) t') ∧
    (calls.run new ts).msgTimestamps.len ≤ 10 := by
  refine ⟨?_, ?_, ?_, ?_⟩
  · rintro pre t post rfl
    obtain ⟨hpre, hle⟩ := le_of_pairwise hts
    rw [out_calls, toList_run, accepted_calls]
    exact SlidingWindow.out_run_iff (fun _ _ => cutoff_le) hpre hle
  · intro a
    rw [accepted_calls]
    exact SlidingWindow.length_within_le (fun _ _ => cutoff_le) hts (by simp [window])
  · rintro pre t mid t' post rfl hrefused
    exact out_calls_refused hts hrefused
  · rw [← GoSlice.length_toList, toList_run]
    exact SlidingWindow.length_run_le ts

theorem allowMessage_exact_burst :
    (List.replicate 11 (0 : Time)).Pairwise (· ≤ ·) ∧
      calls.out (calls.run new (List.replicate 10 0)) 0 = false ∧
      (calls.run new (List.replicate 11 0)).msgTimestamps.len ≤ 10 := by
  have hts : (List.replicate 11 (0 : Time)).Pairwise (· ≤ ·) := by decide
  obtain ⟨hexact, -, -, hlen⟩ := allowMessage_exact (List.replicate 11 0) hts
  refine ⟨hts, ?_, hlen⟩
  have hfull := hexact (List.replicate 10 0) 0 [] rfl
  rw [Bool.eq_false_iff, ne_eq, hfull]
  decide

end RateLimit

end low_latency_voice.control
