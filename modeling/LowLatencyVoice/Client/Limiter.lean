import Mathlib.Algebra.Order.Floor.Ring
import Mathlib.Analysis.Normed.Field.Lemmas
import Mathlib.Data.Rat.Floor
import Mathlib.Tactic.Linarith
import Mathlib.Tactic.NormNum
import Mathlib.Topology.Instances.Rat
import Mathlib.Topology.Order.OrderClosed
import LowLatencyVoice.Client.Mixer

namespace low_latency_voice.client

namespace Mixer

section

variable {F : Type} [MixerOps F]

/-- The gains and samples the mixer adds up for the `k`-th sample from now: those of the
streams it mixes that have one. -/
def heads (micTestLoopback : Bool) (k i : Nat) (peers : List (MixerPeer F)) : List (F × Int16) :=
  (peers.zipIdx i).filterMap fun (p, i) =>
    if p.isActive = false ∨ (i = 0 ∧ micTestLoopback = false) then none
    else p.ring.queued[k]?.map fun pcm => (p.userVolume, pcm)

/-- A cell of the accumulator after all streams. -/
def accumulate (x : F) (streams : List (F × Int16)) : F :=
  streams.foldl (fun x (gain, pcm) => x + MixerOps.ofInt16 pcm * gain) x

theorem mixPeer_snd (gain : F) (acc : List F) (r : RingBuffer Int16 ringBufferSize) :
    (mixPeer gain acc r).2 = (r.drain acc.length).2 := by
  induction acc generalizing r with
  | nil => rfl
  | cons x acc ih =>
    simp only [mixPeer, List.length_cons, RingBuffer.drain]
    split <;> exact ih _

/-- A stream's next sample goes into a single cell. -/
theorem mixPeer_singleton (gain x : F) (r : RingBuffer Int16 ringBufferSize) :
    (mixPeer gain [x] r).1 =
      [(r.queued[0]?.map fun pcm => (gain, pcm)).elim x fun s => x + MixerOps.ofInt16 s.2 * s.1] := by
  by_cases hempty : r.readIdx = r.writeIdx
  · have hqueued : r.queued = [] := by
      rw [← List.length_eq_zero_iff, RingBuffer.length_queued]
      have := not_congr r.available_pos_iff
      omega
    simp [mixPeer, hempty, hqueued]
  · simp [mixPeer, hempty, RingBuffer.queued_pop (RingBuffer.available_pos_iff.mpr hempty)]

theorem heads_mixPeers (micTestLoopback : Bool) (k i : Nat) (peers : List (MixerPeer F)) (acc : List F) :
    heads micTestLoopback k i (mixPeers micTestLoopback i peers acc).1 =
      heads micTestLoopback (acc.length + k) i peers := by
  induction peers generalizing i acc with
  | nil => rfl
  | cons p peers ih =>
    by_cases hskip : p.isActive = false ∨ (i = 0 ∧ micTestLoopback = false)
    · have hrest := ih (i + 1) acc
      simp only [heads] at hrest
      simp only [heads, mixPeers, if_pos hskip, List.zipIdx_cons, List.filterMap_cons, hrest]
    · have hrest := ih (i + 1) (mixPeer p.userVolume acc p.ring).1
      rw [length_mixPeer] at hrest
      simp only [heads] at hrest
      simp only [heads, mixPeers, if_neg hskip, List.zipIdx_cons, List.filterMap_cons, hrest, mixPeer_snd,
        (RingBuffer.drain_spec acc.length p.ring).2, List.getElem?_drop]

theorem mixPeers_singleton (micTestLoopback : Bool) (i : Nat) (peers : List (MixerPeer F)) (x : F) :
    (mixPeers micTestLoopback i peers [x]).2 = [accumulate x (heads micTestLoopback 0 i peers)] := by
  induction peers generalizing i x with
  | nil => rfl
  | cons p peers ih =>
    by_cases hskip : p.isActive = false ∨ (i = 0 ∧ micTestLoopback = false)
    · simp only [mixPeers, if_pos hskip, ih, heads, List.zipIdx_cons, List.filterMap_cons]
    · simp only [mixPeers, if_neg hskip, mixPeer_singleton, ih, heads, List.zipIdx_cons, List.filterMap_cons]
      cases p.ring.queued[0]? with
      | none => rfl
      | some pcm => rfl

/-- Every output sample is the limited sum of the samples the streams have for it. -/
theorem getElem?_mixAudioStreams (m : Mixer F) (hdeaf : m.localDeafened = false) {k n : Nat} (hk : k < n) :
    (m.mixAudioStreams n).2[k]? = some (softLimit (accumulate 0.0 (heads m.micTestLoopback k 0 m.peers))) := by
  obtain ⟨rest, rfl⟩ : ∃ rest, n = k + (1 + rest) := ⟨n - (k + 1), by omega⟩
  have hsize : (m.mixChunk k).2.length = k := by
    rw [mixChunk, List.length_map, length_mixPeers, List.length_replicate]
  have hone : ((m.mixChunk k).1.mixChunk 1).2 =
      [softLimit (accumulate 0.0 (heads m.micTestLoopback k 0 m.peers))] := by
    simp only [mixChunk, List.replicate_one, mixPeers_singleton, List.map_singleton, heads_mixPeers,
      List.length_replicate, Nat.add_zero]
  rw [mixAudioStreams_eq, if_neg (by simp [hdeaf]), mixChunk_add, mixChunk_add, hone,
    List.getElem?_append_right (by rw [hsize]), hsize, Nat.sub_self]
  rfl

end

end Mixer

/-- A rational without its fraction. -/
def truncate (q : ℚ) : ℤ := if 0 ≤ q then ⌊q⌋ else ⌈q⌉

/-- The operations on `float` read as exact, and the cast as truncation. -/
instance : MixerOps ℚ where
  ofInt16 pcm := pcm.toInt
  toInt16 q := Int16.ofInt (truncate q)
  decLe := inferInstance

/-- The middle part of the limiter's curve. -/
def cubic (x : ℚ) : ℚ := x - 4 / 27 * (x * x * x)

/-- The limiter's curve. -/
def curve (x : ℚ) : ℚ := if 3 / 2 ≤ x then 1 else if x ≤ -(3 / 2) then -1 else cubic x

theorem cubic_neg (x : ℚ) : cubic (-x) = -cubic x := by
  unfold cubic
  ring

theorem cubic_threshold : cubic (3 / 2) = 1 := by
  norm_num [cubic]

theorem cubic_neg_threshold : cubic (-(3 / 2)) = -1 := by
  rw [cubic_neg, cubic_threshold]

/-- Between the thresholds the cubic rises. -/
theorem cubic_le_cubic {x y : ℚ} (hx : -(3 / 2) ≤ x) (hy : y ≤ 3 / 2) (hxy : x ≤ y) : cubic x ≤ cubic y := by
  have hfactor : cubic y - cubic x = (y - x) * (1 - 4 / 27 * (x * x + x * y + y * y)) := by
    unfold cubic
    ring
  have hsquares : x * x + x * y + y * y ≤ 27 / 4 := by nlinarith
  have hrise : 0 ≤ (y - x) * (1 - 4 / 27 * (x * x + x * y + y * y)) :=
    mul_nonneg (by linarith) (by linarith)
  linarith

theorem curve_neg (x : ℚ) : curve (-x) = -curve x := by
  unfold curve
  rw [cubic_neg]
  split_ifs <;> linarith

theorem monotone_curve : Monotone curve := by
  intro x y hxy
  have hlow : ∀ z : ℚ, -(3 / 2) ≤ z → z ≤ 3 / 2 → -1 ≤ cubic z := fun z hz hz' => by
    have := cubic_le_cubic (le_refl _) hz' hz
    rwa [cubic_neg_threshold] at this
  have hhigh : ∀ z : ℚ, -(3 / 2) ≤ z → z ≤ 3 / 2 → cubic z ≤ 1 := fun z hz hz' => by
    have := cubic_le_cubic hz (le_refl _) hz'
    rwa [cubic_threshold] at this
  unfold curve
  split_ifs with h₁ h₂ h₃ h₄ h₅ h₆
  · exact le_refl _
  · linarith
  · linarith
  · linarith
  · exact le_refl _
  · exact hlow y (by linarith) (by linarith)
  · exact hhigh x (by linarith) (by linarith)
  · linarith
  · exact cubic_le_cubic (by linarith) (by linarith) hxy

theorem curve_le (x : ℚ) : curve x ≤ 1 := by
  have hle := monotone_curve (le_max_left x (3 / 2))
  have htop : curve (max x (3 / 2)) = 1 := if_pos (le_max_right _ _)
  rwa [htop] at hle

theorem le_curve (x : ℚ) : -1 ≤ curve x := by
  have hle := curve_le (-x)
  rw [curve_neg] at hle
  linarith

theorem continuous_curve : Continuous curve := by
  have hcubic : Continuous cubic := by
    unfold cubic
    fun_prop
  refine Continuous.if_le continuous_const ?_ continuous_const continuous_id ?_
  · refine Continuous.if_le continuous_const hcubic continuous_id continuous_const ?_
    intro x hx
    rw [show x = -(3 / 2) from hx, cubic_neg_threshold]
  · intro x hx
    have hthreshold : x = 3 / 2 := hx.symm
    rw [hthreshold, if_neg (by norm_num), cubic_threshold]

theorem truncate_neg (q : ℚ) : truncate (-q) = -truncate q := by
  unfold truncate
  split_ifs with hneg hpos hpos
  · have hzero : q = 0 := by linarith
    simp [hzero]
  · exact Int.floor_neg
  · exact Int.ceil_neg
  · exact absurd (show 0 ≤ -q by linarith) hneg

theorem monotone_truncate : Monotone truncate := by
  intro p q hle
  unfold truncate
  split_ifs with hp hq hq
  · exact Int.floor_mono hle
  · exact absurd (hp.trans hle) hq
  · exact (Int.ceil_nonpos.mpr (by linarith)).trans (Int.floor_nonneg.mpr hq)
  · exact Int.ceil_mono hle

theorem truncate_intCast (n : ℤ) : truncate n = n := by
  unfold truncate
  split_ifs
  · exact Int.floor_intCast n
  · exact Int.ceil_intCast n

/-- The limiter on exact arithmetic, before the cast. -/
def limited (mixed : ℚ) : ℚ := curve (mixed / 32768) * 32767

theorem softLimit_exact (mixed : ℚ) : Mixer.softLimit mixed = Int16.ofInt (truncate (limited mixed)) := by
  have hcurve : (if (1.5 : ℚ) ≤ mixed / 32768.0 then (1.0 : ℚ) else if mixed / 32768.0 ≤ -1.5 then -1.0
      else mixed / 32768.0 - (4.0 / 27.0) * (mixed / 32768.0 * (mixed / 32768.0) * (mixed / 32768.0))) =
        curve (mixed / 32768) := by
    norm_num [curve, cubic]
  have hscale : (32767.0 : ℚ) = 32767 := by norm_num
  rw [limited, ← hcurve, ← hscale]
  rfl

/-- The cast is always of a number it can hold. -/
theorem truncate_limited (mixed : ℚ) :
    -32767 ≤ truncate (limited mixed) ∧ truncate (limited mixed) ≤ 32767 := by
  have hlow : ((-32767 : ℤ) : ℚ) ≤ limited mixed := by
    have := le_curve (mixed / 32768)
    push_cast
    unfold limited
    linarith
  have hhigh : limited mixed ≤ ((32767 : ℤ) : ℚ) := by
    have := curve_le (mixed / 32768)
    push_cast
    unfold limited
    linarith
  have htrunc := And.intro (monotone_truncate hlow) (monotone_truncate hhigh)
  rwa [truncate_intCast, truncate_intCast] at htrunc

theorem toInt_softLimit (mixed : ℚ) : (Mixer.softLimit mixed).toInt = truncate (limited mixed) := by
  obtain ⟨hlow, hhigh⟩ := truncate_limited mixed
  rw [softLimit_exact, Int16.toInt_ofInt_of_le (by omega) (by omega)]

theorem monotone_limited : Monotone limited := by
  intro x y hxy
  have hrise : curve (x / 32768) ≤ curve (y / 32768) := monotone_curve (by linarith)
  unfold limited
  linarith

theorem limited_neg (mixed : ℚ) : limited (-mixed) = -limited mixed := by
  unfold limited
  rw [neg_div, curve_neg, neg_mul]

/-- With gains that are not negative, a louder sample raises the sum. -/
theorem accumulate_le {streams streams' : List (ℚ × Int16)} (hgain : ∀ s ∈ streams, 0 ≤ s.1)
    (hle : List.Forall₂ (fun s s' => s.1 = s'.1 ∧ s.2 ≤ s'.2) streams streams') {x x' : ℚ} (hx : x ≤ x') :
    Mixer.accumulate x streams ≤ Mixer.accumulate x' streams' := by
  induction hle generalizing x x' with
  | nil => exact hx
  | @cons s s' streams streams' hs hrest ih =>
    refine ih (fun t ht => hgain t (List.mem_cons_of_mem _ ht)) ?_
    have hsample : (s.2.toInt : ℚ) ≤ s'.2.toInt := Int.cast_le.mpr (Int16.le_iff_toInt_le.mp hs.2)
    have hmul := mul_le_mul_of_nonneg_right hsample (hgain s List.mem_cons_self)
    have hcell : x + s.2.toInt * s.1 ≤ x' + s'.2.toInt * s'.1 := by
      rw [← hs.1]
      exact add_le_add hx hmul
    exact hcell

theorem toInt_neg_of_ne {pcm : Int16} (h : pcm ≠ -32768) : (-pcm).toInt = -pcm.toInt := by
  have hlow := pcm.le_toInt
  have hhigh := pcm.toInt_lt
  have hne : pcm.toInt ≠ -32768 := fun heq => h (Int16.toInt_inj.mp heq)
  rw [Int16.toInt_neg, Int.bmod_def]
  split <;> omega

theorem accumulate_neg {streams : List (ℚ × Int16)} (hmin : ∀ s ∈ streams, s.2 ≠ -32768) (x : ℚ) :
    Mixer.accumulate (-x) (streams.map fun s => (s.1, -s.2)) = -Mixer.accumulate x streams := by
  induction streams generalizing x with
  | nil => rfl
  | cons s streams ih =>
    have hcell : -x + ((-s.2).toInt : ℚ) * s.1 = -(x + (s.2.toInt : ℚ) * s.1) := by
      rw [toInt_neg_of_ne (hmin s List.mem_cons_self)]
      push_cast
      ring
    have hrest := ih (fun t ht => hmin t (List.mem_cons_of_mem _ ht)) (x + (s.2.toInt : ℚ) * s.1)
    rw [← hcell] at hrest
    exact hrest

/-- The mixer in exact arithmetic: each output sample is the limited sum of the streams'
samples, within the range of the cast, no lower where a sample is raised, negated where
all samples are, and the limiter's curve has no jump. -/
theorem limiter_correct :
    (∀ m : Mixer ℚ, m.localDeafened = false → ∀ k n, k < n →
      (m.mixAudioStreams n).2[k]? =
        some (Mixer.softLimit (Mixer.accumulate 0.0 (Mixer.heads m.micTestLoopback k 0 m.peers)))) ∧
    (∀ streams : List (ℚ × Int16), (∀ s ∈ streams, 0 ≤ s.1) →
      ((Mixer.softLimit (Mixer.accumulate 0.0 streams)).toInt =
          truncate (limited (Mixer.accumulate 0.0 streams)) ∧
        -32767 ≤ truncate (limited (Mixer.accumulate 0.0 streams)) ∧
        truncate (limited (Mixer.accumulate 0.0 streams)) ≤ 32767) ∧
      (∀ streams' : List (ℚ × Int16),
        List.Forall₂ (fun s s' => s.1 = s'.1 ∧ s.2 ≤ s'.2) streams streams' →
        Mixer.softLimit (Mixer.accumulate 0.0 streams) ≤ Mixer.softLimit (Mixer.accumulate 0.0 streams')) ∧
      ((∀ s ∈ streams, s.2 ≠ -32768) →
        (Mixer.softLimit (Mixer.accumulate 0.0 (streams.map fun s => (s.1, -s.2)))).toInt =
          -(Mixer.softLimit (Mixer.accumulate 0.0 streams)).toInt)) ∧
    cubic (3 / 2) = 1 ∧ cubic (-(3 / 2)) = -1 ∧ Continuous curve := by
  refine ⟨fun m hdeaf k n hk => m.getElem?_mixAudioStreams hdeaf hk, fun streams hgain => ⟨?_, ?_, ?_⟩,
    cubic_threshold, cubic_neg_threshold, continuous_curve⟩
  · exact ⟨toInt_softLimit _, truncate_limited _⟩
  · intro streams' hle
    rw [Int16.le_iff_toInt_le, toInt_softLimit, toInt_softLimit]
    exact monotone_truncate (monotone_limited (accumulate_le hgain hle (le_refl _)))
  · intro hmin
    have hzero : -(0.0 : ℚ) = 0.0 := by norm_num
    have hneg := accumulate_neg hmin 0.0
    rw [hzero] at hneg
    rw [toInt_softLimit, toInt_softLimit, ← truncate_neg, ← limited_neg]
    exact congrArg (fun x => truncate (limited x)) hneg

end low_latency_voice.client
