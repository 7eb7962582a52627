import LowLatencyVoice.Lib.RingBuffer

namespace RingBuffer

variable {α β : Type} {size : Nat}

/-- The ring with `f` of each cell in its place. -/
def map (f : α → β) (r : RingBuffer α size) : RingBuffer β size :=
  ⟨fun i => f (r.cells i), r.readIdx, r.writeIdx⟩

@[simp] theorem available_map (f : α → β) (r : RingBuffer α size) : (r.map f).available = r.available := rfl

theorem push_map (f : α → β) (r : RingBuffer α size) (x : α) : (r.map f).push (f x) = (r.push x).map f := by
  have hcells : Function.update (fun i => f (r.cells i)) r.writeIdx (f x) =
      fun i => f (Function.update r.cells r.writeIdx x i) := by
    funext i
    by_cases hi : i = r.writeIdx
    · subst hi
      simp
    · simp [Function.update_of_ne hi]
  simp only [map, push, hcells]

theorem pushAll_map (f : α → β) (r : RingBuffer α size) (xs : List α) :
    (r.map f).pushAll (xs.map f) = (r.pushAll xs).map f := by
  induction xs generalizing r with
  | nil => rfl
  | cons x xs ih =>
    calc (r.map f).pushAll ((x :: xs).map f) = ((r.map f).push (f x)).pushAll (xs.map f) := rfl
      _ = ((r.push x).map f).pushAll (xs.map f) := by rw [push_map]
      _ = (r.pushAll (x :: xs)).map f := ih (r.push x)

theorem popMany_map (f : α → β) (n : Nat) (r : RingBuffer α size) :
    popMany n (r.map f) = ((popMany n r).1.map f, (popMany n r).2.map f) := by
  induction n generalizing r with
  | zero => rfl
  | succ n ih =>
    have hrest : popMany n (r.map f).pop.2 = _ := ih r.pop.2
    simp only [popMany, hrest]
    rfl

/-- The fill level is known up to whole laps only. -/
theorem available_pushAll (r : RingBuffer α size) (xs : List α) :
    (r.pushAll xs).available = (r.available + xs.length) % size := by
  induction xs generalizing r with
  | nil => exact (Nat.mod_eq_of_lt r.available_lt).symm
  | cons x xs ih =>
    have hlt := r.available_lt
    have hpush : ((r.push x).available + xs.length) % size = (r.available + 1 + xs.length) % size := by
      rw [available_push]
      split
      · next hfull => rw [hfull, Nat.zero_add, Nat.add_mod_left]
      · rfl
    calc ((r.pushAll (x :: xs)).available) = ((r.push x).pushAll xs).available := rfl
      _ = (r.available + (x :: xs).length) % size := by
        rw [ih, hpush, List.length_cons]
        congr 1
        omega

/-- Draining reads what there is, up to what is asked. -/
theorem drain_eq_popMany (n : Nat) (r : RingBuffer α size) : drain n r = popMany (min n r.available) r := by
  induction n generalizing r with
  | zero => simp [drain, popMany]
  | succ n ih =>
    by_cases hempty : r.readIdx = r.writeIdx
    · have hzero : r.available = 0 := by
        have := not_congr (r.available_pos_iff)
        omega
      rw [drain_of_empty hempty, hzero, Nat.min_zero, popMany]
    · have hpos := available_pos_iff.mpr hempty
      have hmin : min (n + 1) r.available = min n r.pop.2.available + 1 := by
        rw [available_pop hpos]
        omega
      rw [drain_succ hempty, ih, hmin, popMany]

end RingBuffer

/-- A ring whose samples carry the number under which they were accepted. It counts the
accepted samples and remembers the number after that of the last sample read. -/
structure NumberedRing (α : Type) (size : Nat) where
  ring : RingBuffer (α × Nat) size
  accepted : Nat
  reached : Nat

namespace NumberedRing

variable {α : Type} {size : Nat} (s : NumberedRing α size)

def reset : NumberedRing α size := ⟨s.ring.reset, 0, 0⟩

def accept (xs : List α) : NumberedRing α size :=
  { s with ring := s.ring.pushAll (xs.zipIdx s.accepted), accepted := s.accepted + xs.length }

/-- The numbers of the next `n` samples read. -/
def numbers (n : Nat) : List Nat := (s.ring.popMany n).1.map Prod.snd

def read (n : Nat) : NumberedRing α size :=
  { s with ring := (s.ring.popMany n).2, reached := (s.numbers n).getLast?.elim s.reached (· + 1) }

/-- How many samples were accepted after the last one read. -/
def backlog : Nat := s.accepted - s.reached

/-- A reader who takes `quantum` samples at a time and asks for `asked` of them gets this
many. -/
def served (quantum asked available : Nat) : Nat := quantum * min (asked / quantum) (available / quantum)

/-- The next `n` samples read are the ones a reader who asks for `asked` should get. One
that is passed over had a whole ring, less one, of newer ones behind it, and the reader is
left without only when it has caught up. -/
def KeepsNewest (quantum asked n : Nat) : Prop :=
  (∀ k, s.reached ≤ k → k < (s.read n).reached → k ∉ s.numbers n → size - 1 ≤ s.accepted - (k + 1)) ∧
    (n < asked → (s.read n).backlog < quantum)

/-- What the indexes of the ring have to do with the counts: the numbers in the ring are
the newest ones, and there are as many as the backlog has over whole laps. -/
structure Ok : Prop where
  reached_le : s.reached ≤ s.accepted
  available_eq : s.ring.available = s.backlog % size
  queued : s.ring.queued.map Prod.snd = List.range' (s.accepted - s.ring.available) s.ring.available

variable {s}

theorem ok_reset : s.reset.Ok where
  reached_le := Nat.le_refl _
  available_eq := by simp [reset, backlog, RingBuffer.available, RingBuffer.reset]
  queued := by
    rw [show s.reset.ring.queued = [] from s.ring.queued_reset]
    simp [reset, RingBuffer.available, RingBuffer.reset]

theorem Ok.available_le (h : s.Ok) : s.ring.available ≤ s.backlog := by
  rw [h.available_eq]
  exact Nat.mod_le _ _

theorem Ok.accept_cons (h : s.Ok) (x : α) : (s.accept [x]).Ok := by
  have hring : (s.accept [x]).ring = s.ring.push (x, s.accepted) := rfl
  have hlt := s.ring.available_lt
  have hle := h.available_le
  have hreached := h.reached_le
  refine ⟨Nat.le_succ_of_le hreached, ?_, ?_⟩
  · have hbacklog : (s.accept [x]).backlog = s.backlog + 1 := by
      simp only [backlog, accept, List.length_singleton]
      omega
    have hpush := s.ring.available_pushAll [(x, s.accepted)]
    rw [List.length_singleton, h.available_eq, Nat.mod_add_mod] at hpush
    rw [hbacklog, ← hpush]
    rfl
  · rw [hring, RingBuffer.queued_push, RingBuffer.available_push]
    split
    · rfl
    · have hstart : (s.accept [x]).accepted - (s.ring.available + 1) = s.accepted - s.ring.available := by
        simp only [accept, List.length_singleton]
        omega
      have hlast : s.accepted - s.ring.available + s.ring.available = s.accepted := by
        simp only [backlog] at hle
        omega
      rw [List.map_append, h.queued, hstart, List.range'_concat]
      simp [hlast]

theorem accept_cons (x : α) (xs : List α) : s.accept (x :: xs) = (s.accept [x]).accept xs := by
  simp only [accept, List.length_cons, List.length_nil, List.zipIdx_cons, RingBuffer.pushAll,
    List.foldl_cons, List.zipIdx_nil, List.foldl_nil]
  congr 1
  omega

theorem Ok.accept (h : s.Ok) (xs : List α) : (s.accept xs).Ok := by
  induction xs generalizing s with
  | nil => exact h
  | cons x xs ih =>
    rw [NumberedRing.accept_cons]
    exact ih (h.accept_cons x)

/-- The reader gets the samples at the front of the queue, by number. -/
theorem Ok.numbers_eq (h : s.Ok) {n : Nat} (hn : n ≤ s.ring.available) :
    s.numbers n = List.range' (s.accepted - s.ring.available) n := by
  rw [numbers, (RingBuffer.popMany_spec hn).1, List.map_take, h.queued, List.take_range'_of_length_ge hn]

theorem Ok.reached_read (h : s.Ok) {n : Nat} (hn : n ≤ s.ring.available) :
    (s.read n).reached = if n = 0 then s.reached else s.accepted - s.ring.available + n := by
  simp only [read, h.numbers_eq hn, List.getLast?_range']
  split
  · rfl
  · simp only [Option.elim_some]
    omega

theorem Ok.read (h : s.Ok) {n : Nat} (hn : n ≤ s.ring.available) : (s.read n).Ok := by
  have hlt := s.ring.available_lt
  have hle := h.available_le
  have hreached := h.reached_le
  have hafter := h.reached_read hn
  have havailable : (s.read n).ring.available = s.ring.available - n := RingBuffer.available_popMany hn
  have haccepted : (s.read n).accepted = s.accepted := rfl
  simp only [backlog] at hle
  refine ⟨?_, ?_, ?_⟩
  · rw [hafter, haccepted]
    split <;> omega
  · rw [havailable, backlog, hafter, haccepted]
    split
    · next hzero => rw [hzero, Nat.sub_zero, h.available_eq, backlog]
    · have hrest : s.accepted - (s.accepted - s.ring.available + n) = s.ring.available - n := by omega
      rw [hrest, Nat.mod_eq_of_lt (by omega)]
  · have hqueued : (s.read n).ring.queued = s.ring.queued.drop n := (RingBuffer.popMany_spec hn).2
    have hstart : s.accepted - (s.ring.available - n) = s.accepted - s.ring.available + n := by omega
    rw [havailable, haccepted, hqueued, List.map_drop, h.queued, List.drop_range', hstart, Nat.mul_one]

theorem served_le (quantum asked available : Nat) : served quantum asked available ≤ available :=
  Nat.le_trans (Nat.mul_le_mul_left _ (Nat.min_le_right _ _)) (Nat.mul_div_le _ _)

theorem served_zero (quantum available : Nat) : served quantum 0 available = 0 := by
  rw [served, Nat.zero_div, Nat.zero_min, Nat.mul_zero]

theorem served_self {quantum available : Nat} (hquantum : 0 < quantum) (h : quantum ≤ available) :
    served quantum quantum available = quantum := by
  have hone : 1 ≤ available / quantum := (Nat.one_le_div_iff hquantum).mpr h
  rw [served, Nat.div_self hquantum, Nat.min_eq_left hone, Nat.mul_one]

theorem served_eq_zero_iff {quantum asked available : Nat} (hquantum : 0 < quantum) (hdvd : quantum ∣ asked) :
    served quantum asked available = 0 ↔ asked = 0 ∨ available < quantum := by
  obtain ⟨times, rfl⟩ := hdvd
  simp only [served, Nat.mul_div_cancel_left _ hquantum, Nat.mul_eq_zero, Nat.min_eq_zero_iff,
    Nat.div_eq_zero_iff]
  omega

/-- A reader left without has fewer than `quantum` samples in front of it. -/
theorem rest_lt_of_served_lt {quantum asked available : Nat} (hquantum : 0 < quantum) (hdvd : quantum ∣ asked)
    (hless : served quantum asked available < asked) :
    available - served quantum asked available < quantum := by
  obtain ⟨times, rfl⟩ := hdvd
  have hmod := Nat.mod_lt available hquantum
  have hdiv := Nat.div_add_mod available quantum
  simp only [served, Nat.mul_div_cancel_left _ hquantum] at hless ⊢
  have hmin : min times (available / quantum) = available / quantum := by
    by_contra hne
    have htimes : min times (available / quantum) = times := by omega
    rw [htimes] at hless
    omega
  rw [hmin]
  omega

/-- The reader gets what it should from every backlog within the ring, and of the longer
ones from those that are one short of whole laps. -/
theorem Ok.keepsNewest_iff (h : s.Ok) {quantum asked : Nat} (hquantum : 0 < quantum) (hsize : quantum < size)
    (hdvd : quantum ∣ asked) :
    s.KeepsNewest quantum asked (served quantum asked s.ring.available) ↔
      asked = 0 ∨ s.backlog < size ∨ s.backlog % size = size - 1 := by
  have hlt := s.ring.available_lt
  have hle := h.available_le
  have hreached := h.reached_le
  have havailable : s.backlog < size → s.ring.available = s.backlog := fun hfew => by
    rw [h.available_eq, Nat.mod_eq_of_lt hfew]
  rw [← h.available_eq]
  have hn := served_le quantum asked s.ring.available
  have hzero : served quantum asked s.ring.available = 0 ↔ asked = 0 ∨ s.ring.available < quantum :=
    served_eq_zero_iff hquantum hdvd
  have hrest : served quantum asked s.ring.available < asked →
      s.ring.available - served quantum asked s.ring.available < quantum := rest_lt_of_served_lt hquantum hdvd
  have hafter := h.reached_read hn
  have hnumbers : ∀ k, k ∈ s.numbers (served quantum asked s.ring.available) ↔
      s.accepted - s.ring.available ≤ k ∧
        k < s.accepted - s.ring.available + served quantum asked s.ring.available := by
    intro k
    rw [h.numbers_eq hn, List.mem_range'_1]
  have hbacklog : s.backlog = s.accepted - s.reached := rfl
  have hleft : (s.read (served quantum asked s.ring.available)).backlog =
      s.accepted - (s.read (served quantum asked s.ring.available)).reached := rfl
  unfold KeepsNewest
  rw [hleft, hafter]
  simp only [hnumbers]
  generalize served quantum asked s.ring.available = n at hn hzero hrest ⊢
  constructor
  · rintro ⟨hskip, hshort⟩
    by_cases hnone : n = 0
    · rw [if_pos hnone] at hshort
      omega
    · rw [if_neg hnone] at hskip
      by_contra hnot
      have hlast := hskip (s.accepted - s.ring.available - 1) (by omega) (by omega) (by omega)
      omega
  · intro hok
    by_cases hnone : n = 0
    · rw [if_pos hnone]
      refine ⟨fun k hk hlt' => absurd hlt' (Nat.not_lt.mpr hk), fun hless => ?_⟩
      have := hrest hless
      omega
    · rw [if_neg hnone]
      refine ⟨fun k hk hlt' hnot => ?_, fun hless => ?_⟩
      · omega
      · have := hrest hless
        omega

end NumberedRing
