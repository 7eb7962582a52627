import Mathlib.Data.List.Basic

/-- A buffered Go channel. -/
structure GoChan (α : Type) where
  buffered : List α
  closed : Bool
  deriving DecidableEq, Repr

/-- What `select { case ch <- v: .. default: .. }` does. -/
inductive TrySend (α : Type) where
  | sent (ch : GoChan α)
  | full
  | panicked

namespace GoChan

variable {α : Type}

/-- `make(chan T, n)`. -/
def make : GoChan α := ⟨[], false⟩

/-- A send that does not wait, on a channel of capacity `size`. A closed
channel makes the send case ready, and taking it panics. -/
def trySend (ch : GoChan α) (size : Nat) (v : α) : TrySend α :=
  if ch.closed then .panicked
  else if ch.buffered.length < size then .sent { ch with buffered := ch.buffered ++ [v] }
  else .full

/-- The builtin `close(ch)` on an open channel. -/
def close (ch : GoChan α) : GoChan α := { ch with closed := true }

theorem trySend_sent_closed {ch ch' : GoChan α} {size : Nat} {v : α}
    (h : ch.trySend size v = .sent ch') : ch'.closed = ch.closed := by
  unfold trySend at h
  split at h
  · cases h
  · split at h
    · cases h
      rfl
    · cases h

theorem trySend_sent_buffered {ch ch' : GoChan α} {size : Nat} {v : α}
    (h : ch.trySend size v = .sent ch') : ch'.buffered = ch.buffered ++ [v] := by
  unfold trySend at h
  split at h
  · cases h
  · split at h
    · cases h
      rfl
    · cases h

theorem trySend_panicked_iff {ch : GoChan α} {size : Nat} {v : α} :
    ch.trySend size v = .panicked ↔ ch.closed = true := by
  unfold trySend
  constructor
  · intro h
    by_contra hopen
    rw [if_neg hopen] at h
    split at h <;> cases h
  · intro hclosed
    rw [if_pos hclosed]

end GoChan

/-- `sync.RWMutex`, with the goroutines that hold it. -/
structure RWMutex (γ : Type) where
  readers : List γ
  writer : Option γ
  exclusive : writer.isSome → readers = []

namespace RWMutex

variable {γ : Type}

/-- The zero value. -/
def unlocked : RWMutex γ := ⟨[], none, by simp⟩

/-- `RLock`, or `none` where the call waits. -/
def rlock (m : RWMutex γ) (g : γ) : Option (RWMutex γ) :=
  if h : m.writer = none then some ⟨g :: m.readers, m.writer, by simp [h]⟩ else none

/-- `Lock`, or `none` where the call waits. -/
def lock (m : RWMutex γ) (g : γ) : Option (RWMutex γ) :=
  if m.writer = none ∧ m.readers = [] then some ⟨[], some g, fun _ => rfl⟩ else none

/-- `RUnlock`. -/
def runlock [DecidableEq γ] (m : RWMutex γ) (g : γ) : RWMutex γ :=
  ⟨m.readers.erase g, m.writer, fun h => by simp [m.exclusive h]⟩

/-- `Unlock`. -/
def unlock (m : RWMutex γ) : RWMutex γ := ⟨m.readers, none, by simp⟩

theorem rlock_eq_some_iff {m m' : RWMutex γ} {g : γ} :
    m.rlock g = some m' ↔ m.writer = none ∧ m'.writer = none ∧ m'.readers = g :: m.readers := by
  unfold rlock
  constructor
  · intro h
    split at h
    · cases h
      exact ⟨‹_›, ‹_›, rfl⟩
    · cases h
  · intro h
    obtain ⟨hfree, hwriter, hreaders⟩ := h
    rw [dif_pos hfree]
    obtain ⟨readers, writer, hexcl⟩ := m'
    subst hwriter hreaders
    simp [hfree]

theorem lock_eq_some_iff {m m' : RWMutex γ} {g : γ} :
    m.lock g = some m' ↔
      m.writer = none ∧ m.readers = [] ∧ m'.writer = some g ∧ m'.readers = [] := by
  unfold lock
  constructor
  · intro h
    split at h
    · rename_i hfree
      cases h
      exact ⟨hfree.1, hfree.2, rfl, rfl⟩
    · cases h
  · intro h
    obtain ⟨hfree, hnone, hwriter, hreaders⟩ := h
    rw [if_pos ⟨hfree, hnone⟩]
    obtain ⟨readers, writer, hexcl⟩ := m'
    subst hwriter hreaders
    rfl

end RWMutex
