import LowLatencyVoice.Audio.SessionIndex

open low_latency_voice.model

namespace low_latency_voice.audio

variable {Addr : Type}

/-- The session has been silent for longer than `maxIdle`. -/
def Session.Stale (s : Session Addr) (now maxIdle : Time) : Prop := maxIdle < now - s.lastSeen

instance (s : Session Addr) (now maxIdle : Time) : Decidable (s.Stale now maxIdle) :=
  inferInstanceAs (Decidable (_ < _))

variable [DecidableEq Addr]

namespace SessionManager

/-- `sm'` is `sm` without the sessions of `gone`: each of them took its user,
its place in the routing table and its address entry with it. -/
structure Evicted (sm sm' : SessionManager Addr) (gone : List (UInt32 × SessionRef)) : Prop where
  heap : sm'.heap = sm.heap
  pendingTokens : sm'.pendingTokens = sm.pendingTokens
  user : ∀ u, (u ∈ gone.map Prod.fst ∧ sm'.byUser.get? u = none) ∨
    u ∉ gone.map Prod.fst ∧ sm'.byUser.get? u = sm.byUser.get? u
  channel : ∀ c u, u ∉ gone.map Prod.fst → sm'.byChannel.get₂ c u = sm.byChannel.get₂ c u
  addr : ∀ a, ((∃ e ∈ gone, (sm.heap e.2).addr = some a) ∧ sm'.byAddr.get? a = none) ∨
    (∀ e ∈ gone, (sm.heap e.2).addr ≠ some a) ∧ sm'.byAddr.get? a = sm.byAddr.get? a

theorem Evicted.nil (sm : SessionManager Addr) : Evicted sm sm [] :=
  ⟨rfl, rfl, fun u => .inr ⟨by simp, rfl⟩, fun _ _ _ => rfl, fun a => .inr ⟨by simp, rfl⟩⟩

/-- Unlinking one session before the others. -/
theorem Evicted.cons {sm sm' : SessionManager Addr} {gone : List (UInt32 × SessionRef)} (v : UInt32)
    (ref : SessionRef) (h : Evicted (sm.unlink v ref) sm' gone) : Evicted sm sm' ((v, ref) :: gone) where
  heap := h.heap
  pendingTokens := h.pendingTokens
  user u := by
    simp only [List.map_cons, List.mem_cons, not_or]
    obtain ⟨hmem, hnone⟩ | ⟨hnot, hsame⟩ := h.user u
    · exact .inl ⟨.inr hmem, hnone⟩
    · simp only [SessionManager.unlink, GoMap.get?_delete] at hsame
      by_cases hu : u = v
      · exact .inl ⟨.inl hu, by simpa [hu] using hsame⟩
      · exact .inr ⟨⟨hu, hnot⟩, by simpa [hu] using hsame⟩
  channel c u hnot := by
    simp only [List.map_cons, List.mem_cons, not_or] at hnot
    rw [h.channel c u hnot.2]
    simp [SessionManager.unlink, hnot.1]
  addr a := by
    simp only [List.mem_cons, exists_eq_or_imp, forall_eq_or_imp]
    obtain ⟨hmem, hnone⟩ | ⟨hnot, hsame⟩ := h.addr a
    · exact .inl ⟨.inr hmem, hnone⟩
    · simp only [SessionManager.unlink, get?_deleteAddr] at hsame
      by_cases ha : (sm.heap ref).addr = some a
      · exact .inl ⟨.inl ha, by simpa [ha] using hsame⟩
      · exact .inr ⟨⟨ha, hnot⟩, by simpa [ha] using hsame⟩

/-- The eviction loop takes the stale entries, in the order it meets them. -/
theorem foldl_evictIfStale_spec (now maxIdle : Time) (entries : List (UInt32 × SessionRef)) :
    ∀ (sm : SessionManager Addr) (removed : List UInt32),
      Evicted sm (entries.foldl (evictIfStale now maxIdle) (sm, removed)).1
        (entries.filter fun e => (sm.heap e.2).Stale now maxIdle) ∧
      (entries.foldl (evictIfStale now maxIdle) (sm, removed)).2 =
        removed ++ (entries.filter fun e => (sm.heap e.2).Stale now maxIdle).map Prod.fst := by
  induction entries with
  | nil => exact fun sm removed => ⟨.nil sm, by simp⟩
  | cons e entries ih =>
    intro sm removed
    obtain ⟨v, ref⟩ := e
    simp only [List.foldl_cons]
    by_cases hstale : (sm.heap ref).Stale now maxIdle
    · have hone : evictIfStale now maxIdle (sm, removed) (v, ref) = (sm.unlink v ref, removed ++ [v]) :=
        if_pos hstale
      obtain ⟨hevicted, hremoved⟩ := ih (sm.unlink v ref) (removed ++ [v])
      rw [hone, List.filter_cons_of_pos (by simpa using hstale)]
      refine ⟨hevicted.cons v ref, hremoved.trans ?_⟩
      rw [List.append_assoc]
      rfl
    · have hone : evictIfStale now maxIdle (sm, removed) (v, ref) = (sm, removed) := if_neg hstale
      rw [hone, List.filter_cons_of_neg (by simpa using hstale)]
      exact ih sm removed

/-- The entries `CleanStaleSessions` evicts. -/
def staleEntries (sm : SessionManager Addr) (now maxIdle : Time) : List (UInt32 × SessionRef) :=
  sm.byUser.pairs.filter fun e => (sm.heap e.2).Stale now maxIdle

omit [DecidableEq Addr] in
theorem mem_staleEntries {sm : SessionManager Addr} {now maxIdle : Time} {u : UInt32} {ref : SessionRef} :
    (u, ref) ∈ sm.staleEntries now maxIdle ↔
      sm.byUser.get? u = some ref ∧ (sm.heap ref).Stale now maxIdle := by
  rw [staleEntries, List.mem_filter, GoMap.mem_pairs_iff, decide_eq_true_iff]

omit [DecidableEq Addr] in
theorem mem_map_staleEntries {sm : SessionManager Addr} {now maxIdle : Time} {u : UInt32} :
    u ∈ (sm.staleEntries now maxIdle).map Prod.fst ↔
      ∃ s, sm.session? u = some s ∧ s.Stale now maxIdle := by
  simp only [List.mem_map, Prod.exists, mem_staleEntries]
  constructor
  · intro hmem
    obtain ⟨v, ref, ⟨hv, hstale⟩, rfl⟩ := hmem
    exact ⟨sm.heap ref, by simp [session?, hv], hstale⟩
  · intro hmem
    obtain ⟨s, hs, hstale⟩ := hmem
    obtain ⟨ref, hv, rfl⟩ := Option.map_eq_some_iff.mp hs
    exact ⟨u, ref, ⟨hv, hstale⟩, rfl⟩

theorem evicted_cleanStaleSessions (sm : SessionManager Addr) (now maxIdle : Time) :
    ∃ swept, Evicted sm swept (sm.staleEntries now maxIdle) ∧ sm.cleanStaleSessions now maxIdle =
      ({ swept with pendingTokens :=
          swept.pendingTokens.deleteWhere fun _ pt => decide (pt.expiresAt < now) },
        (sm.staleEntries now maxIdle).map Prod.fst) := by
  obtain ⟨hevicted, hremoved⟩ := foldl_evictIfStale_spec now maxIdle sm.byUser.pairs sm []
  refine ⟨_, hevicted, ?_⟩
  rw [List.nil_append] at hremoved
  simp only [cleanStaleSessions, hremoved]
  rfl

/-- The call removes exactly the stale users, returns each of them once, and
leaves the other sessions, their index entries and the live tokens alone. -/
structure SweepsExactly (sm : SessionManager Addr) (now maxIdle : Time) (sm' : SessionManager Addr)
    (removed : List UInt32) : Prop where
  nodup : removed.Nodup
  stale : ∀ u, u ∈ removed ↔ ∃ s, sm.session? u = some s ∧ s.Stale now maxIdle
  gone : ∀ u ∈ removed, sm'.byUser.get? u = none
  user : ∀ u, u ∉ removed → sm'.byUser.get? u = sm.byUser.get? u
  fields : ∀ u ref, u ∉ removed → sm.byUser.get? u = some ref → sm'.heap ref = sm.heap ref
  channel : ∀ c u, u ∉ removed → sm'.byChannel.get₂ c u = sm.byChannel.get₂ c u
  addr : ∀ a ref, sm.byAddr.get? a = some ref → (sm.heap ref).userID ∉ removed →
    sm'.byAddr.get? a = some ref
  pending : ∀ token pt, sm.pendingTokens.get? token = some pt → now ≤ pt.expiresAt →
    sm'.pendingTokens.get? token = some pt

/-- No stale session has the address under which a session that stays is found. -/
def SweepsApart (sm : SessionManager Addr) (now maxIdle : Time) : Prop :=
  ∀ a ref u s, sm.byAddr.get? a = some ref → sm.session? u = some s → s.Stale now maxIdle →
    s.addr = some a → (sm.heap ref).Stale now maxIdle

/-- The call does what it should exactly when no stale session shares the
address of a session that stays. -/
theorem sweepsExactly_iff {sm : SessionManager Addr} (h : sm.Owned) (now maxIdle : Time) :
    SweepsExactly sm now maxIdle (sm.cleanStaleSessions now maxIdle).1
        (sm.cleanStaleSessions now maxIdle).2 ↔ SweepsApart sm now maxIdle := by
  obtain ⟨swept, hevicted, heq⟩ := evicted_cleanStaleSessions sm now maxIdle
  rw [heq]
  have hlisted : ∀ {a ref}, sm.byAddr.get? a = some ref →
      ((sm.heap ref).userID ∈ (sm.staleEntries now maxIdle).map Prod.fst ↔
        (sm.heap ref).Stale now maxIdle) := by
    intro a ref hr
    rw [mem_map_staleEntries]
    have hs : sm.session? (sm.heap ref).userID = some (sm.heap ref) := by
      simp [session?, (h.addr hr).1]
    rw [hs]
    simp
  constructor
  · intro hexact a ref u s hr hs hstale haddr
    by_contra hstays
    have hkept := hexact.addr a ref hr (fun hmem => hstays ((hlisted hr).mp hmem))
    obtain ⟨ref', hu, rfl⟩ := Option.map_eq_some_iff.mp hs
    obtain ⟨-, hnone⟩ | ⟨hnot, -⟩ := hevicted.addr a
    · rw [hnone] at hkept
      cases hkept
    · exact hnot (u, ref') (mem_staleEntries.mpr ⟨hu, hstale⟩) haddr
  · intro hapart
    refine ⟨?_, fun u => mem_map_staleEntries, ?_, ?_, fun _ _ _ _ => by rw [hevicted.heap],
      hevicted.channel, ?_, ?_⟩
    · exact List.Nodup.sublist (List.filter_sublist.map Prod.fst) sm.byUser.nodup_pairs_keys
    · intro u hmem
      obtain ⟨-, hnone⟩ | ⟨hnot, -⟩ := hevicted.user u
      · exact hnone
      · exact absurd hmem hnot
    · intro u hnot
      obtain ⟨hmem, -⟩ | ⟨-, hsame⟩ := hevicted.user u
      · exact absurd hmem hnot
      · exact hsame
    · intro a ref hr hnot
      obtain ⟨⟨e, he, haddr⟩, -⟩ | ⟨-, hsame⟩ := hevicted.addr a
      · obtain ⟨v, ref'⟩ := e
        obtain ⟨hv, hstale⟩ := mem_staleEntries.mp he
        have hs : sm.session? v = some (sm.heap ref') := by simp [session?, hv]
        exact absurd ((hlisted hr).mpr (hapart a ref v _ hr hs hstale haddr)) hnot
      · exact hsame.trans hr
    · intro token pt hget hlive
      simp only [GoMap.get?_deleteWhere, hevicted.pendingTokens, hget, Option.filter_eq_some_iff]
      exact ⟨trivial, by simpa using hlive⟩

end SessionManager

end low_latency_voice.audio
