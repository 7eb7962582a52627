import LowLatencyVoice.Audio.Session

open low_latency_voice.model

namespace low_latency_voice.audio.SessionManager

variable {Addr : Type} [DecidableEq Addr]

@[simp] theorem get?_deleteAddr (m : GoMap Addr SessionRef) (addr : Option Addr) (a : Addr) :
    (deleteAddr m addr).get? a = if addr = some a then none else m.get? a := by
  cases addr with
  | none => simp [deleteAddr]
  | some b => simp [deleteAddr, eq_comm]

@[simp] theorem get?_assignAddr (m : GoMap Addr SessionRef) (ref : SessionRef) (addr : Option Addr)
    (a : Addr) :
    (assignAddr m ref addr).get? a = if addr = some a then some ref else m.get? a := by
  cases addr with
  | none => simp [assignAddr]
  | some b => simp [assignAddr, eq_comm]

/-- What every operation keeps, the unauthenticated handshake included: index
entries point at allocated sessions of the right user, and an address entry is
the current address of a registered session. -/
structure Owned (sm : SessionManager Addr) : Prop where
  user : ∀ {u ref}, sm.byUser.get? u = some ref → ref < sm.nextRef ∧ (sm.heap ref).userID = u
  channel : ∀ {c u ref}, sm.byChannel.get₂ c u = some ref →
    ref < sm.nextRef ∧ (sm.heap ref).userID = u
  addr : ∀ {a ref}, sm.byAddr.get? a = some ref →
    sm.byUser.get? (sm.heap ref).userID = some ref ∧ (sm.heap ref).addr = some a

/-- The routing table agrees with the sessions: a room lists exactly the
registered sessions whose `ChannelID` names it. -/
def InStep (sm : SessionManager Addr) : Prop :=
  ∀ c u ref, sm.byChannel.get₂ c u = some ref ↔
    sm.byUser.get? u = some ref ∧ (sm.heap ref).channelID = c

theorem owned_new : Owned (new : SessionManager Addr) where
  user h := by simp [new] at h
  channel h := by simp [new] at h
  addr h := by simp [new] at h

omit [DecidableEq Addr] in
theorem inStep_new : InStep (new : SessionManager Addr) := by
  intro c u ref
  simp [new]

/-- Two users never share a session object. -/
theorem Owned.user_unique {sm : SessionManager Addr} (h : sm.Owned) {u v : UInt32} {ref : SessionRef}
    (hu : sm.byUser.get? u = some ref) (hv : sm.byUser.get? v = some ref) : u = v :=
  (h.user hu).2.symm.trans (h.user hv).2

/-- Writes that leave identity, room and address alone disturb no index. -/
theorem Owned.modify {sm : SessionManager Addr} (h : sm.Owned) (ref : SessionRef)
    (f : Session Addr → Session Addr) (huser : (f (sm.heap ref)).userID = (sm.heap ref).userID)
    (haddr : (f (sm.heap ref)).addr = (sm.heap ref).addr) : (sm.modify ref f).Owned where
  user {u r} hr := by
    obtain ⟨hlt, hid⟩ := h.user hr
    refine ⟨hlt, ?_⟩
    by_cases heq : r = ref
    · subst r
      simpa [SessionManager.modify, huser] using hid
    · simpa [SessionManager.modify, heq] using hid
  channel {c u r} hr := by
    obtain ⟨hlt, hid⟩ := h.channel hr
    refine ⟨hlt, ?_⟩
    by_cases heq : r = ref
    · subst r
      simpa [SessionManager.modify, huser] using hid
    · simpa [SessionManager.modify, heq] using hid
  addr {a r} hr := by
    obtain ⟨hreg, hat⟩ := h.addr hr
    by_cases heq : r = ref
    · subst r
      simpa [SessionManager.modify, huser, haddr] using ⟨hreg, hat⟩
    · simpa [SessionManager.modify, heq] using ⟨hreg, hat⟩

omit [DecidableEq Addr] in
theorem InStep.modify {sm : SessionManager Addr} (h : sm.InStep) (ref : SessionRef)
    (f : Session Addr → Session Addr)
    (hchannel : (f (sm.heap ref)).channelID = (sm.heap ref).channelID) :
    (sm.modify ref f).InStep := by
  intro c u r
  have hold := h c u r
  by_cases heq : r = ref
  · subst r
    simpa [SessionManager.modify, hchannel] using hold
  · simpa [SessionManager.modify, heq] using hold

section install

variable (sm : SessionManager Addr) (s : Session Addr)

@[simp] theorem install_heap : (sm.install s).heap = Function.update sm.heap sm.nextRef s := by
  unfold install registerSession
  simp only [alloc]
  split <;> rfl

@[simp] theorem install_nextRef : (sm.install s).nextRef = sm.nextRef + 1 := by
  unfold install registerSession
  simp only [alloc]
  split <;> rfl

@[simp] theorem install_pendingTokens : (sm.install s).pendingTokens = sm.pendingTokens := by
  unfold install registerSession
  simp only [alloc]
  split <;> rfl

@[simp] theorem install_byUser (u : UInt32) :
    (sm.install s).byUser.get? u = if u = s.userID then some sm.nextRef else sm.byUser.get? u := by
  unfold install registerSession
  simp only [alloc, Function.update_self]
  split <;> simp

/-- The user's old object, if any, is dropped from the room it is in now. -/
theorem install_byChannel (hlt : ∀ {u ref}, sm.byUser.get? u = some ref → ref < sm.nextRef)
    (c u : UInt32) :
    (sm.install s).byChannel.get₂ c u =
      if c = s.channelID ∧ u = s.userID then some sm.nextRef
      else if u = s.userID ∧ (sm.session? u).map Session.channelID = some c then none
      else sm.byChannel.get₂ c u := by
  unfold install registerSession
  simp only [alloc, Function.update_self]
  cases hold : sm.byUser.get? s.userID with
  | none =>
    by_cases hu : u = s.userID <;> simp [session?, hu, hold]
  | some old =>
    have hne : old ≠ sm.nextRef := (hlt hold).ne
    by_cases hu : u = s.userID
    · simp [session?, hu, hold, Function.update_of_ne hne, eq_comm]
    · simp [hu]

theorem install_byAddr (hlt : ∀ {u ref}, sm.byUser.get? u = some ref → ref < sm.nextRef) (a : Addr) :
    (sm.install s).byAddr.get? a =
      if s.addr = some a then some sm.nextRef
      else if (sm.session? s.userID).bind Session.addr = some a then none
      else sm.byAddr.get? a := by
  unfold install registerSession
  simp only [alloc, Function.update_self]
  cases hold : sm.byUser.get? s.userID with
  | none => simp [session?, hold]
  | some old =>
    have hne : old ≠ sm.nextRef := (hlt hold).ne
    simp [session?, hold, Function.update_of_ne hne]

end install

theorem Owned.install {sm : SessionManager Addr} (h : sm.Owned) (s : Session Addr) :
    (sm.install s).Owned where
  user {u ref} hr := by
    rw [install_byUser] at hr
    split at hr
    · cases hr
      simp [*]
    · obtain ⟨hlt, hid⟩ := h.user hr
      rw [install_nextRef, install_heap, Function.update_of_ne hlt.ne]
      exact ⟨Nat.lt_succ_of_lt hlt, hid⟩
  channel {c u ref} hr := by
    rw [install_byChannel sm s fun hu => (h.user hu).1] at hr
    split at hr
    · cases hr
      simp [*]
    · split at hr
      · cases hr
      · obtain ⟨hlt, hid⟩ := h.channel hr
        rw [install_nextRef, install_heap, Function.update_of_ne hlt.ne]
        exact ⟨Nat.lt_succ_of_lt hlt, hid⟩
  addr {a ref} hr := by
    rw [install_byAddr sm s fun hu => (h.user hu).1] at hr
    split at hr
    · cases hr
      simp [*]
    · rename_i hnew
      split at hr
      · cases hr
      · rename_i hold
        obtain ⟨hreg, hat⟩ := h.addr hr
        have hlt := (h.user hreg).1
        -- an entry of the replaced session would sit at its old address
        have hother : (sm.heap ref).userID ≠ s.userID := by
          intro heq
          rw [heq] at hreg
          exact hold (by simp [session?, hreg, hat])
        simpa [Function.update_of_ne hlt.ne, hother] using ⟨hreg, hat⟩

theorem InStep.install {sm : SessionManager Addr} (h : sm.Owned) (hin : sm.InStep)
    (s : Session Addr) : (sm.install s).InStep := by
  intro c u ref
  rw [install_byChannel sm s fun hu => (h.user hu).1, install_byUser, install_heap]
  by_cases hu : u = s.userID
  · subst hu
    by_cases hc : c = s.channelID
    · simp only [hc, and_self, if_true]
      constructor
      · rintro ⟨⟩
        simp
      · rintro ⟨hr, -⟩
        exact hr
    · simp only [hc, false_and, if_false, true_and, if_true]
      constructor
      · intro hr
        split at hr
        · cases hr
        · rename_i hold
          obtain ⟨hreg, hch⟩ := (hin c s.userID ref).mp hr
          exact absurd (by simp [session?, hreg, hch]) hold
      · rintro ⟨hr, hch⟩
        cases hr
        exact absurd (by simpa using hch.symm) hc
  · simp only [hu, and_false, false_and, if_false]
    rw [hin c u ref]
    refine and_congr_right fun hreg => ?_
    rw [Function.update_of_ne (h.user hreg).1.ne]

theorem session?_install {sm : SessionManager Addr} (h : sm.Owned) (s : Session Addr) (u : UInt32) :
    (sm.install s).session? u = if u = s.userID then some s else sm.session? u := by
  unfold session?
  rw [install_byUser, install_heap]
  split
  · simp
  · cases hr : sm.byUser.get? u with
    | none => rfl
    | some ref => simp [Function.update_of_ne (h.user hr).1.ne]

/-- A write through the session pointer of `v` is seen by `v` alone. -/
theorem session?_modify {sm : SessionManager Addr} (h : sm.Owned) {v : UInt32} {ref : SessionRef}
    (hv : sm.byUser.get? v = some ref) (f : Session Addr → Session Addr) (u : UInt32) :
    (sm.modify ref f).session? u = if u = v then (sm.session? v).map f else sm.session? u := by
  unfold session? modify
  by_cases hu : u = v
  · subst u
    simp [hv]
  · rw [if_neg hu]
    cases hr : sm.byUser.get? u with
    | none => rfl
    | some r =>
      have hne : r ≠ ref := by
        rintro rfl
        exact hu (h.user_unique hr hv)
      simp [Function.update_of_ne hne]

omit [DecidableEq Addr] in
/-- A write through any pointer is seen by the user whose session it still is. -/
theorem session?_modify_ref (sm : SessionManager Addr) (ref : SessionRef)
    (f : Session Addr → Session Addr) (u : UInt32) :
    (sm.modify ref f).session? u =
      if sm.byUser.get? u = some ref then (sm.session? u).map f else sm.session? u := by
  unfold session? modify
  cases hr : sm.byUser.get? u with
  | none => simp
  | some r =>
    by_cases hne : r = ref
    · simp [hne]
    · simp [hne]

omit [DecidableEq Addr] in
theorem session?_eq_none_iff {sm : SessionManager Addr} {u : UInt32} :
    sm.session? u = none ↔ sm.byUser.get? u = none := by
  simp [session?]

theorem session?_updateAddr {sm : SessionManager Addr} (h : sm.Owned) (now : Time) (v : UInt32)
    (addr : Option Addr) (u : UInt32) :
    (sm.updateAddr now v addr).session? u =
      if u = v then (sm.session? v).map fun s => s.setAddr now addr else sm.session? u := by
  unfold updateAddr
  cases hv : sm.byUser.get? v with
  | none =>
    by_cases hu : u = v
    · simp [hu, session?_eq_none_iff.mpr hv]
    · simp [hu]
  | some ref => exact session?_modify h hv (fun s => s.setAddr now addr) u

@[simp] theorem updateAddr_pendingTokens (sm : SessionManager Addr) (now : Time) (v : UInt32)
    (addr : Option Addr) : (sm.updateAddr now v addr).pendingTokens = sm.pendingTokens := by
  unfold updateAddr
  split <;> rfl

theorem Owned.updateAddr {sm : SessionManager Addr} (h : sm.Owned) (now : Time) (v : UInt32)
    (addr : Option Addr) : (sm.updateAddr now v addr).Owned := by
  unfold SessionManager.updateAddr
  cases hv : sm.byUser.get? v with
  | none => exact h
  | some ref =>
    have hid := (h.user hv).2
    refine ⟨fun {u r} hr => ?_, fun {c u r} hr => ?_, fun {a r} hr => ?_⟩
    · obtain ⟨hlt, hu⟩ := h.user hr
      by_cases heq : r = ref
      · subst r
        simpa [SessionManager.modify, Session.setAddr] using ⟨hlt, hu⟩
      · simpa [SessionManager.modify, heq] using ⟨hlt, hu⟩
    · obtain ⟨hlt, hu⟩ := h.channel hr
      by_cases heq : r = ref
      · subst r
        simpa [SessionManager.modify, Session.setAddr] using ⟨hlt, hu⟩
      · simpa [SessionManager.modify, heq] using ⟨hlt, hu⟩
    · simp only [get?_assignAddr, get?_deleteAddr] at hr
      split at hr
      · cases hr
        simp [SessionManager.modify, Session.setAddr, *]
      · split at hr
        · cases hr
        · rename_i hold
          obtain ⟨hreg, hat⟩ := h.addr hr
          have hne : r ≠ ref := by
            rintro rfl
            exact hold hat
          simpa [SessionManager.modify, hne] using ⟨hreg, hat⟩

theorem InStep.updateAddr {sm : SessionManager Addr} (h : sm.InStep) (now : Time) (v : UInt32)
    (addr : Option Addr) : (sm.updateAddr now v addr).InStep := by
  unfold SessionManager.updateAddr
  cases hv : sm.byUser.get? v with
  | none => exact h
  | some ref => exact h.modify ref (fun s => s.setAddr now addr) rfl

theorem session?_moveMember {sm : SessionManager Addr} (h : sm.Owned) (v c u : UInt32) :
    (sm.moveMember v c).session? u =
      if u = v then (sm.session? v).map fun s => { s with channelID := c } else sm.session? u := by
  unfold moveMember
  cases hv : sm.byUser.get? v with
  | none =>
    by_cases hu : u = v
    · simp [hu, session?_eq_none_iff.mpr hv]
    · simp [hu]
  | some ref => exact session?_modify h hv (fun s => { s with channelID := c }) u

omit [DecidableEq Addr] in
@[simp] theorem moveMember_byUser (sm : SessionManager Addr) (v c : UInt32) :
    (sm.moveMember v c).byUser = sm.byUser := by
  unfold moveMember
  split <;> rfl

omit [DecidableEq Addr] in
@[simp] theorem moveMember_pendingTokens (sm : SessionManager Addr) (v c : UInt32) :
    (sm.moveMember v c).pendingTokens = sm.pendingTokens := by
  unfold moveMember
  split <;> rfl

theorem Owned.moveMember {sm : SessionManager Addr} (h : sm.Owned) (v c : UInt32) :
    (sm.moveMember v c).Owned := by
  unfold SessionManager.moveMember
  cases hv : sm.byUser.get? v with
  | none => exact h
  | some ref =>
    have hmod := h.modify ref (fun s => { s with channelID := c }) rfl rfl
    refine ⟨hmod.user, fun {c' u r} hr => ?_, hmod.addr⟩
    simp only [GoMap.get₂_put₂, GoMap.get₂_prune₂] at hr
    split at hr
    · cases hr
      rename_i hcu
      obtain ⟨hlt, hid⟩ := hmod.user hv
      exact ⟨hlt, hcu.2 ▸ hid⟩
    · split at hr
      · cases hr
      · exact hmod.channel hr

theorem InStep.moveMember {sm : SessionManager Addr} (h : sm.Owned) (hin : sm.InStep) (v c : UInt32) :
    (sm.moveMember v c).InStep := by
  unfold SessionManager.moveMember
  cases hv : sm.byUser.get? v with
  | none => exact hin
  | some ref =>
    intro c' u r
    simp only [GoMap.get₂_put₂, GoMap.get₂_prune₂, SessionManager.modify]
    by_cases hu : u = v
    · subst u
      by_cases hc : c' = c
      · subst c'
        simp only [and_self, if_true]
        constructor
        · rintro ⟨⟩
          exact ⟨hv, by simp⟩
        · exact fun hr => hr.1.symm ▸ hv.symm
      · simp only [hc, and_true, if_false]
        constructor
        · intro hr
          split at hr
          · cases hr
          · rename_i hother
            obtain ⟨hreg, hch⟩ := (hin c' v r).mp hr
            cases hv.symm.trans hreg
            exact absurd hch.symm hother
        · rintro ⟨hreg, hch⟩
          cases hv.symm.trans hreg
          exact absurd (by simpa using hch.symm) hc
    · simp only [hu, and_false, if_false]
      rw [hin c' u r]
      refine and_congr_right fun hreg => ?_
      have hne : r ≠ ref := by
        rintro rfl
        exact hu (h.user_unique hreg hv)
      rw [Function.update_of_ne hne]

section withSession

theorem Owned.withSession {sm : SessionManager Addr} (h : sm.Owned) (v : UInt32)
    (f : Session Addr → Session Addr) (huser : ∀ s, (f s).userID = s.userID)
    (haddr : ∀ s, (f s).addr = s.addr) : (sm.withSession v f).Owned := by
  unfold SessionManager.withSession
  split
  · exact h
  · exact h.modify _ f (huser _) (haddr _)

omit [DecidableEq Addr] in
theorem InStep.withSession {sm : SessionManager Addr} (h : sm.InStep) (v : UInt32)
    (f : Session Addr → Session Addr) (hchannel : ∀ s, (f s).channelID = s.channelID) :
    (sm.withSession v f).InStep := by
  unfold SessionManager.withSession
  split
  · exact h
  · exact h.modify _ f (hchannel _)

theorem session?_withSession {sm : SessionManager Addr} (h : sm.Owned) (v : UInt32)
    (f : Session Addr → Session Addr) (u : UInt32) :
    (sm.withSession v f).session? u = if u = v then (sm.session? v).map f else sm.session? u := by
  unfold withSession
  cases hv : sm.byUser.get? v with
  | none =>
    by_cases hu : u = v
    · simp [hu, session?_eq_none_iff.mpr hv]
    · simp [hu]
  | some ref => exact session?_modify h hv f u

omit [DecidableEq Addr] in
@[simp] theorem withSession_pendingTokens (sm : SessionManager Addr) (v : UInt32)
    (f : Session Addr → Session Addr) : (sm.withSession v f).pendingTokens = sm.pendingTokens := by
  unfold withSession
  split <;> rfl

end withSession

theorem session?_unlink (sm : SessionManager Addr) (v : UInt32) (ref : SessionRef) (u : UInt32) :
    (sm.unlink v ref).session? u = if u = v then none else sm.session? u := by
  by_cases hu : u = v <;> simp [session?, unlink, hu]

theorem Owned.unlink {sm : SessionManager Addr} (h : sm.Owned) {v : UInt32} {ref : SessionRef}
    (hv : sm.byUser.get? v = some ref) : (sm.unlink v ref).Owned where
  user {u r} hr := by
    simp only [SessionManager.unlink, GoMap.get?_delete] at hr
    split at hr
    · cases hr
    · exact h.user hr
  channel {c u r} hr := by
    simp only [SessionManager.unlink, GoMap.get₂_prune₂] at hr
    split at hr
    · cases hr
    · exact h.channel hr
  addr {a r} hr := by
    simp only [SessionManager.unlink, get?_deleteAddr] at hr
    split at hr
    · cases hr
    · rename_i hold
      obtain ⟨hreg, hat⟩ := h.addr hr
      have hother : (sm.heap r).userID ≠ v := by
        intro heq
        rw [heq, hv] at hreg
        cases hreg
        exact hold hat
      simpa [SessionManager.unlink, hother] using ⟨hreg, hat⟩

theorem InStep.unlink {sm : SessionManager Addr} (hin : sm.InStep) {v : UInt32} {ref : SessionRef}
    (hv : sm.byUser.get? v = some ref) : (sm.unlink v ref).InStep := by
  intro c u r
  simp only [SessionManager.unlink, GoMap.get₂_prune₂, GoMap.get?_delete]
  by_cases hu : u = v
  · subst u
    simp only [and_true, if_true]
    constructor
    · intro hr
      split at hr
      · cases hr
      · rename_i hother
        obtain ⟨hreg, hch⟩ := (hin c v r).mp hr
        cases hv.symm.trans hreg
        exact absurd hch.symm hother
    · rintro ⟨⟨⟩, -⟩
  · simp only [hu, and_false, if_false]
    exact hin c u r

theorem removeSession_eq (sm : SessionManager Addr) (v : UInt32) :
    sm.removeSession v = match sm.byUser.get? v with
      | none => sm.revokePending v
      | some ref => (sm.revokePending v).unlink v ref := rfl

theorem session?_removeSession (sm : SessionManager Addr) (v u : UInt32) :
    (sm.removeSession v).session? u = if u = v then none else sm.session? u := by
  rw [removeSession_eq]
  cases hv : sm.byUser.get? v with
  | none =>
    by_cases hu : u = v
    · simpa [hu, session?, revokePending] using hv
    · simp only [hu, if_false]
      rfl
  | some ref => exact session?_unlink (sm.revokePending v) v ref u

@[simp] theorem removeSession_byUser (sm : SessionManager Addr) (v u : UInt32) :
    (sm.removeSession v).byUser.get? u = if u = v then none else sm.byUser.get? u := by
  rw [removeSession_eq]
  cases hv : sm.byUser.get? v with
  | none =>
    by_cases hu : u = v
    · simpa [hu, revokePending] using hv
    · simp [hu, revokePending]
  | some ref => simp [unlink, revokePending]

/-- The invariants do not read the pending tokens. -/
theorem Owned.of_pendingTokens {sm : SessionManager Addr} (h : sm.Owned)
    (pending : GoMap Token PendingToken) : Owned { sm with pendingTokens := pending } :=
  ⟨h.user, h.channel, h.addr⟩

theorem Owned.removeSession {sm : SessionManager Addr} (h : sm.Owned) (v : UInt32) :
    (sm.removeSession v).Owned := by
  rw [removeSession_eq]
  have hpending : (sm.revokePending v).Owned := h.of_pendingTokens _
  cases hv : sm.byUser.get? v with
  | none => exact hpending
  | some ref => exact hpending.unlink hv

theorem InStep.removeSession {sm : SessionManager Addr} (hin : sm.InStep) (v : UInt32) :
    (sm.removeSession v).InStep := by
  rw [removeSession_eq]
  have hpending : (sm.revokePending v).InStep := hin
  cases hv : sm.byUser.get? v with
  | none => exact hpending
  | some ref => exact hpending.unlink hv

@[simp] theorem removeSession_pendingTokens (sm : SessionManager Addr) (v : UInt32) :
    (sm.removeSession v).pendingTokens = sm.pendingTokens.deleteWhere fun _ pt => pt.userID == v := by
  rw [removeSession_eq]
  split <;> rfl

/-- Rule for the eviction loop: what survives unlinking a stale session
survives `CleanStaleSessions` up to its token sweep. -/
theorem foldl_evictIfStale {now maxIdle : Time} {heap : SessionRef → Session Addr}
    (P : SessionManager Addr → Prop)
    (hstep : ∀ sm u ref, P sm → sm.heap = heap → sm.byUser.get? u = some ref →
      maxIdle < now - (heap ref).lastSeen → P (sm.unlink u ref))
    (entries : List (UInt32 × SessionRef)) (hnodup : (entries.map Prod.fst).Nodup)
    (sm : SessionManager Addr) (removed : List UInt32) (hheap : sm.heap = heap)
    (hbound : ∀ u ref, (u, ref) ∈ entries → sm.byUser.get? u = some ref) (hsm : P sm) :
    P (entries.foldl (evictIfStale now maxIdle) (sm, removed)).1 := by
  induction entries generalizing sm removed with
  | nil => exact hsm
  | cons e rest ih =>
    obtain ⟨v, ref⟩ := e
    simp only [List.map_cons, List.nodup_cons] at hnodup
    have hv := hbound v ref (by simp)
    simp only [List.foldl_cons, evictIfStale]
    split
    · rename_i hstale
      refine ih hnodup.2 _ _ hheap ?_ (hstep sm v ref hsm hheap hv (hheap ▸ hstale))
      intro u r hr
      have hne : u ≠ v := by
        rintro rfl
        exact hnodup.1 (List.mem_map_of_mem hr)
      simpa [unlink, hne] using hbound u r (by simp [hr])
    · exact ih hnodup.2 _ _ hheap (fun u r hr => hbound u r (by simp [hr])) hsm

theorem cleanStaleSessions_rule (sm : SessionManager Addr) (now maxIdle : Time)
    (P : SessionManager Addr → Prop)
    (hstep : ∀ sm' u ref, P sm' → sm'.heap = sm.heap → sm'.byUser.get? u = some ref →
      maxIdle < now - (sm.heap ref).lastSeen → P (sm'.unlink u ref))
    (hpending : ∀ sm' pending, P sm' → P { sm' with pendingTokens := pending }) (hsm : P sm) :
    P (sm.cleanStaleSessions now maxIdle).1 :=
  hpending _ _ (foldl_evictIfStale P hstep sm.byUser.pairs (GoMap.nodup_pairs_keys _) sm [] rfl
    (fun u ref hr => (GoMap.mem_pairs_iff _ u ref).mp hr) hsm)

theorem Owned.cleanStaleSessions {sm : SessionManager Addr} (h : sm.Owned) (now maxIdle : Time) :
    (sm.cleanStaleSessions now maxIdle).1.Owned :=
  cleanStaleSessions_rule sm now maxIdle Owned (fun _ _ _ hsm _ hu _ => hsm.unlink hu)
    (fun _ _ hsm => hsm.of_pendingTokens _) h

theorem InStep.cleanStaleSessions {sm : SessionManager Addr} (h : sm.InStep) (now maxIdle : Time) :
    (sm.cleanStaleSessions now maxIdle).1.InStep :=
  cleanStaleSessions_rule sm now maxIdle InStep (fun _ _ _ hsm _ hu _ => hsm.unlink hu) (fun _ _ hsm => hsm) h

theorem byUser_of_cleanStaleSessions {sm : SessionManager Addr} {now maxIdle : Time} {u : UInt32}
    {ref : SessionRef} (h : (sm.cleanStaleSessions now maxIdle).1.byUser.get? u = some ref) :
    sm.byUser.get? u = some ref := by
  refine cleanStaleSessions_rule sm now maxIdle
    (fun sm' => sm'.byUser.get? u = some ref → sm.byUser.get? u = some ref) ?_ (fun _ _ hsm => hsm) id h
  intro sm' v r hsm _ _ _ hr
  simp only [unlink, GoMap.get?_delete] at hr
  split at hr
  · cases hr
  · exact hsm hr

/-- Eviction only takes sessions away. -/
theorem session?_of_cleanStaleSessions {sm : SessionManager Addr} {now maxIdle : Time} {u : UInt32}
    {s : Session Addr} (h : (sm.cleanStaleSessions now maxIdle).1.session? u = some s) :
    sm.session? u = some s := by
  refine cleanStaleSessions_rule sm now maxIdle
    (fun sm' => sm'.session? u = some s → sm.session? u = some s) ?_ (fun _ _ hsm => hsm) id h
  intro sm' v ref hsm _ _ _ hs
  rw [session?_unlink] at hs
  split at hs
  · cases hs
  · exact hsm hs

/-- A session seen recently enough survives the scavenger. -/
theorem session?_cleanStaleSessions_of_fresh {sm : SessionManager Addr} {now maxIdle : Time}
    {u : UInt32} {s : Session Addr} (hs : sm.session? u = some s) (hfresh : now - s.lastSeen ≤ maxIdle) :
    (sm.cleanStaleSessions now maxIdle).1.session? u = some s := by
  refine cleanStaleSessions_rule sm now maxIdle (fun sm' => sm'.session? u = some s) ?_
    (fun _ _ hsm => hsm) hs
  intro sm' v ref hsm hheap hv hstale
  rw [session?_unlink]
  split
  · subst u
    have heq : sm.heap ref = s := by simpa [session?, hv, hheap] using hsm
    rw [heq] at hstale
    exact absurd hfresh (Int.not_le.mpr hstale)
  · exact hsm

@[simp] theorem cleanStaleSessions_pendingTokens (sm : SessionManager Addr) (now maxIdle : Time) :
    (sm.cleanStaleSessions now maxIdle).1.pendingTokens =
      sm.pendingTokens.deleteWhere fun _ pt => decide (pt.expiresAt < now) := by
  have hkept : (sm.byUser.pairs.foldl (evictIfStale now maxIdle) (sm, [])).1.pendingTokens =
      sm.pendingTokens :=
    foldl_evictIfStale (fun sm' => sm'.pendingTokens = sm.pendingTokens) (fun _ _ _ hsm _ _ _ => hsm)
      sm.byUser.pairs (GoMap.nodup_pairs_keys _) sm [] rfl
      (fun u ref hr => (GoMap.mem_pairs_iff _ u ref).mp hr) rfl
  simp only [cleanStaleSessions, hkept]

/-- Pending entries a handshake of `userID` for `channelID` can use at `now`. -/
def LivePending (sm : SessionManager Addr) (now : Time) (token : Token) (userID channelID : UInt32)
    (pt : PendingToken) : Prop :=
  sm.pendingTokens.get? token = some pt ∧ now ≤ pt.expiresAt ∧ pt.userID = userID ∧
    pt.channelID = channelID

/-- `ActivatePending` accepts exactly the live entries; it consumes the entry
and installs a fresh session for the entry's user and channel. -/
theorem activatePending_eq_ok_iff {sm sm' : SessionManager Addr} {now : Time} {token : Token}
    {userID channelID : UInt32} {addr : Option Addr} {s : Session Addr} :
    sm.activatePending now token userID channelID addr = (sm', .ok s) ↔
      ∃ pt, sm.LivePending now token userID channelID pt ∧
        s = newSession now userID channelID pt.ssrc addr ∧
        sm' = install { sm with pendingTokens := sm.pendingTokens.delete token } s := by
  unfold activatePending LivePending
  cases hget : sm.pendingTokens.get? token with
  | none => simp
  | some pt =>
    by_cases hexpired : pt.expiresAt < now
    · simp only [hexpired, if_true]
      constructor
      · intro h
        cases h
      · rintro ⟨_, ⟨⟨⟩, hlive, -⟩, -⟩
        exact absurd hlive (Int.not_le.mpr hexpired)
    · by_cases hmismatch : pt.userID ≠ userID ∨ pt.channelID ≠ channelID
      · simp only [hexpired, hmismatch, if_true, if_false]
        constructor
        · intro h
          cases h
        · rintro ⟨_, ⟨⟨⟩, -, huser, hchannel⟩, -⟩
          exact absurd hmismatch (by simp [huser, hchannel])
      · simp only [hexpired, hmismatch, if_false]
        rw [not_or, not_not, not_not] at hmismatch
        constructor
        · intro h
          cases h
          exact ⟨pt, ⟨rfl, Int.not_lt.mp hexpired, hmismatch⟩, rfl, rfl⟩
        · rintro ⟨_, ⟨⟨⟩, -⟩, rfl, rfl⟩
          rfl

/-- A refused activation touches no session; at most the expired entry goes. -/
theorem activatePending_error {sm sm' : SessionManager Addr} {now : Time} {token : Token}
    {userID channelID : UInt32} {addr : Option Addr} {e : AudioError}
    (h : sm.activatePending now token userID channelID addr = (sm', .error e)) :
    sm' = sm ∨ (∃ pt, sm.pendingTokens.get? token = some pt ∧ pt.expiresAt < now) ∧
      sm' = { sm with pendingTokens := sm.pendingTokens.delete token } := by
  unfold activatePending at h
  cases hget : sm.pendingTokens.get? token with
  | none =>
    rw [hget] at h
    cases h
    exact .inl rfl
  | some pt =>
    rw [hget] at h
    by_cases hexpired : pt.expiresAt < now
    · simp only [hexpired, if_true] at h
      cases h
      exact .inr ⟨⟨pt, rfl, hexpired⟩, rfl⟩
    · by_cases hmismatch : pt.userID ≠ userID ∨ pt.channelID ≠ channelID
      · simp only [hexpired, hmismatch, if_true, if_false] at h
        cases h
        exact .inl rfl
      · simp [hexpired, hmismatch] at h

end low_latency_voice.audio.SessionManager
