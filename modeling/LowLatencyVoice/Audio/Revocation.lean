import LowLatencyVoice.Audio.SessionIndex

open low_latency_voice.model

namespace low_latency_voice.audio.SessionManager

variable {Addr : Type} [DecidableEq Addr]

/-- Neither the user index nor the routing table mentions the user. -/
structure Unindexed (sm : SessionManager Addr) (u : UInt32) : Prop where
  user : sm.byUser.get? u = none
  channel : ∀ c, sm.byChannel.get₂ c u = none

/-- No token is pending for the user. -/
def NoPending (sm : SessionManager Addr) (u : UInt32) : Prop :=
  ∀ token pt, sm.pendingTokens.get? token = some pt → pt.userID ≠ u

/-- Nothing of the user is left on the media plane. -/
def Forgets (sm : SessionManager Addr) (u : UInt32) : Prop := sm.Unindexed u ∧ sm.NoPending u

variable {sm : SessionManager Addr} {u : UInt32}

/-- No address leads to a session of the user either. -/
theorem Unindexed.addr (h : sm.Unindexed u) (howned : sm.Owned) {a : Addr} {ref : SessionRef}
    (hr : sm.byAddr.get? a = some ref) : (sm.heap ref).userID ≠ u := by
  intro heq
  have huser := (howned.addr hr).1
  rw [heq, h.user] at huser
  cases huser

theorem Unindexed.unlink (h : sm.Unindexed u) (v : UInt32) (ref : SessionRef) :
    (sm.unlink v ref).Unindexed u where
  user := by
    simp only [SessionManager.unlink, GoMap.get?_delete, h.user]
    split <;> rfl
  channel c := by
    simp only [SessionManager.unlink, GoMap.get₂_prune₂, h.channel c]
    split <;> rfl

theorem Unindexed.removeSession (h : sm.Unindexed u) (v : UInt32) : (sm.removeSession v).Unindexed u := by
  have hrevoked : (sm.revokePending v).Unindexed u := ⟨h.user, h.channel⟩
  rw [removeSession_eq]
  cases sm.byUser.get? v with
  | none => exact hrevoked
  | some ref => exact hrevoked.unlink v ref

/-- The session of another user takes no place of this one. -/
theorem Unindexed.install (h : sm.Unindexed u) (howned : sm.Owned) {s : Session Addr} (hs : s.userID ≠ u) :
    (sm.install s).Unindexed u where
  user := by rw [install_byUser, if_neg (Ne.symm hs), h.user]
  channel c := by
    have hu : ¬ (c = s.channelID ∧ u = s.userID) := fun hcase => hs hcase.2.symm
    have hv : ¬ (u = s.userID ∧ (sm.session? u).map Session.channelID = some c) :=
      fun hcase => hs hcase.1.symm
    rw [install_byChannel sm s (fun hr => (howned.user hr).1), if_neg hu, if_neg hv, h.channel c]

omit [DecidableEq Addr] in
theorem Unindexed.moveMember (h : sm.Unindexed u) (v c : UInt32) : (sm.moveMember v c).Unindexed u where
  user := by rw [moveMember_byUser, h.user]
  channel c' := by
    unfold SessionManager.moveMember
    cases hv : sm.byUser.get? v with
    | none => exact h.channel c'
    | some ref =>
      have hne : u ≠ v := by
        intro heq
        rw [← heq, h.user] at hv
        cases hv
      simp only [GoMap.get₂_put₂, GoMap.get₂_prune₂, hne, and_false, if_false]
      exact h.channel c'

theorem Unindexed.updateAddr (h : sm.Unindexed u) (now : Time) (v : UInt32) (addr : Option Addr) :
    (sm.updateAddr now v addr).Unindexed u := by
  unfold SessionManager.updateAddr
  cases sm.byUser.get? v with
  | none => exact h
  | some ref => exact ⟨h.user, h.channel⟩

theorem Unindexed.cleanStaleSessions (h : sm.Unindexed u) (now maxIdle : Time) :
    (sm.cleanStaleSessions now maxIdle).1.Unindexed u :=
  cleanStaleSessions_rule sm now maxIdle (fun sm' => sm'.Unindexed u)
    (fun _ v ref hsm _ _ _ => hsm.unlink v ref) (fun _ _ hsm => ⟨hsm.user, hsm.channel⟩) h

omit [DecidableEq Addr] in
theorem NoPending.deleteWhere (h : sm.NoPending u) (p : Token → PendingToken → Bool) :
    NoPending { sm with pendingTokens := sm.pendingTokens.deleteWhere p } u := by
  intro token pt hget
  rw [GoMap.get?_deleteWhere, Option.filter_eq_some_iff] at hget
  exact h token pt hget.1

omit [DecidableEq Addr] in
theorem NoPending.delete (h : sm.NoPending u) (token : Token) :
    NoPending { sm with pendingTokens := sm.pendingTokens.delete token } u := by
  intro token' pt hget
  rw [GoMap.get?_delete] at hget
  split at hget
  · cases hget
  · exact h token' pt hget

/-- Without a pending token the user is not let in. -/
theorem Forgets.activatePending (h : sm.Forgets u) (howned : sm.Owned) {now : Time} {token : Token}
    {userID channelID : UInt32} {addr : Option Addr} :
    (sm.activatePending now token userID channelID addr).1.Forgets u := by
  cases hactivate : sm.activatePending now token userID channelID addr with
  | mk sm' result =>
    cases result with
    | ok s =>
      obtain ⟨pt, ⟨hget, -, huser, -⟩, rfl, rfl⟩ := activatePending_eq_ok_iff.mp hactivate
      have hother : userID ≠ u := huser ▸ h.2 token pt hget
      have hspent : Unindexed { sm with pendingTokens := sm.pendingTokens.delete token } u :=
        ⟨h.1.user, h.1.channel⟩
      have hsession : (newSession now userID channelID pt.ssrc addr).userID ≠ u := hother
      refine ⟨hspent.install (howned.of_pendingTokens _) hsession, ?_⟩
      intro token' pt' hget'
      rw [install_pendingTokens] at hget'
      exact h.2.delete token token' pt' hget'
    | error e =>
      obtain rfl | ⟨-, rfl⟩ := activatePending_error hactivate
      · exact h
      · exact ⟨⟨h.1.user, h.1.channel⟩, h.2.delete token⟩

/-- `RemoveSession` leaves nothing of a user who is routed, if at all, where the
session is. -/
theorem forgets_removeSession
    (hrouted : ∀ c, sm.byChannel.get₂ c u ≠ none → (sm.session? u).map Session.channelID = some c) :
    (sm.removeSession u).Forgets u := by
  refine ⟨⟨by simp, ?_⟩, ?_⟩
  · intro c
    have hc := hrouted c
    rw [removeSession_eq]
    cases hu : sm.byUser.get? u with
    | none =>
      rw [session?_eq_none_iff.mpr hu] at hc
      by_contra hsome
      cases hc hsome
    | some ref =>
      simp only [unlink, GoMap.get₂_prune₂]
      split
      · rfl
      · rename_i hother
        by_contra hsome
        have hchannel := hc hsome
        simp only [session?, hu, Option.map_some, Option.some.injEq] at hchannel
        exact hother ⟨hchannel.symm, trivial⟩
  · intro token pt hget
    rw [removeSession_pendingTokens, GoMap.get?_deleteWhere, Option.filter_eq_some_iff] at hget
    simpa using hget.2

end low_latency_voice.audio.SessionManager
