import LowLatencyVoice.Audio.Eviction
import LowLatencyVoice.Audio.IndexInvariant
import LowLatencyVoice.Lib.InverseIndex

open low_latency_voice.model

namespace low_latency_voice.audio.SessionManager

variable {Addr : Type} [DecidableEq Addr]

/-- The user's live session has the address. -/
def HasAddr (sm : SessionManager Addr) (u : UInt32) (a : Addr) : Prop :=
  (sm.session? u).map Session.addr = some (some a)

instance (sm : SessionManager Addr) (u : UInt32) (a : Addr) : Decidable (sm.HasAddr u a) :=
  inferInstanceAs (Decidable (_ = _))

/-- The handshake is accepted. -/
def Activates (sm : SessionManager Addr) (now : Time) (token : Token) (userID channelID : UInt32) : Prop :=
  ∃ pt, sm.LivePending now token userID channelID pt

/-- The users whose sessions an operation is for. -/
def Concerns (sm : SessionManager Addr) (u : UInt32) : Operation Addr → Prop
  | .registerPending _ userID _ _ _ => u = userID
  | .activatePending _ _ userID _ _ => u = userID
  | .registerSession _ userID _ _ _ => u = userID
  | .updateAddr _ userID _ => u = userID
  | .setServerMute userID _ => u = userID
  | .setServerDeafen userID _ => u = userID
  | .moveMember userID _ => u = userID
  | .removeSession userID => u = userID
  | .revokePending userID => u = userID
  | .cleanStaleSessions now maxIdle => ∃ s, sm.session? u = some s ∧ s.Stale now maxIdle

/-- The operation gives the user the address. -/
def Gives (sm : SessionManager Addr) (u : UInt32) (a : Addr) : Operation Addr → Prop
  | .activatePending now token userID channelID addr =>
    u = userID ∧ addr = some a ∧ sm.Activates now token userID channelID
  | .registerSession _ userID _ _ addr => u = userID ∧ addr = some a
  | .updateAddr _ userID newAddr => u = userID ∧ newAddr = some a ∧ sm.session? userID ≠ none
  | _ => False

/-- The operation takes the user's session away from an address it has: to another one, or it ends it. -/
def TakesOff (sm : SessionManager Addr) (u : UInt32) (a : Addr) (op : Operation Addr) : Prop :=
  sm.HasAddr u a ∧ match op with
    | .activatePending now token userID channelID addr =>
      u = userID ∧ addr ≠ some a ∧ sm.Activates now token userID channelID
    | .registerSession _ userID _ _ addr => u = userID ∧ addr ≠ some a
    | .updateAddr _ userID newAddr => u = userID ∧ newAddr ≠ some a
    | .removeSession userID => u = userID
    | .cleanStaleSessions now maxIdle => ∃ s, sm.session? u = some s ∧ s.Stale now maxIdle
    | _ => False

/-- An operation leaves the address entries of other live sessions alone, those of the addresses it gives
apart. -/
def KeepsAddrs (sm : SessionManager Addr) (op : Operation Addr) : Prop :=
  ∀ a ref, sm.byAddr.get? a = some ref → ¬ sm.Concerns (sm.heap ref).userID op → (∀ u, ¬ sm.Gives u a op) →
    (sm.operate op).byAddr.get? a = some ref

/-- A live session whose address no other live session has is found by it. -/
def FoundByAddr (sm : SessionManager Addr) : Prop :=
  ∀ u a, sm.HasAddr u a → (∀ v, v ≠ u → ¬ sm.HasAddr v a) → sm.getByAddr (some a) = sm.getByUser u

/-- Where an operation takes a session away from an address, the entry of that address is no other
session's, and not just one other session has the address. -/
def LeavesApart (sm : SessionManager Addr) (op : Operation Addr) : Prop :=
  ∀ u a, sm.TakesOff u a op →
    (∀ ref, sm.byAddr.get? a = some ref → sm.TakesOff (sm.heap ref).userID a op) ∧
      ¬ ∃ v, sm.HasAddr v a ∧ ¬ sm.TakesOff v a op ∧ ∀ w, sm.HasAddr w a → ¬ sm.TakesOff w a op → w = v

/-- Entries of the address index are of live sessions that have the address. -/
theorem Owned.hasAddr {sm : SessionManager Addr} (h : sm.Owned) {a : Addr} {ref : SessionRef}
    (hr : sm.byAddr.get? a = some ref) : sm.HasAddr (sm.heap ref).userID a := by
  obtain ⟨hreg, hat⟩ := h.addr hr
  simp [HasAddr, session?, hreg, hat]

omit [DecidableEq Addr] in
theorem hasAddr_congr {sm sm' : SessionManager Addr} {u : UInt32}
    (h : (sm'.session? u).map Session.addr = (sm.session? u).map Session.addr) (a : Addr) :
    sm'.HasAddr u a ↔ sm.HasAddr u a := by
  unfold HasAddr
  rw [h]

/-- The abstract statement of what the index is for. -/
theorem foundByAddr_iff {sm : SessionManager Addr} (h : sm.Owned) :
    sm.FoundByAddr ↔ InverseIndex.Complete sm.HasAddr sm.byAddr.get? := by
  constructor
  · rintro hfound u a ⟨hhas, hothers⟩ hnone
    have heq := hfound u a hhas fun v hv hv' => hv (hothers v hv')
    change sm.byAddr.get? a = sm.byUser.get? u at heq
    rw [hnone] at heq
    have hsession := session?_eq_none_iff.mpr heq.symm
    simp [HasAddr, hsession] at hhas
  · intro hcomplete u a hhas hothers
    have hsole : InverseIndex.Sole sm.HasAddr u a := by
      refine ⟨hhas, fun v hv => ?_⟩
      by_contra hne
      exact hothers v hne hv
    obtain ⟨ref, hr⟩ := Option.ne_none_iff_exists'.mp (hcomplete u a hsole)
    have howner := hsole.2 _ (h.hasAddr hr)
    change sm.byAddr.get? a = sm.byUser.get? u
    rw [hr, ← howner, (h.addr hr).1]

section change

variable {sm sm' : SessionManager Addr} {takes drops : UInt32 → Addr → Prop}

theorem change_of_same (hsession : ∀ u, (sm'.session? u).map Session.addr = (sm.session? u).map Session.addr)
    (hentry : ∀ a, sm'.byAddr.get? a = sm.byAddr.get? a) (htakes : ∀ u a, ¬ takes u a)
    (hdrops : ∀ u a, ¬ drops u a) :
    InverseIndex.Change sm.HasAddr sm'.HasAddr sm.byAddr.get? sm'.byAddr.get? takes drops where
  has_iff u a := by simp [hasAddr_congr (hsession u), htakes u a, hdrops u a]
  apart u v a h := absurd h (htakes u a)
  taken u a h := absurd h (htakes u a)
  dropped u a h := absurd h (hdrops u a)
  kept a _ _ := hentry a

omit [DecidableEq Addr] in
/-- A write to one user's session that leaves the address alone. -/
theorem addr_of_write {u v : UInt32} {f : Session Addr → Session Addr}
    (hsession : sm'.session? u = if u = v then (sm.session? v).map f else sm.session? u)
    (haddr : ∀ s, (f s).addr = s.addr) :
    (sm'.session? u).map Session.addr = (sm.session? u).map Session.addr := by
  rw [hsession]
  split
  · rename_i hu
    subst hu
    rw [Option.map_map]
    exact Option.map_congr fun s _ => haddr s
  · rfl

theorem change_withSession (h : sm.Owned) (v : UInt32) (f : Session Addr → Session Addr)
    (haddr : ∀ s, (f s).addr = s.addr) (htakes : ∀ u a, ¬ takes u a) (hdrops : ∀ u a, ¬ drops u a) :
    InverseIndex.Change sm.HasAddr (sm.withSession v f).HasAddr sm.byAddr.get?
      (sm.withSession v f).byAddr.get? takes drops := by
  refine change_of_same (fun u => addr_of_write (session?_withSession h v f u) haddr) (fun a => ?_)
    htakes hdrops
  unfold withSession
  split <;> rfl

/-- One user's session gets another address, or none. -/
theorem change_of_moved (v : UInt32) (newAddr : Option Addr) (ref : SessionRef)
    (hothers : ∀ u, u ≠ v → (sm'.session? u).map Session.addr = (sm.session? u).map Session.addr)
    (hown : ∀ a, sm'.HasAddr v a ↔ newAddr = some a)
    (hentry : ∀ a, sm'.byAddr.get? a =
      if newAddr = some a then some ref else if sm.HasAddr v a then none else sm.byAddr.get? a)
    (htakes : ∀ u a, takes u a ↔ u = v ∧ newAddr = some a)
    (hdrops : ∀ u a, drops u a ↔ sm.HasAddr u a ∧ u = v ∧ newAddr ≠ some a) :
    InverseIndex.Change sm.HasAddr sm'.HasAddr sm.byAddr.get? sm'.byAddr.get? takes drops where
  has_iff u a := by
    rw [htakes, hdrops]
    by_cases hu : u = v
    · subst hu
      rw [hown]
      tauto
    · rw [hasAddr_congr (hothers u hu)]
      simp [hu]
  apart u w a htake hdrop := ((hdrops w a).mp hdrop).2.2 ((htakes u a).mp htake).2
  taken u a htake := by
    rw [hentry, if_pos ((htakes u a).mp htake).2]
    exact Option.some_ne_none ref
  dropped u a hdrop := by
    obtain ⟨hhas, rfl, hnew⟩ := (hdrops u a).mp hdrop
    rw [hentry, if_neg hnew, if_pos hhas]
  kept a hnone hkept := by
    have hnew : newAddr ≠ some a := fun hnew => hnone v ((htakes v a).mpr ⟨rfl, hnew⟩)
    rw [hentry, if_neg hnew, if_neg]
    exact fun hhas => hkept v ((hdrops v a).mpr ⟨hhas, rfl, hnew⟩)

/-- A session made afresh takes the place of the user's old one. -/
theorem change_install (h : sm.Owned) (s : Session Addr)
    (htakes : ∀ u a, takes u a ↔ u = s.userID ∧ s.addr = some a)
    (hdrops : ∀ u a, drops u a ↔ sm.HasAddr u a ∧ u = s.userID ∧ s.addr ≠ some a) :
    InverseIndex.Change sm.HasAddr (sm.install s).HasAddr sm.byAddr.get? (sm.install s).byAddr.get?
      takes drops := by
  refine change_of_moved s.userID s.addr sm.nextRef ?_ ?_ ?_ htakes hdrops
  · intro u hu
    rw [session?_install h, if_neg hu]
  · intro a
    simp [HasAddr, session?_install h]
  · intro a
    rw [install_byAddr sm s fun hu => (h.user hu).1]
    congr 2
    unfold HasAddr
    cases sm.session? s.userID <;> simp

theorem change_updateAddr (h : sm.Owned) (now : Time) (v : UInt32) (newAddr : Option Addr)
    (htakes : ∀ u a, takes u a ↔ u = v ∧ newAddr = some a ∧ sm.session? v ≠ none)
    (hdrops : ∀ u a, drops u a ↔ sm.HasAddr u a ∧ u = v ∧ newAddr ≠ some a) :
    InverseIndex.Change sm.HasAddr (sm.updateAddr now v newAddr).HasAddr sm.byAddr.get?
      (sm.updateAddr now v newAddr).byAddr.get? takes drops := by
  cases hv : sm.byUser.get? v with
  | none =>
    have hnone := session?_eq_none_iff.mpr hv
    have hsame : sm.updateAddr now v newAddr = sm := by simp only [updateAddr, hv]
    rw [hsame]
    apply change_of_same (fun _ => rfl) (fun _ => rfl)
    · intro u a htake
      exact ((htakes u a).mp htake).2.2 hnone
    · intro u a hdrop
      obtain ⟨hhas, rfl, -⟩ := (hdrops u a).mp hdrop
      simp [HasAddr, hnone] at hhas
  | some ref =>
    have hsome : sm.session? v ≠ none := by simp [session?, hv]
    refine change_of_moved v newAddr ref ?_ ?_ ?_ ?_ hdrops
    · intro u hu
      rw [session?_updateAddr h, if_neg hu]
    · intro a
      obtain ⟨s, hs⟩ := Option.ne_none_iff_exists'.mp hsome
      simp [HasAddr, session?_updateAddr h, hs, Session.setAddr]
    · intro a
      simp [updateAddr, hv, HasAddr, session?]
    · intro u a
      rw [htakes]
      simp [hsome]

theorem change_removeSession (v : UInt32) (htakes : ∀ u a, ¬ takes u a)
    (hdrops : ∀ u a, drops u a ↔ sm.HasAddr u a ∧ u = v) :
    InverseIndex.Change sm.HasAddr (sm.removeSession v).HasAddr sm.byAddr.get?
      (sm.removeSession v).byAddr.get? takes drops := by
  apply change_of_moved v none 0
  · intro u hu
    rw [session?_removeSession, if_neg hu]
  · intro a
    simp [HasAddr, session?_removeSession]
  · intro a
    rw [removeSession_eq]
    cases hv : sm.byUser.get? v with
    | none => simp [HasAddr, session?, hv, revokePending]
    | some ref => simp [unlink, revokePending, HasAddr, session?, hv]
  · intro u a
    simp [htakes u a]
  · intro u a
    simp [hdrops]

/-- The scavenger gives up the addresses of all stale sessions. -/
theorem change_cleanStaleSessions (now maxIdle : Time) (htakes : ∀ u a, ¬ takes u a)
    (hdrops : ∀ u a, drops u a ↔
      sm.HasAddr u a ∧ ∃ s, sm.session? u = some s ∧ s.Stale now maxIdle) :
    InverseIndex.Change sm.HasAddr (sm.cleanStaleSessions now maxIdle).1.HasAddr sm.byAddr.get?
      (sm.cleanStaleSessions now maxIdle).1.byAddr.get? takes drops := by
  obtain ⟨swept, hevicted, heq⟩ := evicted_cleanStaleSessions sm now maxIdle
  rw [heq]
  -- An address is given up exactly where an evicted session has it.
  have hgone : ∀ a, (∃ e ∈ sm.staleEntries now maxIdle, (sm.heap e.2).addr = some a) ↔
      ∃ u, drops u a := by
    intro a
    constructor
    · rintro ⟨⟨u, ref⟩, he, haddr⟩
      obtain ⟨hu, hstale⟩ := mem_staleEntries.mp he
      refine ⟨u, (hdrops u a).mpr ⟨?_, sm.heap ref, ?_, hstale⟩⟩
      · simpa [HasAddr, session?, hu] using haddr
      · simp [session?, hu]
    · rintro ⟨u, hdrop⟩
      obtain ⟨hhas, s, hs, hstale⟩ := (hdrops u a).mp hdrop
      obtain ⟨ref, hu, rfl⟩ := Option.map_eq_some_iff.mp hs
      refine ⟨(u, ref), mem_staleEntries.mpr ⟨hu, hstale⟩, ?_⟩
      simpa [HasAddr, hs] using hhas
  refine ⟨fun u a => ?_, fun u _ a h => absurd h (htakes u a), fun u a h => absurd h (htakes u a),
    fun u a hdrop => ?_, fun a _ hkept => ?_⟩
  · rw [hdrops, ← mem_map_staleEntries]
    rcases hevicted.user u with ⟨hmem, hnone⟩ | ⟨hnot, hsame⟩
    · simp [HasAddr, session?, hnone, hmem, htakes u a]
    · simp [HasAddr, session?, hevicted.heap, hsame, hnot, htakes u a]
  · rcases hevicted.addr a with ⟨-, hnone⟩ | ⟨hnot, -⟩
    · exact hnone
    · obtain ⟨e, he, haddr⟩ := (hgone a).mpr ⟨u, hdrop⟩
      exact absurd haddr (hnot e he)
  · rcases hevicted.addr a with ⟨hmem, -⟩ | ⟨-, hsame⟩
    · obtain ⟨u, hdrop⟩ := (hgone a).mp hmem
      exact absurd hdrop (hkept u)
    · exact hsame

end change

/-- Every operation changes the address index as it gives and takes addresses. -/
theorem change_operate {sm : SessionManager Addr} (h : sm.Owned) (op : Operation Addr) :
    InverseIndex.Change sm.HasAddr (sm.operate op).HasAddr sm.byAddr.get? (sm.operate op).byAddr.get?
      (fun u a => sm.Gives u a op) (fun u a => sm.TakesOff u a op) := by
  cases op with
  | activatePending now token userID channelID addr =>
    simp only [operate]
    cases hactivate : sm.activatePending now token userID channelID addr with
    | mk sm' result =>
      cases result with
      | ok s =>
        obtain ⟨pt, hlive, rfl, rfl⟩ := activatePending_eq_ok_iff.mp hactivate
        have hactivates : sm.Activates now token userID channelID := ⟨pt, hlive⟩
        have hspent : Owned { sm with pendingTokens := sm.pendingTokens.delete token } :=
          h.of_pendingTokens _
        apply change_install hspent
        · intro u a
          simp [Gives, hactivates, newSession]
        · intro u a
          simp only [TakesOff, hactivates, and_true]
          rfl
      | error e =>
        have hrefused : ¬ sm.Activates now token userID channelID := by
          rintro ⟨pt, hlive⟩
          cases hactivate.symm.trans (activatePending_eq_ok_iff.mpr ⟨pt, hlive, rfl, rfl⟩)
        obtain rfl | ⟨-, rfl⟩ := activatePending_error hactivate
        · exact change_of_same (fun _ => rfl) (fun _ => rfl) (fun _ _ hgives => hrefused hgives.2.2)
            fun _ _ htakes => hrefused htakes.2.2.2
        · exact change_of_same (fun _ => rfl) (fun _ => rfl) (fun _ _ hgives => hrefused hgives.2.2)
            fun _ _ htakes => hrefused htakes.2.2.2
  | registerSession now userID channelID ssrc addr =>
    exact change_install h _ (fun _ _ => Iff.rfl) fun _ _ => Iff.rfl
  | updateAddr now userID newAddr =>
    exact change_updateAddr h now userID newAddr (fun _ _ => Iff.rfl) fun _ _ => Iff.rfl
  | removeSession userID => exact change_removeSession userID (fun _ _ => id) fun _ _ => Iff.rfl
  | cleanStaleSessions now maxIdle =>
    exact change_cleanStaleSessions now maxIdle (fun _ _ => id) fun _ _ => Iff.rfl
  | setServerMute userID muted =>
    exact change_withSession h userID _ (fun _ => rfl) (fun _ _ => id) fun _ _ htakes => htakes.2
  | setServerDeafen userID deafened =>
    exact change_withSession h userID _ (fun _ => rfl) (fun _ _ => id) fun _ _ htakes => htakes.2
  | moveMember userID toChannelID =>
    refine change_of_same (fun u => ?_) (fun a => ?_) (fun _ _ => id) fun _ _ htakes => htakes.2
    · exact addr_of_write (session?_moveMember h userID toChannelID u) fun _ => rfl
    · simp only [operate, moveMember]
      split <;> rfl
  | registerPending token userID channelID ssrc expiresAt =>
    exact change_of_same (fun _ => rfl) (fun _ => rfl) (fun _ _ => id) fun _ _ htakes => htakes.2
  | revokePending userID =>
    exact change_of_same (fun _ => rfl) (fun _ => rfl) (fun _ _ => id) fun _ _ htakes => htakes.2

omit [DecidableEq Addr] in
theorem concerns_of_takesOff {sm : SessionManager Addr} {u : UInt32} {a : Addr} {op : Operation Addr}
    (h : sm.TakesOff u a op) : sm.Concerns u op := by
  cases op with
  | activatePending | registerSession | updateAddr => exact h.2.1
  | removeSession | cleanStaleSessions => exact h.2
  | registerPending | setServerMute | setServerDeafen | moveMember | revokePending => exact h.2.elim

omit [DecidableEq Addr] in
/-- Where an operation gives an address up for one session, it does so for each session it is for. -/
theorem takesOff_of_concerns {sm : SessionManager Addr} {u v : UInt32} {a : Addr} {op : Operation Addr}
    (hu : sm.TakesOff u a op) (hv : sm.Concerns v op) (hhas : sm.HasAddr v a) : sm.TakesOff v a op := by
  cases op with
  | activatePending | registerSession | updateAddr => exact ⟨hhas, hv, hu.2.2⟩
  | removeSession | cleanStaleSessions => exact ⟨hhas, hv⟩
  | registerPending | setServerMute | setServerDeafen | moveMember | revokePending => exact hu.2.elim

theorem keepsAddrs_iff {sm : SessionManager Addr} (h : sm.Owned) (op : Operation Addr) :
    sm.KeepsAddrs op ↔ InverseIndex.KeepsEntries (fun ref => (sm.heap ref).userID) sm.byAddr.get?
      (sm.operate op).byAddr.get? (fun u a => sm.Gives u a op) (fun u a => sm.TakesOff u a op) := by
  constructor
  · intro hkeeps a ref hr howner hgives
    by_cases hconcerns : sm.Concerns (sm.heap ref).userID op
    · have hnobody : ∀ u, ¬ sm.TakesOff u a op := fun u hu =>
        howner (takesOff_of_concerns hu hconcerns (h.hasAddr hr))
      rw [(change_operate h op).kept a hgives hnobody, hr]
    · exact hkeeps a ref hr hconcerns hgives
  · intro hkeeps a ref hr hconcerns hgives
    exact hkeeps a ref hr (fun htakes => hconcerns (concerns_of_takesOff htakes)) hgives

theorem leavesApart_iff {sm : SessionManager Addr} (op : Operation Addr) :
    sm.LeavesApart op ↔ InverseIndex.Spares sm.HasAddr (fun ref => (sm.heap ref).userID) sm.byAddr.get?
      (fun u a => sm.TakesOff u a op) := by
  unfold LeavesApart InverseIndex.Spares InverseIndex.Sole
  simp only [not_exists, and_assoc, and_imp]

/-- Every operation of the run leaves the entries of the others alone, and after each the sessions that have
their address alone are found by it. -/
def AddrsComplete (ops : List (Operation Addr)) : Prop :=
  Machine.Along (fun pre op => KeepsAddrs (operations.run new pre) op ∧
    FoundByAddr (operations.run (new : SessionManager Addr) (pre ++ [op]))) ops

/-- The address index is complete along exactly the runs in which no operation takes a session away from an
address whose entry is that of a session that stays, or that just one other session is left with. -/
theorem addrsComplete_iff_leavesApart (ops : List (Operation Addr)) :
    AddrsComplete ops ↔
      Machine.Along (fun pre op => LeavesApart (operations.run (new : SessionManager Addr) pre) op) ops := by
  refine Machine.along_iff_along (fun _ _ => True)
    (fun pre => Owned (operations.run (new : SessionManager Addr) pre) ∧
      InStep (operations.run (new : SessionManager Addr) pre) ∧
      FoundByAddr (operations.run (new : SessionManager Addr) pre)) ?_ ?_ ?_ ops fun _ _ _ _ => trivial
  · refine ⟨owned_new, inStep_new, fun u a hhas _ => ?_⟩
    simp [HasAddr, session?, new] at hhas
  · rintro pre op - ⟨howned, hin, hfound⟩
    have hnext := (operate_inStep howned hin op).1
    rw [keepsAddrs_iff howned, Machine.run_concat, leavesApart_iff]
    refine Iff.trans (and_congr_right fun _ => foundByAddr_iff hnext) ?_
    exact (change_operate howned op).keepsEntries_and_complete_iff ((foundByAddr_iff howned).mp hfound)
  · rintro pre op - ⟨howned, hin, hfound⟩ hapart
    obtain ⟨hnext, hin'⟩ := operate_inStep howned hin op
    rw [Machine.run_concat]
    refine ⟨hnext, hin', (foundByAddr_iff hnext).mpr ?_⟩
    exact (change_operate howned op).complete_of_spares ((foundByAddr_iff howned).mp hfound)
      ((leavesApart_iff op).mp hapart)

/-- User 2's session is registered at the address user 1 has, and user 1 leaves: the entry of the address,
which is user 2's, is deleted. -/
theorem leaving_takes_shared_address :
    ¬ AddrsComplete ([.registerSession 0 1 5 0 (some 10), .registerSession 1 2 5 0 (some 10),
      .removeSession 1] : List (Operation Nat)) := by
  intro hcomplete
  have hlast := hcomplete [.registerSession 0 1 5 0 (some 10), .registerSession 1 2 5 0 (some 10)] _ [] rfl
  have hkept := hlast.1 10 1 (by decide +kernel) (by simp only [Concerns]; decide +kernel)
    fun _ => id
  revert hkept
  decide +kernel

end low_latency_voice.audio.SessionManager
