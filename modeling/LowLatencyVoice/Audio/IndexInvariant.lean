import LowLatencyVoice.Audio.SessionIndex
import LowLatencyVoice.Lib.Machine

open low_latency_voice.model

namespace low_latency_voice.audio

/-- The writing operations of `SessionManager`. Registering takes a fresh session. -/
inductive Operation (Addr : Type) where
  | registerPending (token : Token) (userID channelID ssrc : UInt32) (expiresAt : Time)
  | activatePending (now : Time) (token : Token) (userID channelID : UInt32) (addr : Option Addr)
  | registerSession (now : Time) (userID channelID ssrc : UInt32) (addr : Option Addr)
  | updateAddr (now : Time) (userID : UInt32) (newAddr : Option Addr)
  | setServerMute (userID : UInt32) (muted : Bool)
  | setServerDeafen (userID : UInt32) (deafened : Bool)
  | moveMember (userID toChannelID : UInt32)
  | removeSession (userID : UInt32)
  | revokePending (userID : UInt32)
  | cleanStaleSessions (now maxIdle : Time)

namespace SessionManager

variable {Addr : Type} [DecidableEq Addr]

def operate (sm : SessionManager Addr) : Operation Addr → SessionManager Addr
  | .registerPending token userID channelID ssrc expiresAt =>
    sm.registerPending token userID channelID ssrc expiresAt
  | .activatePending now token userID channelID addr =>
    (sm.activatePending now token userID channelID addr).1
  | .registerSession now userID channelID ssrc addr =>
    sm.install (newSession now userID channelID ssrc addr)
  | .updateAddr now userID newAddr => sm.updateAddr now userID newAddr
  | .setServerMute userID muted => sm.setServerMute userID muted
  | .setServerDeafen userID deafened => sm.setServerDeafen userID deafened
  | .moveMember userID toChannelID => sm.moveMember userID toChannelID
  | .removeSession userID => sm.removeSession userID
  | .revokePending userID => sm.revokePending userID
  | .cleanStaleSessions now maxIdle => (sm.cleanStaleSessions now maxIdle).1

/-- The session manager under arbitrary operations. -/
def operations : Machine (SessionManager Addr) (Operation Addr) Unit := ⟨fun sm op => (sm.operate op, ())⟩

/-- The three indexes agree, each user is in one room, and `GetChannelPeers`
lists a room. -/
structure IndexesAgree (sm : SessionManager Addr) : Prop where
  byUser : ∀ {u s}, sm.byUser.get? u = some s →
    (sm.heap s).userID = u ∧ sm.byChannel.get₂ (sm.heap s).channelID u = some s
  byChannel : ∀ {c u s}, sm.byChannel.get₂ c u = some s →
    sm.byUser.get? u = some s ∧ (sm.heap s).channelID = c
  byAddr : ∀ {a s}, sm.byAddr.get? a = some s →
    sm.byUser.get? (sm.heap s).userID = some s ∧ (sm.heap s).addr = some a
  room : ∀ {u s}, sm.byUser.get? u = some s → ∃! c, sm.byChannel.get₂ c u ≠ none
  nodup_peers : ∀ c x, (sm.getChannelPeers c x).Nodup
  mem_peers : ∀ c x s, s ∈ sm.getChannelPeers c x ↔ ∃ u, u ≠ x ∧ sm.byUser.get? u = some s ∧
    (sm.heap s).channelID = c ∧ (sm.heap s).addr ≠ none

omit [DecidableEq Addr] in
theorem mem_getChannelPeers {sm : SessionManager Addr} {c x : UInt32} {s : SessionRef} :
    s ∈ sm.getChannelPeers c x ↔
      ∃ u, u ≠ x ∧ sm.byChannel.get₂ c u = some s ∧ (sm.heap s).addr ≠ none := by
  unfold getChannelPeers GoMap.get₂
  cases sm.byChannel.get? c with
  | none => simp
  | some chMap =>
    simp only [List.mem_map, List.mem_filter, Prod.exists, GoMap.mem_pairs_iff, Option.bind_some]
    constructor
    · intro hmem
      obtain ⟨u, s', ⟨hget, hok⟩, rfl⟩ := hmem
      rw [Bool.and_eq_true, bne_iff_ne, Option.isSome_iff_ne_none] at hok
      exact ⟨u, hok.1, hget, hok.2⟩
    · intro hmem
      obtain ⟨u, hne, hget, haddr⟩ := hmem
      refine ⟨u, s, ⟨hget, ?_⟩, rfl⟩
      rw [Bool.and_eq_true, bne_iff_ne, Option.isSome_iff_ne_none]
      exact ⟨hne, haddr⟩

/-- Two users of a room never share a session, so no session is listed twice. -/
theorem Owned.nodup_getChannelPeers {sm : SessionManager Addr} (h : sm.Owned) (c x : UInt32) :
    (sm.getChannelPeers c x).Nodup := by
  unfold getChannelPeers
  cases hroom : sm.byChannel.get? c with
  | none => exact List.nodup_nil
  | some chMap =>
    apply List.Nodup.of_map fun s => (sm.heap s).userID
    rw [List.map_map]
    have hkeys : ∀ e ∈ chMap.pairs.filter fun e => e.1 != x && (sm.heap e.2).addr.isSome,
        (((fun s => (sm.heap s).userID) ∘ Prod.snd) e : UInt32) = e.1 := by
      intro e he
      obtain ⟨u, s⟩ := e
      have hget := (GoMap.mem_pairs_iff chMap u s).mp (List.mem_filter.mp he).1
      have hs : sm.byChannel.get₂ c u = some s := by rw [GoMap.get₂, hroom, Option.bind_some, hget]
      exact (h.channel hs).2
    rw [List.map_congr_left hkeys]
    exact List.Nodup.sublist (List.filter_sublist.map Prod.fst) chMap.nodup_pairs_keys

/-- What the claims on the indexes follow from. -/
theorem indexesAgree_of_inStep {sm : SessionManager Addr} (h : sm.Owned) (hin : sm.InStep) :
    sm.IndexesAgree where
  byUser {u s} hr := ⟨(h.user hr).2, (hin _ u s).mpr ⟨hr, rfl⟩⟩
  byChannel {c u s} hr := (hin c u s).mp hr
  byAddr {a s} hr := h.addr hr
  room {u s} hr := by
    refine ⟨(sm.heap s).channelID, ?_, ?_⟩
    · have hs := (hin _ u s).mpr ⟨hr, rfl⟩
      simp [hs]
    · intro c hne
      obtain ⟨s', hs'⟩ := Option.ne_none_iff_exists'.mp hne
      obtain ⟨hr', hc⟩ := (hin c u s').mp hs'
      cases hr.symm.trans hr'
      exact hc.symm
  nodup_peers c x := h.nodup_getChannelPeers c x
  mem_peers c x s := by
    rw [mem_getChannelPeers]
    constructor
    · intro hmem
      obtain ⟨u, hne, hget, haddr⟩ := hmem
      obtain ⟨hr, hc⟩ := (hin c u s).mp hget
      exact ⟨u, hne, hr, hc, haddr⟩
    · intro hmem
      obtain ⟨u, hne, hr, hc, haddr⟩ := hmem
      exact ⟨u, hne, (hin c u s).mpr ⟨hr, hc⟩, haddr⟩

theorem operate_inStep {sm : SessionManager Addr} (h : sm.Owned) (hin : sm.InStep) (op : Operation Addr) :
    (sm.operate op).Owned ∧ (sm.operate op).InStep := by
  cases op with
  | registerPending token userID channelID ssrc expiresAt => exact ⟨h.of_pendingTokens _, hin⟩
  | activatePending now token userID channelID addr =>
    simp only [operate]
    cases hactivate : sm.activatePending now token userID channelID addr with
    | mk sm' result =>
      cases result with
      | ok s =>
        obtain ⟨pt, -, rfl, rfl⟩ := activatePending_eq_ok_iff.mp hactivate
        have hspent : Owned { sm with pendingTokens := sm.pendingTokens.delete token } :=
          h.of_pendingTokens _
        have hspent' : InStep { sm with pendingTokens := sm.pendingTokens.delete token } := hin
        exact ⟨hspent.install _, hspent'.install hspent _⟩
      | error e =>
        obtain rfl | ⟨-, rfl⟩ := activatePending_error hactivate
        · exact ⟨h, hin⟩
        · exact ⟨h.of_pendingTokens _, hin⟩
  | registerSession now userID channelID ssrc addr => exact ⟨h.install _, hin.install h _⟩
  | updateAddr now userID newAddr =>
    exact ⟨h.updateAddr now userID newAddr, hin.updateAddr now userID newAddr⟩
  | setServerMute userID muted =>
    exact ⟨h.withSession userID _ (fun _ => rfl) (fun _ => rfl), hin.withSession userID _ (fun _ => rfl)⟩
  | setServerDeafen userID deafened =>
    exact ⟨h.withSession userID _ (fun _ => rfl) (fun _ => rfl), hin.withSession userID _ (fun _ => rfl)⟩
  | moveMember userID toChannelID =>
    exact ⟨h.moveMember userID toChannelID, hin.moveMember h userID toChannelID⟩
  | removeSession userID => exact ⟨h.removeSession userID, hin.removeSession userID⟩
  | revokePending userID => exact ⟨h.of_pendingTokens _, hin⟩
  | cleanStaleSessions now maxIdle =>
    exact ⟨h.cleanStaleSessions now maxIdle, hin.cleanStaleSessions now maxIdle⟩

/-- The indexes agree after every finite sequence of operations. -/
theorem indexesAgree_run (ops : List (Operation Addr)) : (operations.run new ops).IndexesAgree := by
  have hinv : (operations.run (new : SessionManager Addr) ops).Owned ∧
      (operations.run (new : SessionManager Addr) ops).InStep := by
    have hall : Machine.Along (fun _ _ => True) ops := fun _ _ _ _ => trivial
    exact Machine.run_invariant operations (fun _ sm => Owned sm ∧ InStep sm) ⟨owned_new, inStep_new⟩
      (fun _ op _ hinv => operate_inStep hinv.1 hinv.2 op) ops hall
  exact indexesAgree_of_inStep hinv.1 hinv.2

end SessionManager

end low_latency_voice.audio
