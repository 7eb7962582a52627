import LowLatencyVoice.Plane.Events

open low_latency_voice.model low_latency_voice.storage low_latency_voice.audio

namespace low_latency_voice.plane

variable {Addr : Type} [DecidableEq Addr]

/-- `peers` lists each user other than `sender` with a session in `channelID`, a
known address and no server deafen, once and with that address. -/
def Listeners (sm : SessionManager Addr) (sender channelID : UInt32)
    (peers : List (UInt32 × Addr)) : Prop :=
  (peers.map Prod.fst).Nodup ∧ ∀ v a, (v, a) ∈ peers ↔
    v ≠ sender ∧ ∃ s, sm.session? v = some s ∧ s.channelID = channelID ∧ s.addr = some a ∧
      s.serverDeafened = false

/-- Every accepted voice datagram is copied, unmodified, to exactly the
listeners of its room. -/
def ForwardsExactly (r₀ : Router Addr) : List (PlaneEvent Addr) → Prop :=
  Machine.Along fun pre e => ∀ pkt data srcAddr, Voice e pkt data srcAddr →
    (media.run r₀ pre).writer = true → (media.out (media.run r₀ pre) e).result = .ok () →
    ∃ peers, Listeners (media.run r₀ pre).sessions pkt.senderID pkt.channelID peers ∧
      (media.out (media.run r₀ pre) e).written = peers.map fun p => (data, p.2)

/-- No handshake that neither store accepts moves an existing session. -/
def RejectedStaysPut (r₀ : Router Addr) : List (PlaneEvent Addr) → Prop :=
  Machine.Along fun pre e => ∀ now fault pkt, Handshake e now fault pkt →
    ¬ Router.Accepts (media.run r₀ pre) now fault pkt →
    ∀ s, (media.run r₀ pre).sessions.session? pkt.senderID = some s → s.channelID = pkt.channelID

/-- The users behind `GetChannelPeers` and the egress filter, with addresses. -/
def listeners (sm : SessionManager Addr) (channelID sender : UInt32) : List (UInt32 × Addr) :=
  match sm.byChannel.get? channelID with
  | none => []
  | some chMap => chMap.pairs.filterMap fun e =>
    if e.1 ≠ sender ∧ (sm.heap e.2).serverDeafened = false then
      (sm.heap e.2).addr.map fun a => (e.1, a)
    else none

omit [DecidableEq Addr] in
/-- The two loops of `handleVoice` as one pass over the room. -/
theorem forward_getChannelPeers (sm : SessionManager Addr) (channelID sender : UInt32)
    (rawData : GoBytes) :
    Router.forward sm (sm.getChannelPeers channelID sender) rawData =
      (listeners sm channelID sender).map fun p => (rawData, p.2) := by
  unfold SessionManager.getChannelPeers listeners
  cases sm.byChannel.get? channelID with
  | none => rfl
  | some chMap =>
    simp only [Router.forward, List.filterMap_map, List.filterMap_filter, List.map_filterMap]
    refine List.filterMap_congr fun e _ => ?_
    by_cases hsender : e.1 = sender
    · simp [hsender]
    · cases haddr : (sm.heap e.2).addr <;> cases hdeaf : (sm.heap e.2).serverDeafened <;>
        simp [hsender, haddr, hdeaf]

private theorem filterMap_keys_sublist {κ α β : Type} (f : κ × α → Option (κ × β))
    (hkey : ∀ e p, f e = some p → p.1 = e.1) (entries : List (κ × α)) :
    ((entries.filterMap f).map Prod.fst).Sublist (entries.map Prod.fst) := by
  induction entries with
  | nil => exact .slnil
  | cons e rest ih =>
    rw [List.filterMap_cons]
    split
    · exact ih.cons _
    · rename_i p hp
      simpa [hkey e p hp] using ih.cons_cons e.1

omit [DecidableEq Addr] in
theorem nodup_listeners (sm : SessionManager Addr) (channelID sender : UInt32) :
    ((listeners sm channelID sender).map Prod.fst).Nodup := by
  unfold listeners
  cases sm.byChannel.get? channelID with
  | none => exact List.nodup_nil
  | some chMap =>
    refine List.Nodup.sublist (filterMap_keys_sublist _ ?_ _) chMap.nodup_pairs_keys
    intro e p hp
    rw [Option.ite_none_right_eq_some] at hp
    obtain ⟨a, -, rfl⟩ := Option.map_eq_some_iff.mp hp.2
    rfl

omit [DecidableEq Addr] in
/-- The loop meets the open ears the routing table lists in the room. -/
theorem mem_listeners_iff {sm : SessionManager Addr} {channelID sender v : UInt32} {a : Addr} :
    (v, a) ∈ listeners sm channelID sender ↔ v ≠ sender ∧
      ∃ ref, sm.byChannel.get₂ channelID v = some ref ∧ (sm.heap ref).addr = some a ∧
        (sm.heap ref).serverDeafened = false := by
  unfold listeners GoMap.get₂
  cases sm.byChannel.get? channelID with
  | none => simp
  | some chMap =>
    simp only [List.mem_filterMap, Option.ite_none_right_eq_some, Option.map_eq_some_iff,
      Option.bind_some]
    constructor
    · rintro ⟨⟨v', ref⟩, hpair, ⟨hne, hdeaf⟩, a', haddr, heq⟩
      cases heq
      exact ⟨hne, ref, (GoMap.mem_pairs_iff _ _ _).mp hpair, haddr, hdeaf⟩
    · rintro ⟨hne, ref, hget, haddr, hdeaf⟩
      exact ⟨(v, ref), (GoMap.mem_pairs_iff _ _ _).mpr hget, ⟨hne, hdeaf⟩, a, haddr, rfl⟩

omit [DecidableEq Addr] in
/-- With the routing table in step, the loop meets exactly the listeners. -/
theorem listeners_spec {sm : SessionManager Addr} (hin : sm.InStep) (sender channelID : UInt32) :
    Listeners sm sender channelID (listeners sm channelID sender) := by
  refine ⟨nodup_listeners sm channelID sender, fun v a => ?_⟩
  rw [mem_listeners_iff]
  refine and_congr_right fun _ => ?_
  constructor
  · rintro ⟨ref, hget, haddr, hdeaf⟩
    obtain ⟨hreg, hchannel⟩ := (hin channelID v ref).mp hget
    exact ⟨sm.heap ref, by simp [SessionManager.session?, hreg], hchannel, haddr, hdeaf⟩
  · rintro ⟨s, hs, hchannel, haddr, hdeaf⟩
    obtain ⟨ref, hreg, rfl⟩ := Option.map_eq_some_iff.mp hs
    exact ⟨ref, (hin channelID v ref).mpr ⟨hreg, hchannel⟩, haddr, hdeaf⟩

omit [DecidableEq Addr] in
/-- The listeners depend on the sessions of other users only. -/
theorem Listeners.congr {sm sm' : SessionManager Addr} {sender channelID : UInt32}
    {peers : List (UInt32 × Addr)} (h : Listeners sm' sender channelID peers)
    (hothers : ∀ v, v ≠ sender → sm'.session? v = sm.session? v) :
    Listeners sm sender channelID peers := by
  refine ⟨h.1, fun v a => (h.2 v a).trans (and_congr_right fun hne => ?_)⟩
  rw [hothers v hne]

theorem session?_roam {sm : SessionManager Addr} (h : sm.Owned) (now : Time) (ref : SessionRef)
    {sender v : UInt32} (hne : v ≠ sender) (srcAddr : Addr) :
    (Router.roam sm now ref sender srcAddr).session? v = sm.session? v := by
  unfold Router.roam
  split
  · rfl
  · rw [SessionManager.session?_updateAddr h, if_neg hne]

/-- One accepted voice packet, with the routing table in step. -/
theorem handleVoice_forwards {r : Router Addr} (h : r.sessions.Owned) (hin : r.sessions.InStep)
    (hwriter : r.writer = true) {now : Time} {pkt : Packet} {rawData : GoBytes} {srcAddr : Addr}
    (hok : (r.handleVoice now pkt rawData srcAddr).2.result = .ok ()) :
    ∃ peers, Listeners r.sessions pkt.senderID pkt.channelID peers ∧
      (r.handleVoice now pkt rawData srcAddr).2.written = peers.map fun p => (rawData, p.2) := by
  obtain ⟨e, heq⟩ | ⟨ref, sm, hreg, -, rfl, ⟨-, heq⟩ | ⟨-, sm', notified, rfl, -, heq⟩⟩ :=
    Router.handleVoice_cases h now pkt rawData srcAddr
  · rw [heq] at hok
    cases hok
  · rw [heq] at hok
    cases hok
  · rw [heq]
    have hroam := Router.roam_refreshed h now ref pkt.senderID srcAddr
    have hreg' : (Router.roam r.sessions now ref pkt.senderID srcAddr).byUser.get? pkt.senderID =
        some ref := by
      rw [hroam.byUser]
      exact hreg
    have hin' := (hroam.inStep hin).modify ref
      (fun s => (s.updateSpeakingState now pkt.vad pkt.energyLevel).1) rfl
    refine ⟨_, (listeners_spec hin' pkt.senderID pkt.channelID).congr fun v hne => ?_, ?_⟩
    · rw [SessionManager.session?_modify hroam.owned hreg', if_neg hne,
        session?_roam h now ref hne srcAddr]
    · simp only [hwriter, if_true]
      exact forward_getChannelPeers _ _ _ _

/-- A handshake keeps the routing table in step unless the fallback moves an
existing session. -/
theorem handleHandshake_inStep {r : Router Addr} (h : r.sessions.Owned) (hin : r.sessions.InStep)
    {now : Time} {fault : Fault} {pkt : Packet} (srcAddr : Addr)
    (hput : ¬ Router.Accepts r now fault pkt → ∀ s, r.sessions.session? pkt.senderID = some s →
      s.channelID = pkt.channelID) :
    (r.handleHandshake now fault pkt srcAddr).1.sessions.InStep := by
  obtain ⟨pt, -, heq⟩ | ⟨-, rows, vt, sm, -, -, hswept, heq⟩ |
    ⟨hpending, hstored, sm, _, hswept, -, heq⟩ := Router.handleHandshake_cases r now fault pkt srcAddr
  · rw [heq]
    exact SessionManager.InStep.install
      (h.of_pendingTokens (r.sessions.pendingTokens.delete (Router.tokenStr pkt))) hin _
  · rw [heq]
    exact SessionManager.InStep.install (hswept.owned h) (hswept.inStep hin) _
  · rw [heq]
    cases hreg : sm.byUser.get? pkt.senderID with
    | none =>
      rw [Router.fallback_of_none hreg]
      exact SessionManager.InStep.install (hswept.owned h) (hswept.inStep hin) _
    | some ref =>
      have hsome : r.sessions.session? pkt.senderID = some (sm.heap ref) := by
        rw [← hswept.session?]
        simp [SessionManager.session?, hreg]
      have hsame := hput (not_or.mpr ⟨hpending, hstored⟩) _ hsome
      rw [Router.fallback_of_some hreg]
      exact ((hswept.inStep hin).modify ref _ hsame.symm).updateAddr _ _ _

theorem step_inStep {r : Router Addr} (h : r.sessions.Owned) (hin : r.sessions.InStep)
    (e : PlaneEvent Addr)
    (hput : ∀ now fault pkt, Handshake e now fault pkt → ¬ Router.Accepts r now fault pkt →
      ∀ s, r.sessions.session? pkt.senderID = some s → s.channelID = pkt.channelID) :
    (step r e).1.sessions.InStep := by
  cases e with
  | datagram now fault data srcAddr =>
    obtain ⟨pkt, hdec, htype, heq⟩ | ⟨-, href, -⟩ := handlePacket_cases h now fault data srcAddr
    · rw [step, heq]
      exact handleHandshake_inStep h hin srcAddr
        (hput now fault pkt ⟨data, srcAddr, rfl, hdec, htype⟩)
    · exact href.inStep hin
  | registerPending token userID channelID ssrc expiresAt => exact hin
  | createVoiceToken now fault token userID channelID ssrc expiresAt => exact hin
  | registerSession session => exact hin.install h session
  | moveMember userID toChannelID => exact hin.moveMember h userID toChannelID
  | setServerMute userID muted => exact hin.withSession userID _ fun _ => rfl
  | setServerDeafen userID deafened => exact hin.withSession userID _ fun _ => rfl
  | removeSession userID => exact hin.removeSession userID
  | revokePending userID => exact hin
  | revokeVoiceTokens userID => exact hin
  | cleanStaleSessions now maxIdle => exact hin.cleanStaleSessions now maxIdle

theorem run_inStep {r₀ : Router Addr} (h₀ : r₀.sessions.Owned) (hin₀ : r₀.sessions.InStep)
    {es : List (PlaneEvent Addr)} (hput : RejectedStaysPut r₀ es) :
    (media.run r₀ es).sessions.InStep :=
  Machine.run_invariant media (fun _ r => r.sessions.InStep) hin₀
    (fun pre e hok hinv => step_inStep (run_owned h₀ pre) hinv e hok) es hput

/-- Room isolation: in every run in which no rejected handshake moves an
existing session, each accepted voice datagram reaches exactly its listeners. -/
theorem forwardsExactly_of_rejectedStaysPut (validator : Option VoiceTokens) (notifier writer : Bool)
    (es : List (PlaneEvent Addr)) (hput : RejectedStaysPut (newRouter validator notifier writer) es) :
    ForwardsExactly (newRouter validator notifier writer) es := by
  rintro pre e post rfl pkt data srcAddr ⟨now, fault, rfl, hdec, htype⟩ hwriter hok
  have howned : (media.run (newRouter validator notifier writer : Router Addr) pre).sessions.Owned :=
    run_owned SessionManager.owned_new pre
  have hin : (media.run (newRouter validator notifier writer : Router Addr) pre).sessions.InStep :=
    run_inStep SessionManager.owned_new SessionManager.inStep_new hput.front
  have hstep : media.out (media.run (newRouter validator notifier writer) pre)
      (.datagram now fault data srcAddr) = (Router.handleVoice _ now pkt data srcAddr).2 :=
    congrArg Prod.snd (Router.handlePacket_voice hdec htype)
  rw [hstep] at hok ⊢
  exact handleVoice_forwards howned hin hwriter hok

/-- User 1 repeats its handshake for the room it is in and then speaks. -/
theorem forwardsExactly_of_rejectedStaysPut_repeated :
    ForwardsExactly (newRouter none true true) [.registerSession (newSession 0 1 5 0 (some 10)),
      .registerSession (newSession 0 2 5 0 (some 20)),
      .datagram 1 .none (frame typeHandshake 1 5 [0x78]) 10,
      .datagram 2 .none (frame typeVoice 1 5 [0x61]) 10] := by
  refine forwardsExactly_of_rejectedStaysPut none true true _ ?_
  simp only [RejectedStaysPut, Machine.along_cons_iff]
  refine ⟨?_, ?_, ?_, ?_, Machine.along_nil⟩
  · rintro _ _ _ ⟨_, _, ⟨⟩, -⟩
  · rintro _ _ _ ⟨_, _, ⟨⟩, -⟩
  · rintro now fault pkt hshake - s hs
    obtain ⟨-, -, hdec, -⟩ := handshake_datagram_iff.mp hshake
    cases hdec
    cases hs
    rfl
  · rintro now fault pkt hshake
    obtain ⟨-, -, hdec, htype⟩ := handshake_datagram_iff.mp hshake
    cases hdec
    exact absurd htype (by decide)

/-- Users 1 and 2 are in channel 5, and user 2 names channel 6 in a handshake
with a made-up token. -/
def strayedListener : List (PlaneEvent Nat) :=
  [.registerSession (newSession 0 1 5 0 (some 10)), .registerSession (newSession 0 2 5 0 (some 20)),
    .datagram 1 .none (frame typeHandshake 2 6 [0x78]) 20]

/-- User 2, by now in channel 6, is still sent what user 1 says in channel 5. -/
theorem strayed_listener_hears_old_room :
    ¬ ForwardsExactly (newRouter (some ∅) true true)
      (strayedListener ++ [.datagram 2 .none (frame typeVoice 1 5 [0x61]) 10]) := by
  intro hexact
  obtain ⟨peers, hpeers, hwritten⟩ := hexact strayedListener _ [] rfl _ _ _
    ⟨2, .none, rfl, rfl, by decide⟩ rfl rfl
  obtain ⟨v, rfl⟩ : ∃ v, peers = [(v, 20)] := by
    have hone : peers.map (fun p => (frame typeVoice 1 5 [0x61], p.2)) =
        [(frame typeVoice 1 5 [0x61], 20)] := hwritten.symm.trans (by decide)
    obtain ⟨⟨v, a⟩, rfl, hp⟩ := List.map_eq_singleton_iff.mp hone
    cases hp
    exact ⟨v, rfl⟩
  obtain ⟨-, s, hs, hchannel, haddr, -⟩ := (hpeers.2 v 20).mp (by simp)
  obtain ⟨ref, hreg, rfl⟩ := Option.map_eq_some_iff.mp hs
  have hnobody : ∀ e ∈ (media.run (newRouter (some ∅) true true) strayedListener).sessions.byUser.pairs,
      ¬ (((media.run (newRouter (some ∅) true true) strayedListener).sessions.heap e.2).channelID = 5 ∧
        ((media.run (newRouter (some ∅) true true) strayedListener).sessions.heap e.2).addr = some 20) := by
    decide
  exact hnobody (v, ref) ((GoMap.mem_pairs_iff _ v ref).mpr hreg) ⟨hchannel, haddr⟩

end low_latency_voice.plane
