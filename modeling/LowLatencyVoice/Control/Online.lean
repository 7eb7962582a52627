import LowLatencyVoice.Control.Arrivals
import LowLatencyVoice.Control.Presence
import LowLatencyVoice.Lib.Writes

open low_latency_voice.model low_latency_voice.storage low_latency_voice.audio low_latency_voice.auth

namespace low_latency_voice.control

/-- Whom an event tells to be online or offline. -/
def Event.presence : Event → Option (UInt32 × Bool)
  | .presenceUpdate userID _ online => some (userID, online)
  | _ => none

/-- All that broadcasts tell of who is online. -/
def presences (broadcasts : List Broadcast) : List (UInt32 × Bool) :=
  broadcasts.filterMap fun broadcast => broadcast.event.presence

/-- Who was online before the broadcasts, and what they tell, is who is online after. -/
def TellsPresence (h : Hub) (broadcasts : List Broadcast) (h' : Hub) : Prop :=
  Writes.apply h.isUserOnline (presences broadcasts) = h'.isUserOnline

namespace TellsPresence

variable {h h' h'' : Hub} {broadcasts broadcasts' : List Broadcast}

theorem silent (husers : h'.userClients = h.userClients) : TellsPresence h [] h' := by
  funext u
  change h.isUserOnline u = h'.isUserOnline u
  rw [Hub.isUserOnline, ← husers, Hub.isUserOnline]

theorem refl (h : Hub) : TellsPresence h [] h := silent rfl

theorem append (htells : TellsPresence h broadcasts h') (htells' : TellsPresence h' broadcasts' h'') :
    TellsPresence h (broadcasts ++ broadcasts') h'' := by
  rw [TellsPresence, presences, List.filterMap_append, Writes.apply_append]
  exact (congrArg (Writes.apply · _) htells).trans htells'

/-- One more broadcast, about something else. -/
theorem cons (htells : TellsPresence h broadcasts h') {broadcast : Broadcast}
    (hnone : broadcast.event.presence = none) : TellsPresence h (broadcast :: broadcasts) h' := by
  rw [TellsPresence, presences, List.filterMap_cons_none (f := fun b : Broadcast => b.event.presence) hnone]
  exact htells

/-- A broadcast about something else tells nothing, if it is there. -/
theorem onlyIf (h : Hub) {p : Prop} [Decidable p] {broadcast : Broadcast} (hnone : broadcast.event.presence = none) :
    TellsPresence h (if p then [broadcast] else []) h := by
  split
  · exact (refl h).cons hnone
  · exact refl h

/-- A user who signs in is online. -/
theorem signIn (h : Hub) (c : ClientID) (user : User) :
    TellsPresence h [broadcastEvent (.presenceUpdate user.id user.username true)]
      ((h.updateClient c fun client => client.signIn user).addUserClient user.id c) := by
  funext u
  change Function.update h.isUserOnline user.id true u = _
  rw [Bool.eq_iff_iff, Hub.isUserOnline_iff]
  simp only [Hub.listed_addUserClient]
  by_cases hu : u = user.id
  · rw [hu, Function.update_self]
    exact iff_of_true rfl ⟨c, .inl ⟨rfl, rfl⟩⟩
  · rw [Function.update_of_ne hu, Hub.isUserOnline_iff]
    refine exists_congr fun c' => ⟨.inr, fun hlisted => ?_⟩
    exact hlisted.resolve_left fun hnew => hu hnew.1

/-- A user whose last connection is gone is told to be offline. -/
theorem disconnect {c : ClientID} (hreg : h.Registered c) :
    TellsPresence h
      (if (h.handleClientDisconnect c).1.clientsOf (h.conn c).userID = [] then
        [broadcastEvent (.presenceUpdate (h.conn c).userID (h.conn c).username false)] else [])
      (h.handleClientDisconnect c).1 := by
  have hlisted := (Hub.handleClientDisconnect_of_registered hreg).2.2.1
  generalize (h.handleClientDisconnect c).1 = h' at hlisted ⊢
  have hothers : ∀ u, u ≠ (h.conn c).userID → h'.isUserOnline u = h.isUserOnline u := by
    intro u hu
    rw [Bool.eq_iff_iff, Hub.isUserOnline_iff, Hub.isUserOnline_iff]
    exact exists_congr fun c' => (hlisted u c').trans (and_iff_left fun hgone => hu hgone.2.1)
  have honline : h'.isUserOnline (h.conn c).userID = true ↔ h'.clientsOf (h.conn c).userID ≠ [] := by
    rw [Hub.isUserOnline_iff, ← List.length_pos_iff, List.length_pos_iff_exists_mem]
    exact exists_congr fun c' => Hub.mem_clientsOf.symm
  funext u
  by_cases hlast : h'.clientsOf (h.conn c).userID = []
  · rw [if_pos hlast]
    change Function.update h.isUserOnline (h.conn c).userID false u = _
    by_cases hu : u = (h.conn c).userID
    · rw [hu, Function.update_self]
      exact (Bool.eq_false_iff.mpr fun hon => honline.mp hon hlast).symm
    · rw [Function.update_of_ne hu, hothers u hu]
  · rw [if_neg hlast]
    change h.isUserOnline u = _
    by_cases hu : u = (h.conn c).userID
    · rw [hu, honline.mpr hlast, Hub.isUserOnline_iff]
      obtain ⟨c', hc'⟩ := List.exists_mem_of_ne_nil _ hlast
      exact ⟨c', ((hlisted _ c').mp (Hub.mem_clientsOf.mp hc')).1⟩
    · rw [hothers u hu]

end TellsPresence

namespace Backend

variable {Addr : Type}

section step

variable (b : Backend Addr) (go : GoLibrary) (x : Env) (c : ClientID) (params : Params)

theorem tellsPresence_handleRegister :
    TellsPresence b.hub (b.handleRegister go x c params).broadcasts (b.handleRegister go x c params).backend.hub := by
  unfold handleRegister
  split
  · exact .silent rfl
  · exact (TellsPresence.signIn b.hub c _).cons rfl

theorem tellsPresence_handleLogin :
    TellsPresence b.hub (b.handleLogin go x c params).broadcasts (b.handleLogin go x c params).backend.hub := by
  unfold handleLogin
  split
  · exact .silent rfl
  · exact .signIn b.hub c _

theorem tellsPresence_handleAuth :
    TellsPresence b.hub (b.handleAuth go x c params).broadcasts (b.handleAuth go x c params).backend.hub := by
  unfold handleAuth
  simp only
  split
  · exact .refl b.hub
  split
  · exact .silent rfl
  split
  · exact .silent rfl
  · exact .signIn b.hub c _

theorem tellsPresence_handleJoinVoice :
    TellsPresence b.hub (b.handleJoinVoice x c params).broadcasts (b.handleJoinVoice x c params).backend.hub := by
  obtain ⟨-, hbackend, hbroadcasts⟩ | ⟨row, hub, hjoins, hcases⟩ := b.handleJoinVoice_cases x c params
  · rw [hbackend, hbroadcasts]
    exact .refl b.hub
  have husers : TellsPresence b.hub [] hub := .silent (Hub.joinVoice_ok hjoins.joined).2.2.2.1
  obtain ⟨voiceTokens, -, hbackend, hbroadcasts⟩ | ⟨voiceTokens, vt, -, hbackend, hbroadcasts⟩ := hcases
  · rw [hbackend, hbroadcasts]
    exact husers
  · rw [hbackend, hbroadcasts]
    exact husers.cons rfl

theorem tellsPresence_handleMoveMember :
    TellsPresence b.hub (b.handleMoveMember c params).broadcasts (b.handleMoveMember c params).backend.hub := by
  unfold handleMoveMember
  simp only
  split
  · exact .refl b.hub
  split
  · exact .refl b.hub
  rename_i hmove
  obtain ⟨_, -, -, -, husers, -⟩ := Hub.moveMember_eq_some hmove
  exact ((TellsPresence.silent husers).cons rfl).cons rfl

theorem tellsPresence_handleSetServerFlag (flag : ModFlag) (action key denied : String) :
    TellsPresence b.hub (b.handleSetServerFlag c params flag action key denied).broadcasts
      (b.handleSetServerFlag c params flag action key denied).backend.hub := by
  unfold handleSetServerFlag
  split
  · exact .refl b.hub
  · exact (TellsPresence.silent (b.hub.withVoiceState_fields _ _).2.1).cons rfl

variable [DecidableEq Addr]

theorem tellsPresence_unregisterClient :
    TellsPresence b.hub (b.unregisterClient c).2 (b.unregisterClient c).1.hub := by
  have husers := b.hub.userClients_handleClientDisconnect c
  unfold Backend.unregisterClient
  by_cases hreg : b.hub.Registered c
  swap
  · rw [if_pos (Hub.get?_eq_none_iff_not_registered.mpr hreg)]
    exact .refl b.hub
  have hthere : b.hub.clients.get? c ≠ none := fun hnone => Hub.get?_eq_none_iff_not_registered.mp hnone hreg
  rw [if_neg hthere]
  simp only
  by_cases hauth : (b.hub.conn c).isAuthenticated = true
  · rw [if_pos hauth]
    exact (TellsPresence.onlyIf b.hub rfl).append (.disconnect hreg)
  · rw [if_neg fun hboth => hauth hboth.2] at husers
    rw [if_neg hauth]
    exact .silent husers

theorem tellsPresence_foldl_closeClient {h : Hub} (cs : List ClientID) : ∀ {acc : Backend Addr × List Broadcast},
    TellsPresence h acc.2 acc.1.hub →
      TellsPresence h (cs.foldl closeClient acc).2 (cs.foldl closeClient acc).1.hub := by
  induction cs with
  | nil => exact id
  | cons c cs ih =>
    intro acc htells
    rw [List.foldl_cons]
    exact ih (htells.append (tellsPresence_unregisterClient acc.1 c))

theorem tellsPresence_handleKickMember :
    TellsPresence b.hub (b.handleKickMember go x c params).broadcasts
      (b.handleKickMember go x c params).backend.hub := by
  unfold handleKickMember
  simp only
  split
  · exact .refl b.hub
  split
  · exact .refl b.hub
  have husers := (b.hub.kickMember_spec (getUInt32 params "target_user_id")).2.2.1
  refine (tellsPresence_foldl_closeClient _ (.silent husers)).append ?_
  exact (TellsPresence.onlyIf _ rfl).cons rfl

theorem tellsPresence_handleLeaveVoice :
    TellsPresence b.hub (b.handleLeaveVoice c).broadcasts (b.handleLeaveVoice c).backend.hub := by
  have husers : (b.hub.leaveVoice c).userClients = b.hub.userClients := by
    by_cases hactive : 0 < (b.hub.conn c).activeVoiceChannel
    · rw [Hub.leaveVoice_of_pos hactive]
    · rw [Hub.leaveVoice_of_not_pos hactive]
  unfold handleLeaveVoice
  simp only
  split
  · exact (TellsPresence.silent husers).cons rfl
  · exact .silent husers

/-- Whatever a handler does, its broadcasts tell who is online after it. -/
theorem tellsPresence_handleAction (a : Action) :
    TellsPresence b.hub (b.handleAction go x c params a).broadcasts
      (b.handleAction go x c params a).backend.hub := by
  cases a with
  | register => exact b.tellsPresence_handleRegister go x c params
  | login => exact b.tellsPresence_handleLogin go x c params
  | auth => exact b.tellsPresence_handleAuth go x c params
  | joinVoice => exact b.tellsPresence_handleJoinVoice x c params
  | leaveVoice => exact b.tellsPresence_handleLeaveVoice c
  | setVoiceState => exact (TellsPresence.silent (b.hub.withVoiceState_fields _ _).2.1).cons rfl
  | moveMember => exact b.tellsPresence_handleMoveMember c params
  | setServerFlag flag => cases flag <;> exact b.tellsPresence_handleSetServerFlag c params _ _ _ _
  | kickMember => exact b.tellsPresence_handleKickMember go x c params
  | ping => exact .refl b.hub
  | getChannels | getChatHistory | getRoster =>
    simp only [handleAction, handleGetChannels, handleGetChatHistory, handleGetRoster]
    repeat' split
    all_goals exact .refl b.hub
  | createChannel | deleteChannel | sendChat =>
    simp only [handleAction, handleCreateChannel, handleDeleteChannel, handleSendChat]
    repeat' split
    all_goals exact .refl b.hub

theorem tellsPresence_handleMessage (raw : GoBytes) :
    TellsPresence b.hub (b.handleMessage go x c raw).broadcasts (b.handleMessage go x c raw).backend.hub := by
  unfold handleMessage
  split
  · exact .refl b.hub
  simp only
  split
  · exact .refl b.hub
  split
  · exact .refl b.hub
  split
  · exact b.tellsPresence_handleAction go x c _ _
  · exact .refl b.hub

end step

variable [DecidableEq Addr]

/-- The broadcasts an arrival ends in. -/
def announce (go : GoLibrary) (b : Backend Addr) : Arrival Addr → List Broadcast
  | .frame c x raw => (b.handleMessage go x c raw).broadcasts
  | .disconnect c => (b.unregisterClient c).2
  | .datagram now fault data srcAddr =>
    (b.router.handlePacket now fault data srcAddr).2.notified.flatMap fun notice =>
      (b.hub.broadcastVoiceState notice.channelID notice.userID notice.speaking notice.energy).2
  | _ => []

/-- The server, as its clients hear of it. -/
def announcer (go : GoLibrary) : Machine (Backend Addr) (Arrival Addr) (List Broadcast) where
  step b arrival := (b.arrive go arrival, b.announce go arrival)

theorem tellsPresence_notices (notices : List VoiceStateNotice) (h h₀ : Hub) :
    TellsPresence h (notices.flatMap fun notice =>
      (h₀.broadcastVoiceState notice.channelID notice.userID notice.speaking notice.energy).2)
      (notices.foldl Hub.noticed h) := by
  induction notices generalizing h with
  | nil => exact .refl h
  | cons notice notices ih =>
    have hone : TellsPresence h (h₀.broadcastVoiceState notice.channelID notice.userID notice.speaking
        notice.energy).2 (h.noticed notice) :=
      (TellsPresence.silent (h.withVoiceState_fields _ _).2.1).cons rfl
    rw [List.flatMap_cons, List.foldl_cons]
    exact hone.append (ih _)

variable (go : GoLibrary) {b : Backend Addr}

theorem tellsPresence_arrive {arrival : Arrival Addr} (hno : arrival ≠ .restart) :
    TellsPresence b.hub (b.announce go arrival) (b.arrive go arrival).hub := by
  cases arrival with
  | connect c =>
    refine .silent ?_
    change (b.hub.registerClient c).userClients = b.hub.userClients
    unfold Hub.registerClient
    split <;> rfl
  | frame c x raw => exact b.tellsPresence_handleMessage go x c raw
  | disconnect c => exact b.tellsPresence_unregisterClient c
  | datagram now fault data srcAddr => exact tellsPresence_notices _ b.hub b.hub
  | sweep now maxIdle => exact .refl b.hub
  | restart => exact absurd rfl hno

/-- As long as the server is up, its broadcasts tell who is online. -/
theorem tellsPresence_run {arrivals : List (Arrival Addr)} (hno : .restart ∉ arrivals) :
    TellsPresence b.hub ((announcer go).outputs b arrivals) ((announcer go).run b arrivals).hub := by
  induction arrivals generalizing b with
  | nil => exact .refl b.hub
  | cons arrival arrivals ih =>
    rw [List.mem_cons, not_or] at hno
    exact (tellsPresence_arrive go fun hrestart => hno.1 hrestart.symm).append (ih hno.2)

end Backend

end low_latency_voice.control
