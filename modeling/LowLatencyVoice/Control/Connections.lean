import LowLatencyVoice.Control.ServerLaws

open low_latency_voice.model low_latency_voice.storage low_latency_voice.audio

namespace low_latency_voice.control

/-- The connection stands in no voice channel but its active one, and only while
it is registered and authenticated. -/
def Hub.Tidy (h : Hub) (c : ClientID) : Prop :=
  ∀ room, h.InRoom room c → room = (h.conn c).activeVoiceChannel ∧ room ≠ 0 ∧ h.Registered c ∧
    (h.conn c).isAuthenticated = true

namespace server

variable {Addr : Type} [DecidableEq Addr]

/-- What an action does to the hub: one of its lock regions, or nothing. -/
inductive HubChange (h : Hub) (x : Choice) : Act Addr → Hub → Prop where
  | untouched {a : Act Addr} (hregister : ∀ c, a ≠ .registerClient c)
      (hdisconnect : ∀ c, a = .handleClientDisconnect c → ¬ h.Registered c) : HubChange h x a h
  | registerClient (c : ClientID) : HubChange h x (.registerClient c) (h.registerClient c)
  | signIn (c : ClientID) (user : User) :
      HubChange h x (.signIn c user) (h.updateClient c fun client => client.signIn user)
  | addUserClient (userID : UInt32) (c : ClientID) :
      HubChange h x (.addUserClient userID c) (h.addUserClient userID c)
  | joinVoice {c : ClientID} {room : UInt32} {channel : Channel} {selfMuted selfDeafened : Bool} {h' : Hub}
      (hok : h.joinVoice x.now c room channel selfMuted selfDeafened = .ok h') :
      HubChange h x (.joinVoice c room channel selfMuted selfDeafened) h'
  | leaveVoice {c : ClientID} (hactive : 0 < (h.conn c).activeVoiceChannel) :
      HubChange h x (.leaveVoice c) { h with
        voiceChannels := h.voiceChannels.drop₂ (h.conn c).activeVoiceChannel c
        voiceStates := h.voiceStates.delete (h.conn c).userID
        conn := Function.update h.conn c { h.conn c with activeVoiceChannel := 0 } }
  | setVoiceState (c : ClientID) (selfMuted selfDeafened isSpeaking : Bool) :
      HubChange h x (.setVoiceState c selfMuted selfDeafened isSpeaking)
        (h.setVoiceState x.now c selfMuted selfDeafened isSpeaking)
  | setFlag (flag : ModFlag) (targetUserID : UInt32) (value : Bool) :
      HubChange h x (.setFlag flag targetUserID value) (h.setFlag flag targetUserID value)
  | moveMember {targetUserID room : UInt32} {h' : Hub} (hmove : h.moveMember targetUserID room = some h') :
      HubChange h x (.moveMember targetUserID room) h'
  | kickMember (targetUserID : UInt32) :
      HubChange h x (.kickMember targetUserID) (h.kickMember targetUserID).1
  | handleClientDisconnect {c : ClientID} (hreg : h.Registered c) :
      HubChange h x (.handleClientDisconnect c) (h.handleClientDisconnect c).1

/-- The inversion of one action, for the hub. -/
theorem hubChange_act (w : World Addr) (x : Choice) (a : Act Addr) :
    HubChange w.hub x a (act w x a).1.hub := by
  cases a with
  | registerClient c => exact .registerClient c
  | signIn c user => exact .signIn c user
  | addUserClient userID c => exact .addUserClient userID c
  | joinVoice c room channel selfMuted selfDeafened =>
    simp only [act]
    cases hjoin : w.hub.joinVoice x.now c room channel selfMuted selfDeafened with
    | error refusal => exact .untouched (by simp) (by simp)
    | ok h' => exact .joinVoice hjoin
  | leaveVoice c =>
    simp only [act]
    by_cases hactive : 0 < (w.hub.conn c).activeVoiceChannel
    · rw [Hub.leaveVoice_of_pos hactive]
      exact .leaveVoice hactive
    · rw [Hub.leaveVoice_of_not_pos hactive]
      exact .untouched (by simp) (by simp)
  | setVoiceState c selfMuted selfDeafened isSpeaking =>
    exact .setVoiceState c selfMuted selfDeafened isSpeaking
  | setFlag flag targetUserID value => exact .setFlag flag targetUserID value
  | moveMember targetUserID room =>
    simp only [act]
    cases hmove : w.hub.moveMember targetUserID room with
    | none => exact .untouched (by simp) (by simp)
    | some h' => exact .moveMember hmove
  | kickMember targetUserID => exact .kickMember targetUserID
  | handleClientDisconnect c =>
    by_cases hreg : w.hub.Registered c
    · exact .handleClientDisconnect hreg
    · simp only [act, Hub.handleClientDisconnect_of_not_registered hreg]
      refine .untouched (by simp) ?_
      intro c' heq
      cases heq
      exact hreg
  | getSession | getUserWithRoles | createSession | getChannelByID | generateUDPToken | lookupFlag |
    activatePending | consumeVoiceToken | getByUser =>
    have hsame : ∀ (a : Act Addr) (h' : Hub), h' = w.hub → (∀ c, a ≠ .registerClient c) →
        (∀ c, a ≠ .handleClientDisconnect c) → HubChange w.hub x a h' := by
      intro a h' heq hregister hdisconnect
      rw [heq]
      exact .untouched hregister fun c ha => absurd ha (hdisconnect c)
    refine hsame _ _ ?_ (by simp) (by simp)
    simp only [act]
    repeat' split
    all_goals rfl
  | deleteSession | registerPending | removeSession | moveSession | writeFlag | deleteUserSessions |
    revokeVoiceTokens | registerSession | retune | updateAddr | cleanStaleSessions =>
    exact .untouched (by simp) (by simp)

/-- A registered connection is closed by its disconnect. -/
theorem conn_of_disconnect {h : Hub} {c : ClientID} (hreg : h.Registered c) :
    (h.handleClientDisconnect c).1.conn = Function.update h.conn c (h.conn c).close := by
  rw [Hub.conn_handleClientDisconnect, if_neg]
  exact fun hnone => Hub.get?_eq_none_iff_not_registered.mp hnone hreg

/-- What an action can do to a client object. -/
inductive ConnChange (h : Hub) (a : Act Addr) (c : ClientID) (client : Client) : Client → Prop where
  | kept : ConnChange h a c client client
  | signedIn {user : User} (ha : a = .signIn c user) : ConnChange h a c client (client.signIn user)
  | joined {room : UInt32} {channel : Channel} {selfMuted selfDeafened : Bool}
      (ha : a = .joinVoice c room channel selfMuted selfDeafened) :
      ConnChange h a c client { client with activeVoiceChannel := room }
  | left (ha : a = .leaveVoice c) : ConnChange h a c client { client with activeVoiceChannel := 0 }
  | moved {targetUserID room : UInt32} (ha : a = .moveMember targetUserID room)
      (hlisted : h.Listed targetUserID c) :
      ConnChange h a c client { client with activeVoiceChannel := room }
  | closed (ha : a = .handleClientDisconnect c) : ConnChange h a c client client.close

/-- The inversion of one action, for a client object. -/
theorem connChange_act (w : World Addr) (x : Choice) (a : Act Addr) (c : ClientID) :
    ConnChange w.hub a c (w.hub.conn c) ((act w x a).1.hub.conn c) := by
  have hchange := hubChange_act w x a
  have hupdate : ∀ (c' : ClientID) (client : Client),
      (c = c' → ConnChange w.hub a c (w.hub.conn c) client) →
      ConnChange w.hub a c (w.hub.conn c) (Function.update w.hub.conn c' client c) := by
    intro c' client hself
    by_cases hc : c = c'
    · subst c'
      rw [Function.update_self]
      exact hself rfl
    · rw [Function.update_of_ne hc]
      exact .kept
  generalize (act w x a).1.hub = h' at hchange ⊢
  cases hchange with
  | untouched _ _ => exact .kept
  | registerClient c' =>
    unfold Hub.registerClient
    split <;> exact .kept
  | signIn c' user => exact hupdate c' _ fun hc => hc ▸ .signedIn rfl
  | addUserClient userID c' => exact .kept
  | joinVoice hok =>
    rw [(Hub.joinVoice_ok hok).2.2.2.2.1]
    exact hupdate _ _ fun hc => hc ▸ .joined rfl
  | leaveVoice _ => exact hupdate _ _ fun hc => hc ▸ .left rfl
  | setVoiceState c' selfMuted selfDeafened isSpeaking =>
    rw [Hub.setVoiceState, (Hub.withVoiceState_fields _ _ _).2.2.2]
    exact .kept
  | setFlag flag targetUserID value =>
    rw [Hub.setFlag, (Hub.withVoiceState_fields _ _ _).2.2.2]
    exact .kept
  | moveMember hmove =>
    obtain ⟨_, -, -, -, -, -, hconn, -⟩ := Hub.moveMember_eq_some hmove
    rw [hconn]
    split
    · rename_i hmem
      exact .moved rfl (Hub.mem_clientsOf.mp hmem)
    · exact .kept
  | kickMember targetUserID =>
    rw [(w.hub.kickMember_spec targetUserID).2.2.2.1]
    exact .kept
  | handleClientDisconnect hreg =>
    rw [conn_of_disconnect hreg]
    exact hupdate _ _ fun hc => hc ▸ .closed rfl

/-- Which connections are registered after an action. -/
theorem registered_act (w : World Addr) (x : Choice) (a : Act Addr) (c : ClientID) :
    (act w x a).1.hub.Registered c ↔
      (w.hub.Registered c ∨ a = .registerClient c ∧ (w.hub.conn c).closed = false) ∧
        a ≠ .handleClientDisconnect c := by
  have hchange := hubChange_act w x a
  generalize (act w x a).1.hub = h' at hchange ⊢
  have hsame : h'.clients = w.hub.clients → (∀ c, a ≠ .registerClient c) →
      (∀ c, a ≠ .handleClientDisconnect c) → (h'.Registered c ↔
        (w.hub.Registered c ∨ a = .registerClient c ∧ (w.hub.conn c).closed = false) ∧
          a ≠ .handleClientDisconnect c) := by
    intro hclients hregister hdisconnect
    simp [Hub.Registered, hclients, hregister, hdisconnect]
  cases hchange with
  | untouched hregister hdisconnect =>
    simp only [hregister, false_and, or_false]
    exact ⟨fun hreg => ⟨hreg, fun ha => hdisconnect c ha hreg⟩, fun hcase => hcase.1⟩
  | registerClient c' =>
    unfold Hub.registerClient
    split
    · rename_i hclosed
      constructor
      · exact fun hreg => ⟨.inl hreg, by simp⟩
      · intro hcase
        obtain ⟨hreg | ⟨heq, hopen⟩, -⟩ := hcase
        · exact hreg
        · cases heq
          rw [hclosed] at hopen
          cases hopen
    · rename_i hopen
      by_cases hc : c = c'
      · subst c'
        simp [Hub.Registered, hopen]
      · have hc' : c' ≠ c := fun h => hc h.symm
        simp [Hub.Registered, hc, hc']
  | signIn | addUserClient | leaveVoice => exact hsame rfl (by simp) (by simp)
  | joinVoice hok => exact hsame (Hub.joinVoice_ok hok).2.2.1 (by simp) (by simp)
  | setVoiceState | setFlag => exact hsame (Hub.withVoiceState_fields _ _ _).1 (by simp) (by simp)
  | moveMember hmove =>
    obtain ⟨_, -, -, hclients, -⟩ := Hub.moveMember_eq_some hmove
    exact hsame hclients (by simp) (by simp)
  | kickMember targetUserID =>
    exact hsame (w.hub.kickMember_spec targetUserID).2.1 (by simp) (by simp)
  | @handleClientDisconnect c' hreg =>
    have hne : (Act.handleClientDisconnect c' : Act Addr) ≠ .handleClientDisconnect c ↔ c ≠ c' := by
      rw [Ne, Act.handleClientDisconnect.injEq, eq_comm]
    rw [hne]
    refine Iff.trans ((Hub.handleClientDisconnect_of_registered hreg).2.1 c) (and_congr_left' ?_)
    simp

/-- Only a sign-in and a disconnect write `userClients`. -/
theorem userClients_act_of_ne {w : World Addr} {x : Choice} {a : Act Addr}
    (hadd : ∀ u c, a ≠ .addUserClient u c) (hdisconnect : ∀ c, a ≠ .handleClientDisconnect c) :
    (act w x a).1.hub.userClients = w.hub.userClients := by
  have hchange := hubChange_act w x a
  generalize (act w x a).1.hub = h' at hchange ⊢
  cases hchange with
  | untouched | signIn | leaveVoice => rfl
  | registerClient c' =>
    unfold Hub.registerClient
    split <;> rfl
  | addUserClient userID c' => exact absurd rfl (hadd userID c')
  | joinVoice hok => exact (Hub.joinVoice_ok hok).2.2.2.1
  | setVoiceState | setFlag => exact (Hub.withVoiceState_fields _ _ _).2.1
  | moveMember hmove =>
    obtain ⟨_, -, -, -, husers, -⟩ := Hub.moveMember_eq_some hmove
    exact husers
  | kickMember targetUserID => exact (w.hub.kickMember_spec targetUserID).2.2.1
  | @handleClientDisconnect c' hreg => exact absurd rfl (hdisconnect c')

/-- What an action can do to `userClients`. -/
inductive UserClientsChange (h : Hub) (a : Act Addr) : GoMap UInt32 ClientSet → Prop where
  | kept (hadd : ∀ u c, a ≠ .addUserClient u c)
      (hstays : ∀ c, a = .handleClientDisconnect c → h.Registered c → (h.conn c).isAuthenticated = false) :
      UserClientsChange h a h.userClients
  | added {u : UInt32} {c : ClientID} (ha : a = .addUserClient u c) :
      UserClientsChange h a (h.userClients.put₂ u c ())
  | removed {c : ClientID} (ha : a = .handleClientDisconnect c) (hreg : h.Registered c)
      (hauth : (h.conn c).isAuthenticated = true) :
      UserClientsChange h a (h.userClients.prune₂ (h.conn c).userID c)

/-- The inversion of one action, for `userClients`. -/
theorem userClientsChange_act (w : World Addr) (x : Choice) (a : Act Addr) :
    UserClientsChange w.hub a (act w x a).1.hub.userClients := by
  by_cases hadd : ∃ u c, a = .addUserClient u c
  · obtain ⟨u, c, rfl⟩ := hadd
    exact .added rfl
  by_cases hdisconnect : ∃ c, a = .handleClientDisconnect c
  · obtain ⟨c, rfl⟩ := hdisconnect
    have husers : (act w x (.handleClientDisconnect c)).1.hub.userClients =
        (w.hub.handleClientDisconnect c).1.userClients := rfl
    rw [husers, Hub.userClients_handleClientDisconnect]
    split
    · rename_i hcase
      exact .removed rfl hcase.1 hcase.2
    · rename_i hcase
      refine .kept (by simp) ?_
      intro c' heq hreg
      cases heq
      exact Bool.eq_false_iff.mpr fun hauth => hcase ⟨hreg, hauth⟩
  · have hadd' : ∀ u c, a ≠ .addUserClient u c := fun u c ha => hadd ⟨u, c, ha⟩
    have hdisconnect' : ∀ c, a ≠ .handleClientDisconnect c := fun c ha => hdisconnect ⟨c, ha⟩
    rw [userClients_act_of_ne hadd' hdisconnect']
    exact .kept hadd' fun c ha => absurd ha (hdisconnect' c)

/-- Which connections are listed after an action. -/
theorem listed_act_iff (w : World Addr) (x : Choice) (a : Act Addr) (u : UInt32) (c : ClientID) :
    (act w x a).1.hub.Listed u c ↔ (w.hub.Listed u c ∨ a = .addUserClient u c) ∧
      ¬ (a = .handleClientDisconnect c ∧ w.hub.Registered c ∧ w.hub.AuthenticatedAs u c) := by
  have hchange := userClientsChange_act w x a
  unfold Hub.Listed
  generalize (act w x a).1.hub.userClients = users at hchange ⊢
  cases hchange with
  | kept hadd hstays =>
    simp only [hadd u c, or_false]
    refine ⟨fun hlisted => ⟨hlisted, ?_⟩, fun hcase => hcase.1⟩
    intro hcase
    obtain ⟨ha, hreg, hauth, -⟩ := hcase
    rw [hstays c ha hreg] at hauth
    cases hauth
  | @added u' c' ha =>
    subst ha
    rw [GoMap.get₂_put₂, Act.addUserClient.injEq]
    by_cases hsame : u = u' ∧ c = c'
    · simp [hsame]
    · have hsame' : ¬ (u' = u ∧ c' = c) := fun hcase => hsame ⟨hcase.1.symm, hcase.2.symm⟩
      simp [hsame, hsame']
  | @removed c' ha hreg hauth =>
    subst ha
    rw [GoMap.get₂_prune₂]
    by_cases hsame : u = (w.hub.conn c').userID ∧ c = c'
    · obtain ⟨rfl, rfl⟩ := hsame
      simp [hreg, Hub.AuthenticatedAs, hauth]
    · rw [if_neg hsame]
      refine ⟨fun hlisted => ⟨.inl hlisted, ?_⟩, fun hcase => hcase.1.resolve_right (by simp)⟩
      intro hcase
      obtain ⟨heq, -, -, hid⟩ := hcase
      cases heq
      exact hsame ⟨hid.symm, rfl⟩

/-- Only the disconnect of a connection takes it out of `userClients`. -/
theorem listed_act {w : World Addr} {x : Choice} {a : Act Addr} {u : UInt32} {c : ClientID}
    (h : w.hub.Listed u c) (hne : a ≠ .handleClientDisconnect c) : (act w x a).1.hub.Listed u c :=
  (listed_act_iff w x a u c).mpr ⟨.inl h, fun hcase => hne hcase.1⟩

/-- Only a sign-in changes whose connection it is. -/
theorem identity_act (w : World Addr) (x : Choice) (a : Act Addr) (c : ClientID) :
    (∃ user, a = .signIn c user ∧ (act w x a).1.hub.conn c = (w.hub.conn c).signIn user) ∨
      ((act w x a).1.hub.conn c).userID = (w.hub.conn c).userID ∧
        ((act w x a).1.hub.conn c).isAuthenticated = (w.hub.conn c).isAuthenticated := by
  have hchange := connChange_act w x a c
  generalize (act w x a).1.hub.conn c = client' at hchange ⊢
  cases hchange with
  | kept => exact .inr ⟨rfl, rfl⟩
  | signedIn ha => exact .inl ⟨_, ha, rfl⟩
  | joined | left | moved => exact .inr ⟨rfl, rfl⟩
  | closed _ => exact .inr ⟨Client.close_userID _, Client.close_isAuthenticated _⟩

theorem authenticated_act {w : World Addr} (x : Choice) (a : Act Addr) {c : ClientID}
    (h : (w.hub.conn c).isAuthenticated = true) :
    ((act w x a).1.hub.conn c).isAuthenticated = true := by
  obtain ⟨user, -, hconn⟩ | ⟨-, hauth⟩ := identity_act w x a c
  · rw [hconn]
    rfl
  · exact hauth.trans h

omit [DecidableEq Addr] in
theorem served_iff {h : Hub} {c : ClientID} : h.served c = true ↔
    h.Registered c ∨ (h.conn c).closed = true := by
  unfold Hub.served Hub.Registered
  cases h.clients.get? c <;> simp

theorem closed_act {w : World Addr} (x : Choice) (a : Act Addr) {c : ClientID}
    (h : (w.hub.conn c).closed = true) : ((act w x a).1.hub.conn c).closed = true := by
  have hchange := connChange_act w x a c
  generalize (act w x a).1.hub.conn c = client' at hchange ⊢
  cases hchange with
  | kept | signedIn | joined | left | moved => exact h
  | closed _ => exact Client.close_closed _

/-- A connection that was set up stays registered or closed. -/
theorem served_act {w : World Addr} (x : Choice) (a : Act Addr) {c : ClientID}
    (h : w.hub.served c = true) : (act w x a).1.hub.served c = true := by
  rw [served_iff] at h ⊢
  obtain hreg | hclosed := h
  · by_cases ha : a = .handleClientDisconnect c
    · right
      have hconn : (act w x a).1.hub.conn = (w.hub.handleClientDisconnect c).1.conn := by rw [ha]; rfl
      rw [hconn, conn_of_disconnect hreg, Function.update_self]
      exact Client.close_closed _
    · exact .inl ((registered_act w x a c).mpr ⟨.inl hreg, ha⟩)
  · exact .inr (closed_act x a hclosed)

/-- The connection an action signs in or takes into voice. -/
def Act.connection? : Act Addr → Option ClientID
  | .getSession c _ | .getUserWithRoles c _ | .createSession c _ | .signIn c _ | .addUserClient _ c
  | .getChannelByID c _ _ _ | .joinVoice c _ _ _ _ | .generateUDPToken c _ => some c
  | _ => none

/-- What is left of a request that signs a connection in or takes it into voice. -/
inductive Script (h : Hub) (c : ClientID) : List (Act Addr) → Prop where
  | getSession (token : Token) : Script h c [.getSession c token]
  | getUserWithRoles (userID : UInt32) : Script h c [.getUserWithRoles c userID]
  | createSession (user : User) : Script h c [.createSession c user]
  | signIn (user : User) : Script h c [.signIn c user, .addUserClient user.id c]
  | addUserClient (userID : UInt32) : Script h c [.addUserClient userID c]
  | getChannelByID {room : UInt32} {selfMuted selfDeafened : Bool}
      (hauth : (h.conn c).isAuthenticated = true) (hroom : room ≠ 0) :
      Script h c [.getChannelByID c room selfMuted selfDeafened]
  | joinVoice {room : UInt32} {channel : Channel} {selfMuted selfDeafened : Bool}
      (hauth : (h.conn c).isAuthenticated = true) (hroom : room ≠ 0) :
      Script h c [.joinVoice c room channel selfMuted selfDeafened]
  | generateUDPToken {room : UInt32} (hauth : (h.conn c).isAuthenticated = true) :
      Script h c [.generateUDPToken c room]

/-- What a goroutine still has to do: the script of its own connection, or
actions that neither sign in nor take into voice. -/
inductive AtWork (h : Hub) (g : Routine) (acts : List (Act Addr)) : Prop where
  | script {c : ClientID} (hg : g = .readPump c) (hserved : h.served c = true) (hscript : Script h c acts)
  | free (hfree : ∀ a ∈ acts, a.connection? = none)

omit [DecidableEq Addr] in
theorem Script.mono {h h' : Hub} {c : ClientID} {acts : List (Act Addr)} (hscript : Script h c acts)
    (hauth : (h.conn c).isAuthenticated = true → (h'.conn c).isAuthenticated = true) :
    Script h' c acts := by
  cases hscript with
  | getSession token => exact .getSession token
  | getUserWithRoles userID => exact .getUserWithRoles userID
  | createSession user => exact .createSession user
  | signIn user => exact .signIn user
  | addUserClient userID => exact .addUserClient userID
  | getChannelByID h hroom => exact .getChannelByID (hauth h) hroom
  | joinVoice h hroom => exact .joinVoice (hauth h) hroom
  | generateUDPToken h => exact .generateUDPToken (hauth h)

omit [DecidableEq Addr] in
/-- The script of a connection is all its read pump has to do. -/
theorem AtWork.script_of_mem {h : Hub} {g : Routine} {acts : List (Act Addr)} {a : Act Addr}
    {c : ClientID} (hwork : AtWork h g acts) (hmem : a ∈ acts) (hc : a.connection? = some c) :
    g = .readPump c ∧ h.served c = true ∧ Script h c acts := by
  cases hwork with
  | free hfree =>
    rw [hfree a hmem] at hc
    cases hc
  | @script c' hg hserved hscript =>
    have hcc : c' = c := by
      cases hscript <;> simp only [List.mem_cons, List.not_mem_nil, or_false] at hmem
      case signIn => obtain rfl | rfl := hmem <;> exact Option.some.inj hc
      all_goals
        subst hmem
        exact Option.some.inj hc
    subst c'
    exact ⟨hg, hserved, hscript⟩

/-- Other actions lead to other actions. -/
theorem connection?_act {w : World Addr} {x : Choice} {a : Act Addr} (h : a.connection? = none) :
    ∀ b ∈ (act w x a).2, b.connection? = none := by
  intro b hb
  cases a with
  | getSession | getUserWithRoles | createSession | signIn | addUserClient | getChannelByID | joinVoice |
    generateUDPToken => cases h
  | kickMember targetUserID =>
    simp only [act, List.mem_cons, List.mem_map] at hb
    obtain rfl | ⟨c, -, rfl⟩ := hb <;> rfl
  | registerClient | deleteSession | registerPending | leaveVoice | setVoiceState | removeSession |
    moveMember | moveSession | setFlag | lookupFlag | writeFlag | deleteUserSessions | revokeVoiceTokens |
    handleClientDisconnect | activatePending | consumeVoiceToken | getByUser | registerSession | retune |
    updateAddr | cleanStaleSessions =>
    simp only [act] at hb
    grind [Act.connection?]

omit [DecidableEq Addr] in
theorem AtWork.nil {h : Hub} {g : Routine} : AtWork h g ([] : List (Act Addr)) := .free (by simp)

/-- One action of a goroutine leaves it at work. -/
theorem AtWork.act {w : World Addr} (x : Choice) {g : Routine} {a : Act Addr} {rest : List (Act Addr)}
    (hwork : AtWork w.hub g (a :: rest)) :
    AtWork (act w x a).1.hub g ((act w x a).2 ++ rest) := by
  cases hwork with
  | free hfree =>
    refine .free ?_
    intro b hb
    obtain hnew | hrest := List.mem_append.mp hb
    · exact connection?_act (hfree a List.mem_cons_self) b hnew
    · exact hfree b (List.mem_cons_of_mem a hrest)
  | @script c hg hserved hscript =>
    have hserved' := served_act x a hserved
    have hauth' := authenticated_act (w := w) x a (c := c)
    cases hscript with
    | getSession token =>
      simp only [server.act]
      split
      · exact .script hg hserved (.getUserWithRoles _)
      · exact .free (by simp [Act.connection?])
      · exact .nil
    | getUserWithRoles userID =>
      simp only [server.act]
      split
      · exact .nil
      · exact .script hg hserved (.signIn _)
    | createSession user =>
      simp only [server.act]
      split
      · exact .nil
      · exact .script hg hserved (.signIn user)
    | signIn user => exact .script hg hserved' (.addUserClient user.id)
    | addUserClient userID => exact .free (by simp [server.act])
    | getChannelByID hauth hroom =>
      simp only [server.act]
      split
      · exact .nil
      · split
        · exact .script hg hserved (.joinVoice hauth hroom)
        · exact .nil
    | joinVoice hauth hroom =>
      replace hauth' := hauth' hauth
      simp only [server.act] at hserved' hauth' ⊢
      split
      · exact .nil
      · rename_i h' hjoin
        rw [hjoin] at hserved' hauth'
        exact .script hg hserved' (.generateUDPToken hauth')
    | generateUDPToken hauth =>
      simp only [server.act]
      split
      · exact .nil
      · exact .free (by simp [Act.connection?])

omit [DecidableEq Addr] in
theorem AtWork.mono {h h' : Hub} {g : Routine} {acts : List (Act Addr)} (hwork : AtWork h g acts)
    (hserved : ∀ c, h.served c = true → h'.served c = true)
    (hauth : ∀ c, (h.conn c).isAuthenticated = true → (h'.conn c).isAuthenticated = true) :
    AtWork h' g acts := by
  cases hwork with
  | script hg hs hscript => exact .script hg (hserved _ hs) (hscript.mono (hauth _))
  | free hfree => exact .free hfree

omit [DecidableEq Addr] in
/-- A gate lets through everything or nothing, and only for an authenticated connection. -/
theorem gated_cases (client : Client) (required : Option Permission) (acts : List (Act Addr)) :
    gated client required acts = [] ∨
      client.isAuthenticated = true ∧ gated client required acts = acts := by
  unfold gated
  split
  · exact .inl rfl
  · rename_i hauth
    rw [Bool.not_eq_false] at hauth
    split
    · exact .inr ⟨hauth, rfl⟩
    · split
      · exact .inr ⟨hauth, rfl⟩
      · exact .inl rfl

/-- The actions a handler can begin with. -/
def Act.begins : Act Addr → Bool
  | .registerClient _ | .getSession _ _ | .createSession _ _ | .getChannelByID _ _ _ _ | .leaveVoice _
  | .setVoiceState _ _ _ _ | .moveMember _ _ | .setFlag _ _ _ | .deleteUserSessions _
  | .revokeVoiceTokens _ | .kickMember _ | .handleClientDisconnect _ | .activatePending _ _
  | .cleanStaleSessions _ => true
  | _ => false

omit [DecidableEq Addr] in
/-- A request begins with nothing else. -/
theorem begins_of_mem_program {w : World Addr} {r : Request Addr} {a : Act Addr} (h : a ∈ program w r) :
    a.begins = true := by
  have hgated : ∀ (client : Client) (required : Option Permission) (acts : List (Act Addr)),
      (∀ b ∈ acts, b.begins = true) → a ∈ gated client required acts → a.begins = true := by
    intro client required acts hacts hmem
    obtain hnone | ⟨-, hall⟩ := gated_cases client required acts
    · simp [hnone] at hmem
    · rw [hall] at hmem
      exact hacts a hmem
  have hmem : a ∈ handle w r := by
    unfold program at h
    split at h
    · split at h
      · exact h
      · cases h
    · exact h
  cases r with
  | serveWs | unregister | handshake | cleanup | auth | login | register | hangUp =>
    cases List.mem_singleton.mp hmem
    rfl
  | joinVoice | kickMember =>
    simp only [handle] at hmem
    refine hgated _ _ _ ?_ hmem
    split <;> simp [Act.begins]
  | leaveVoice | setVoiceState | moveMember | setFlag =>
    simp only [handle] at hmem
    exact hgated _ _ _ (by simp [Act.begins]) hmem

omit [DecidableEq Addr] in
/-- A request that was taken up leaves its goroutine at work. -/
theorem atWork_program (w : World Addr) (r : Request Addr) : AtWork w.hub r.owner (program w r) := by
  have hgated : ∀ (client : Client) (required : Option Permission) (acts : List (Act Addr)),
      (∀ a ∈ acts, a.connection? = none) → AtWork w.hub r.owner (gated client required acts) := by
    intro client required acts hfree
    obtain hnone | ⟨-, hall⟩ := gated_cases client required acts
    · rw [hnone]
      exact .nil
    · rw [hall]
      exact .free hfree
  cases r with
  | serveWs | unregister | handshake | cleanup =>
    exact .free (by simp [program, handle, Request.connection?, Act.connection?])
  | auth c token =>
    simp only [program, Request.connection?]
    split
    · exact .script rfl ‹_› (.getSession token)
    · exact .nil
  | login c user | register c user =>
    simp only [program, Request.connection?]
    split
    · exact .script rfl ‹_› (.createSession user)
    · exact .nil
  | joinVoice c room selfMuted selfDeafened =>
    simp only [program, Request.connection?]
    split
    · rename_i hserved
      simp only [handle]
      split
      · exact hgated _ _ _ (by simp)
      · rename_i hroom
        obtain hnone | ⟨hauth, hall⟩ := gated_cases (w.hub.conn c) (some permConnectVoice)
          [@Act.getChannelByID Addr c room selfMuted selfDeafened]
        · rw [hnone]
          exact .nil
        · rw [hall]
          exact .script rfl hserved (.getChannelByID hauth hroom)
    · exact .nil
  | hangUp c =>
    simp only [program, Request.connection?]
    split
    · exact .free (by simp [handle, Act.connection?])
    · exact .nil
  | leaveVoice | setVoiceState | moveMember | setFlag =>
    simp only [program, Request.connection?]
    split
    · simp only [handle]
      exact hgated _ _ _ (by simp [Act.connection?])
    · exact .nil
  | kickMember c targetUserID =>
    simp only [program, Request.connection?]
    split
    · simp only [handle]
      refine hgated _ _ _ ?_
      split
      · simp
      · simp [Act.connection?]
    · exact .nil

/-- What holds of the connections in every state: each read pump has one script
at a time, only a connection that was set up signs in, and `userClients` lists
an authenticated connection, or is about to. -/
structure Orderly (k : State Addr) : Prop where
  atWork : ∀ g, AtWork k.shared.hub g (k.todo g)
  served : ∀ c, (k.shared.hub.conn c).isAuthenticated = true → k.shared.hub.served c = true
  listed : ∀ c, k.shared.hub.Registered c → (k.shared.hub.conn c).isAuthenticated = true →
    k.shared.hub.Listed (k.shared.hub.conn c).userID c ∨
      .addUserClient (k.shared.hub.conn c).userID c ∈ k.todo (.readPump c)

section step

variable {k : State Addr}

omit [DecidableEq Addr] in
/-- Taking up a request keeps the connections in order. -/
theorem Orderly.serve (h : Orderly k) (r : Request Addr) (hidle : k.todo r.owner = []) :
    Orderly { k with todo := Function.update k.todo r.owner (program k.shared r) } where
  atWork := by
    intro g
    by_cases hg : g = r.owner
    · subst g
      simp only [Function.update_self]
      exact atWork_program k.shared r
    · simp only [Function.update_of_ne hg]
      exact h.atWork g
  served := h.served
  listed := by
    intro c hreg hauth
    obtain hlisted | hmem := h.listed c hreg hauth
    · exact .inl hlisted
    · exact .inr (Goroutines.mem_serve hmem hidle _)

variable {t : Turn Addr} {g : Routine} {a : Act Addr} {w' : World Addr} {acts : List (Act Addr)}

theorem Orderly.script (h : Orderly k) (hp : system.Performs k t g a w' acts) {c : ClientID}
    (hc : a.connection? = some c) : g = .readPump c ∧ k.shared.hub.served c = true ∧
      Script k.shared.hub c (k.todo g) :=
  (h.atWork g).script_of_mem hp.mem_todo hc

/-- An authenticated connection is not registered anew. -/
theorem Orderly.registered_before (h : Orderly k) (hp : system.Performs k t g a w' acts) {c : ClientID}
    (hreg : (system.step k t).shared.hub.Registered c)
    (hauth : (k.shared.hub.conn c).isAuthenticated = true) : k.shared.hub.Registered c := by
  obtain ⟨x, -, hact⟩ := exists_does hp
  have hregistered := registered_act k.shared x a c
  rw [hact, ← hp.shared] at hregistered
  obtain ⟨hbefore | ⟨-, hopen⟩, -⟩ := hregistered.mp hreg
  · exact hbefore
  · have hserved := served_iff.mp (h.served c hauth)
    rw [hopen] at hserved
    exact hserved.resolve_right Bool.false_ne_true

/-- One action keeps the connections in order. -/
theorem Orderly.perform (h : Orderly k) (hp : system.Performs k t g a w' acts) :
    Orderly (system.step k t) := by
  obtain ⟨x, -, hact⟩ := exists_does hp
  obtain ⟨rest, htodo, hstep⟩ := hp.head
  refine ⟨?_, ?_, ?_⟩
  · intro g'
    have hwork := h.atWork g'
    rw [hstep]
    by_cases hg : g' = g
    · subst g'
      simp only [Function.update_self]
      rw [htodo] at hwork
      have hwork' := hwork.act x
      rwa [hact] at hwork'
    · simp only [Function.update_of_ne hg]
      refine hwork.mono (fun c hserved => ?_) fun c hauth => ?_
      · have hserved' := served_act x a hserved
        rwa [hact] at hserved'
      · have hauth' := authenticated_act x a hauth
        rwa [hact] at hauth'
  · intro c hauth'
    have hserved : k.shared.hub.served c = true := by
      have hidentity := identity_act k.shared x a c
      rw [hact, ← hp.shared] at hidentity
      obtain ⟨user, rfl, -⟩ | ⟨-, hauth⟩ := hidentity
      · exact (h.script hp rfl).2.1
      · exact h.served c (hauth.symm.trans hauth')
    have hserved' := served_act x a hserved
    rwa [hact, ← hp.shared] at hserved'
  · intro c hreg' hauth'
    have hidentity := identity_act k.shared x a c
    have hregistered := registered_act k.shared x a c
    rw [hact, ← hp.shared] at hidentity hregistered
    have hstays := (hregistered.mp hreg').2
    obtain ⟨user, rfl, hconn⟩ | ⟨huser, hauth⟩ := hidentity
    · right
      obtain ⟨rfl, -, hscript⟩ := h.script hp rfl
      rw [htodo] at hscript
      cases hscript
      cases hact
      rw [hconn, hstep]
      simp [Client.signIn]
    · rw [hauth] at hauth'
      have hreg := h.registered_before hp hreg' hauth'
      rw [huser]
      obtain hlisted | hmem := h.listed c hreg hauth'
      · have hlisted' := listed_act (x := x) hlisted hstays
        rw [hact, ← hp.shared] at hlisted'
        exact .inl hlisted'
      · by_cases ha : a = .addUserClient (k.shared.hub.conn c).userID c
        · left
          subst ha
          cases hact
          rw [hp.shared]
          exact Hub.listed_addUserClient.mpr (.inl ⟨rfl, rfl⟩)
        · exact .inr (hp.mem_of_ne hmem (Ne.symm ha))

end step

/-- The connections are in order after every schedule. -/
theorem orderly_after (voiceTokens : VoiceTokens) (userSessions : UserSessions) (ts : List (Turn Addr)) :
    Orderly (after (World.new voiceTokens userSessions) ts) := by
  refine system.run_rule (fun _ _ => True) Orderly ?_ ?_ ?_ ts fun _ _ _ _ => trivial
  · refine ⟨fun _ => .nil, ?_, ?_⟩
    · intro c hauth
      cases hauth
    · intro c hreg
      cases hreg
  · exact fun k r h _ hidle => h.serve r hidle
  · exact fun k t g a w' acts h _ hp => h.perform hp

/-- No action but a move leaves a connection in a second room. -/
theorem tidy_act {w : World Addr} {x : Choice} {a : Act Addr} {c : ClientID} (h : w.hub.Tidy c)
    (hjoin : ∀ room channel selfMuted selfDeafened, a = .joinVoice c room channel selfMuted selfDeafened →
      room ≠ 0 ∧ (w.hub.conn c).isAuthenticated = true)
    (hmove : ∀ u room, a = .moveMember u room → ¬ w.hub.Listed u c) : (act w x a).1.hub.Tidy c := by
  have hregistered := registered_act w x a c
  have hauth' := authenticated_act (w := w) x a (c := c)
  have hchange := hubChange_act w x a
  generalize (act w x a).1.hub = h' at hchange hregistered hauth' ⊢
  -- the connection gains no room and keeps its active one
  have hsame : (∀ room, h'.InRoom room c → w.hub.InRoom room c) →
      (h'.conn c).activeVoiceChannel = (w.hub.conn c).activeVoiceChannel →
      a ≠ .handleClientDisconnect c → h'.Tidy c := by
    intro hrooms hactive hstays room hroom
    obtain ⟨heq, hne, hreg, hauth⟩ := h room (hrooms room hroom)
    exact ⟨heq.trans hactive.symm, hne, hregistered.mpr ⟨.inl hreg, hstays⟩, hauth' hauth⟩
  have hvoiceState : ∀ u f, h' = w.hub.withVoiceState u f → a ≠ .handleClientDisconnect c → h'.Tidy c := by
    intro u f heq hstays
    subst h'
    obtain ⟨-, -, hrooms, hconn⟩ := Hub.withVoiceState_fields w.hub u f
    refine hsame ?_ (congrArg (fun conn => (conn c).activeVoiceChannel) hconn) hstays
    intro room hroom
    rw [Hub.InRoom, ← hrooms]
    exact hroom
  cases hchange with
  | untouched | addUserClient => exact h
  | registerClient c' =>
    unfold Hub.registerClient at hsame ⊢
    split at hsame
    · rw [if_pos ‹_›]
      exact h
    · rw [if_neg ‹_›]
      exact hsame (fun _ hroom => hroom) rfl (by simp)
  | signIn c' user =>
    refine hsame (fun _ hroom => hroom) ?_ (by simp)
    rw [Hub.conn_updateClient]
    split <;> rfl
  | @joinVoice c' room channel selfMuted selfDeafened h' hok =>
    obtain ⟨hreg, -, hclients, -, hconn, -, hrooms⟩ := Hub.joinVoice_ok hok
    by_cases hc : c = c'
    · subst c'
      obtain ⟨hne, hauth⟩ := hjoin room channel selfMuted selfDeafened rfl
      intro ch hch
      have hactive : (h'.conn c).activeVoiceChannel = room := by rw [hconn, Function.update_self]
      have hch' : ch = room := by
        obtain ⟨rfl, -⟩ | ⟨hold, hkept⟩ := (hrooms ch c).mp hch
        · rfl
        · obtain ⟨heq, hpos, -⟩ := h ch hold
          by_contra hother
          exact hkept ⟨rfl, heq, UInt32.pos_iff_ne_zero.mpr hpos, hother⟩
      refine ⟨hch'.trans hactive.symm, hch' ▸ hne, ?_, hauth' hauth⟩
      rw [Hub.Registered, hclients]
      exact hreg
    · refine hsame ?_ ?_ (by simp)
      · intro ch hch
        obtain ⟨-, heq⟩ | ⟨hold, -⟩ := (hrooms ch c).mp hch
        · exact absurd heq hc
        · exact hold
      · rw [hconn, Function.update_of_ne hc]
  | @leaveVoice c' hactive =>
    have hdrop : ∀ room, (w.hub.voiceChannels.drop₂ (w.hub.conn c').activeVoiceChannel c').get₂ room c =
        some () → w.hub.InRoom room c ∧ ¬ (room = (w.hub.conn c').activeVoiceChannel ∧ c = c') := by
      intro room hroom
      rw [GoMap.get₂_drop₂] at hroom
      split at hroom
      · cases hroom
      · exact ⟨hroom, ‹_›⟩
    by_cases hc : c = c'
    · subst c'
      intro room hroom
      obtain ⟨hold, hkept⟩ := hdrop room hroom
      exact absurd ⟨(h room hold).1, rfl⟩ hkept
    · refine hsame (fun room hroom => (hdrop room hroom).1) ?_ (by simp)
      dsimp only
      rw [Function.update_of_ne hc]
  | setVoiceState c' selfMuted selfDeafened isSpeaking => exact hvoiceState _ _ rfl (by simp)
  | setFlag flag targetUserID value => exact hvoiceState _ _ rfl (by simp)
  | @moveMember targetUserID room h' hadmit =>
    have hother : c ∉ w.hub.clientsOf targetUserID := fun hmem =>
      hmove targetUserID room rfl (Hub.mem_clientsOf.mp hmem)
    obtain ⟨_, -, -, -, -, -, hconn, hrooms⟩ := Hub.moveMember_eq_some hadmit
    refine hsame ?_ (by rw [hconn, if_neg hother]) (by simp)
    intro room hroom
    rwa [hrooms, if_neg hother] at hroom
  | kickMember targetUserID =>
    obtain ⟨-, -, -, hconn, -, hrooms⟩ := w.hub.kickMember_spec targetUserID
    exact hsame (fun room hroom => ((hrooms room c).mp hroom).1)
      (congrArg (fun conn => (conn c).activeVoiceChannel) hconn) (by simp)
  | @handleClientDisconnect c' hreg =>
    have hrooms := (Hub.handleClientDisconnect_of_registered hreg).2.2.2.1
    by_cases hc : c = c'
    · subst c'
      intro room hroom
      obtain ⟨hold, hkept⟩ := (hrooms room c).mp hroom
      obtain ⟨heq, hne, -, hauth⟩ := h room hold
      exact absurd ⟨hauth, UInt32.pos_iff_ne_zero.mpr hne, heq, rfl⟩ hkept
    · refine hsame (fun room hroom => ((hrooms room c).mp hroom).1) ?_ (by simp [Ne.symm hc])
      rw [conn_of_disconnect hreg, Function.update_of_ne hc]

/-- No `move_member` of the schedule moves the connection. -/
def NeverMoved (w : World Addr) (c : ClientID) (ts : List (Turn Addr)) : Prop :=
  Machine.Along (fun pre t => ∀ x u room, Does (after w pre) t (.moveMember u room) x →
    ¬ (after w pre).shared.hub.Listed u c) ts

/-- A connection that is never moved is in no room other than its active one. -/
theorem tidy_after (voiceTokens : VoiceTokens) (userSessions : UserSessions) (ts : List (Turn Addr))
    {c : ClientID} (hmoves : NeverMoved (World.new voiceTokens userSessions) c ts) :
    (after (World.new voiceTokens userSessions) ts).shared.hub.Tidy c := by
  have hinv : Orderly (after (World.new voiceTokens userSessions) ts) ∧
      (after (World.new voiceTokens userSessions) ts).shared.hub.Tidy c := by
    refine system.run_rule
      (fun k t => ∀ x u room, Does k t (.moveMember u room) x → ¬ k.shared.hub.Listed u c)
      (fun k => Orderly k ∧ k.shared.hub.Tidy c) ⟨orderly_after _ _ [], ?_⟩ ?_ ?_ ts hmoves
    · intro room hroom
      cases hroom
    · exact fun k r h _ hidle => ⟨h.1.serve r hidle, h.2⟩
    · intro k t g a w' acts h hok hp
      obtain ⟨x, hdoes, hact⟩ := exists_does hp
      refine ⟨h.1.perform hp, ?_⟩
      have htidy := tidy_act (x := x) (a := a) h.2 ?_ ?_
      · rwa [hact, ← hp.shared] at htidy
      · intro room channel selfMuted selfDeafened ha
        subst ha
        obtain ⟨rfl, -, hscript⟩ := h.1.script hp rfl
        obtain ⟨rest, htodo, -⟩ := hp.head
        rw [htodo] at hscript
        cases hscript with
        | joinVoice hauth hroom => exact ⟨hroom, hauth⟩
      · intro u room ha
        subst ha
        exact hok x u room hdoes
  exact hinv.2

end server

end low_latency_voice.control
