import LowLatencyVoice.Control.Noninterference
import LowLatencyVoice.Control.Operations
import LowLatencyVoice.Plane.Events

open low_latency_voice.model low_latency_voice.storage low_latency_voice.audio low_latency_voice.auth

namespace low_latency_voice.control

/-- What reaches the server; one is dealt with before the next is taken up. A
`restart` starts the process anew over the database there is. -/
inductive Arrival (Addr : Type) where
  | connect (c : ClientID)
  | frame (c : ClientID) (x : Env) (raw : GoBytes)
  | disconnect (c : ClientID)
  | datagram (now : Time) (fault : Fault) (data : GoBytes) (srcAddr : Addr)
  | sweep (now maxIdle : Time)
  | restart

/-- A call of the audio router on its notifier. -/
def Hub.noticed (h : Hub) (notice : VoiceStateNotice) : Hub :=
  (h.broadcastVoiceState notice.channelID notice.userID notice.speaking notice.energy).1

namespace Backend

variable {Addr : Type}

/-- The audio router over the sessions and the token table of the server. -/
def router (b : Backend Addr) : Router Addr where
  sessions := b.sessions
  validator := some b.voiceTokens
  notifier := true
  writer := true

/-- A server that has just started over these tables. -/
def started (database : Database) (voiceTokens : VoiceTokens) (userSessions : UserSessions) :
    Backend Addr :=
  { server.World.new voiceTokens userSessions with database }

variable [DecidableEq Addr]

/-- One datagram, read by the audio server. -/
def receive (b : Backend Addr) (now : Time) (fault : Fault) (data : GoBytes) (srcAddr : Addr) :
    Backend Addr :=
  let (r, outcome) := b.router.handlePacket now fault data srcAddr
  { b with
    hub := outcome.notified.foldl Hub.noticed b.hub
    sessions := r.sessions
    voiceTokens := r.validator.getD b.voiceTokens }

def arrive (go : GoLibrary) (b : Backend Addr) : Arrival Addr → Backend Addr
  | .connect c => { b with hub := b.hub.registerClient c }
  | .frame c x raw => (b.handleMessage go x c raw).backend
  | .disconnect c => (b.unregisterClient c).1
  | .datagram now fault data srcAddr => b.receive now fault data srcAddr
  | .sweep now maxIdle => { b with sessions := (b.sessions.cleanStaleSessions now maxIdle).1 }
  | .restart => started b.database b.voiceTokens b.userSessions

/-- The server under everything that can reach it. -/
def process (go : GoLibrary) : Machine (Backend Addr) (Arrival Addr) Unit where
  step b arrival := (b.arrive go arrival, ())

end Backend

/-- Rows of `channels` are added under new ids only. -/
structure AddsChannels (db db' : Database) : Prop where
  seq : db.channels.seq ≤ db'.channels.seq
  kept : ∀ id, id ≤ db.channels.seq → db'.channels.get? id = db.channels.get? id

/-- Users only leave voice. -/
def Hub.Vacates (h h' : Hub) : Prop := ∀ u room, h'.room? u = some room → h.room? u = some room

variable {Addr : Type} [DecidableEq Addr]

/-- Sessions stay in their channels or go, and no token is added. -/
structure StaysInRoom (sm sm' : SessionManager Addr) : Prop where
  owned : sm.Owned → sm'.Owned
  room : ∀ u room, (sm'.session? u).map Session.channelID = some room →
    (sm.session? u).map Session.channelID = some room
  pending : ∀ token pt, sm'.pendingTokens.get? token = some pt → sm.pendingTokens.get? token = some pt

/-- The change puts nobody in a channel, and it issues no token. -/
structure PlacesNobody (b b' : Backend Addr) : Prop where
  database : AddsChannels b.database b'.database
  hub : b.hub.Vacates b'.hub
  sessions : StaysInRoom b.sessions b'.sessions
  voiceTokens : ∀ token vt, b'.voiceTokens.get? token = some vt → vt.isConsumed = false →
    b.voiceTokens.get? token = some vt

theorem AddsChannels.of_eq {db db' : Database} (h : db'.channels = db.channels) : AddsChannels db db' :=
  ⟨by rw [h], fun id _ => by rw [h]⟩

theorem AddsChannels.trans {db db' db'' : Database} (h : AddsChannels db db') (h' : AddsChannels db' db'') :
    AddsChannels db db'' :=
  ⟨h.seq.trans h'.seq, fun id hid => (h'.kept id (hid.trans h.seq)).trans (h.kept id hid)⟩

theorem addsChannels_createChannel {db db' : Database} {row : ChannelRow} {id : UInt32}
    (h : db.createChannel row = some (db', id)) : AddsChannels db db' := by
  unfold Database.createChannel at h
  split at h
  · cases h
    refine ⟨Nat.le_succ _, ?_⟩
    intro id hid
    exact (Table.get?_insert _ _ _).trans (if_neg (by omega))
  · cases h

namespace Hub

theorem Vacates.refl (h : Hub) : h.Vacates h := fun _ _ => id

theorem Vacates.of_eq {h h' : Hub} (hroom : h'.room? = h.room?) : h.Vacates h' := by
  intro u room hu
  rwa [hroom] at hu

/-- One user leaves voice. -/
theorem Vacates.of_update {h h' : Hub} {u : UInt32} (hroom : h'.room? = Function.update h.room? u none) :
    h.Vacates h' := by
  intro v room hv
  rw [hroom, Function.update_apply] at hv
  split at hv
  · cases hv
  · exact hv

theorem vacates_noticed (notices : List VoiceStateNotice) (h : Hub) :
    h.Vacates (notices.foldl noticed h) := by
  apply Vacates.of_eq
  induction notices generalizing h with
  | nil => rfl
  | cons notice notices ih => exact (ih _).trans (h.room?_broadcastVoiceState _ _ _ _)

end Hub

namespace StaysInRoom

theorem refl (sm : SessionManager Addr) : StaysInRoom sm sm := ⟨id, fun _ _ => id, fun _ _ => id⟩

theorem trans {sm sm' sm'' : SessionManager Addr} (h : StaysInRoom sm sm') (h' : StaysInRoom sm' sm'') :
    StaysInRoom sm sm'' :=
  ⟨fun howned => h'.owned (h.owned howned), fun u room hroom => h.room u room (h'.room u room hroom),
    fun token pt hpt => h.pending token pt (h'.pending token pt hpt)⟩

theorem removeSession (sm : SessionManager Addr) (u : UInt32) : StaysInRoom sm (sm.removeSession u) where
  owned howned := howned.removeSession u
  room v room hv := by
    rw [SessionManager.session?_removeSession] at hv
    split at hv
    · cases hv
    · exact hv
  pending token pt hpt := by
    rw [SessionManager.removeSession_pendingTokens, GoMap.get?_deleteWhere, Option.filter_eq_some_iff] at hpt
    exact hpt.1

/-- A write to the flags of a session. -/
theorem withSession {sm : SessionManager Addr} (howned : sm.Owned) (u : UInt32)
    {f : Session Addr → Session Addr} (hf : ∀ s, (f s).channelID = s.channelID)
    (huser : ∀ s, (f s).userID = s.userID) (haddr : ∀ s, (f s).addr = s.addr) :
    StaysInRoom sm (sm.withSession u f) where
  owned howned := howned.withSession u f huser haddr
  room v room hv := by
    rw [SessionManager.session?_withSession howned] at hv
    split at hv
    · rename_i hvu
      rw [Option.map_map] at hv
      obtain ⟨s, hs, hroom⟩ := Option.map_eq_some_iff.mp hv
      rw [hvu, hs, ← hroom]
      exact congrArg some (hf s).symm
    · exact hv
  pending token pt hpt := by rwa [SessionManager.withSession_pendingTokens] at hpt

theorem cleanStaleSessions (sm : SessionManager Addr) (now maxIdle : Time) :
    StaysInRoom sm (sm.cleanStaleSessions now maxIdle).1 where
  owned howned := howned.cleanStaleSessions now maxIdle
  room u room hu := by
    obtain ⟨s, hs, rfl⟩ := Option.map_eq_some_iff.mp hu
    rw [SessionManager.session?_of_cleanStaleSessions hs]
    rfl
  pending token pt hpt := by
    rw [SessionManager.cleanStaleSessions_pendingTokens, GoMap.get?_deleteWhere,
      Option.filter_eq_some_iff] at hpt
    exact hpt.1

theorem of_refreshed {sm sm' : SessionManager Addr} (h : SessionManager.Refreshed sm sm') :
    StaysInRoom sm sm' where
  owned _ := h.owned
  room u room hu := by rwa [map_channelID_of_standing (h.standing u)] at hu
  pending token pt hpt := by rwa [h.pendingTokens] at hpt

end StaysInRoom

namespace PlacesNobody

theorem refl (b : Backend Addr) : PlacesNobody b b :=
  ⟨.of_eq rfl, .refl _, .refl _, fun _ _ hvt _ => hvt⟩

theorem trans {b b' b'' : Backend Addr} (h : PlacesNobody b b') (h' : PlacesNobody b' b'') :
    PlacesNobody b b'' where
  database := h.database.trans h'.database
  hub u room hroom := h.hub u room (h'.hub u room hroom)
  sessions := h.sessions.trans h'.sessions
  voiceTokens token vt hvt hfresh := h.voiceTokens token vt (h'.voiceTokens token vt hvt hfresh) hfresh

/-- Only the tables of the accounts change. -/
theorem withAccounts (b : Backend Addr) {a : Accounts} (h : a.database.channels = b.database.channels) :
    PlacesNobody b (b.withAccounts a) :=
  ⟨.of_eq h, .refl _, .refl _, fun _ _ hvt _ => hvt⟩

theorem signIn (b : Backend Addr) {a : Accounts} (h : a.database.channels = b.database.channels)
    (c : ClientID) (user : User) : PlacesNobody b ((b.withAccounts a).signIn c user) :=
  ⟨.of_eq h, .refl _, .refl _, fun _ _ hvt _ => hvt⟩

end PlacesNobody

namespace Backend

variable (go : GoLibrary) (b : Backend Addr) (x : Env) (c : ClientID) (params : Params)

theorem placesNobody_handleRegister : PlacesNobody b (b.handleRegister go x c params).backend := by
  have hchannels : (register go.trimSpace b.accounts x (getString go params "username")
      (getString go params "password")).1.database.channels = b.database.channels := by
    obtain ⟨-, heq⟩ | ⟨-, row, heq⟩ := register_cases go b x (getString go params "username")
      (getString go params "password")
    · rw [heq]
      rfl
    · rw [heq, (assignRole_tables _ _ _).1]
  obtain heq | ⟨user, heq⟩ := handleRegister_backend go b x c params
  · rw [heq]
    exact .withAccounts b hchannels
  · rw [heq]
    exact .signIn b hchannels c user

theorem placesNobody_handleLogin : PlacesNobody b (b.handleLogin go x c params).backend := by
  have hdatabase := login_database go.trimSpace b.accounts x (getString go params "username")
    (getString go params "password")
  unfold handleLogin
  split
  · rename_i a e heq
    rw [heq] at hdatabase
    exact .withAccounts b (congrArg Database.channels hdatabase)
  · rename_i a user token heq
    rw [heq] at hdatabase
    exact .signIn b (congrArg Database.channels hdatabase) c user

theorem placesNobody_handleAuth : PlacesNobody b (b.handleAuth go x c params).backend := by
  have hdatabase := validateSession_database go.trimSpace b.accounts x (getString go params "token")
  unfold handleAuth
  simp only
  split
  · exact .refl b
  split
  · rename_i a heq
    rw [heq] at hdatabase
    exact .withAccounts b (congrArg Database.channels hdatabase)
  · rename_i a session heq
    rw [heq] at hdatabase
    split
    · exact .withAccounts b (congrArg Database.channels hdatabase)
    · rename_i user _
      exact .signIn b (congrArg Database.channels hdatabase) c user

theorem placesNobody_handleCreateChannel :
    PlacesNobody b (b.handleCreateChannel go x c params).backend := by
  unfold handleCreateChannel
  simp only
  split
  · exact .refl b
  split
  · exact .refl b
  split
  · exact .refl b
  · rename_i database channelID hcreate
    split at hcreate
    · cases hcreate
    · exact ⟨addsChannels_createChannel hcreate, .refl _, .refl _, fun _ _ hvt _ => hvt⟩

theorem placesNobody_handleSendChat : PlacesNobody b (b.handleSendChat go x c params).backend := by
  unfold handleSendChat
  simp only
  repeat' split
  case h_4 =>
    rename_i database messageID senderName hcreate
    have hchannels : database.channels = b.database.channels := by
      unfold Database.createMessage at hcreate
      repeat' split at hcreate
      all_goals cases hcreate
      rfl
    exact ⟨.of_eq hchannels, .refl _, .refl _, fun _ _ hvt _ => hvt⟩
  all_goals exact .refl b

theorem placesNobody_handleSetVoiceState : PlacesNobody b (b.handleSetVoiceState x c params).backend :=
  ⟨.of_eq rfl, .of_eq (b.hub.room?_setVoiceState _ _ _ _ _), .refl _, fun _ _ hvt _ => hvt⟩

theorem placesNobody_handleSetServerFlag (howned : b.sessions.Owned) (flag : ModFlag)
    (action key denied : String) :
    PlacesNobody b (b.handleSetServerFlag c params flag action key denied).backend := by
  unfold handleSetServerFlag
  simp only
  split
  · exact .refl b
  · exact ⟨.of_eq rfl, .of_eq (b.hub.room?_setFlag _ _ _),
      .withSession howned _ (fun _ => by cases flag <;> rfl) (fun _ => by cases flag <;> rfl)
        fun _ => by cases flag <;> rfl, fun _ _ hvt _ => hvt⟩

theorem placesNobody_handleLeaveVoice : PlacesNobody b (b.handleLeaveVoice c).backend := by
  refine ⟨.of_eq rfl, ?_, .removeSession _ _, fun _ _ hvt _ => hvt⟩
  by_cases hactive : 0 < (b.hub.conn c).activeVoiceChannel
  · exact .of_update (Hub.room?_leaveVoice hactive)
  · exact .of_eq (congrArg Hub.room? (Hub.leaveVoice_of_not_pos hactive))

theorem placesNobody_unregisterClient : PlacesNobody b (b.unregisterClient c).1 := by
  have hhub : b.hub.Vacates (b.unregisterClient c).1.hub := by
    obtain ⟨hleft, hstayed, -⟩ := unregisterClient_spec b c
    by_cases hleaves : b.hub.Registered c ∧ b.hub.LeavesVoice c
    · exact .of_update (hleft hleaves)
    · exact .of_eq (hstayed hleaves)
  refine ⟨.of_eq ?_, hhub, ?_, ?_⟩
  · unfold unregisterClient
    simp only
    repeat' split
    all_goals rfl
  · unfold unregisterClient
    simp only
    repeat' split
    all_goals first
      | exact .refl _
      | exact .removeSession _ _
  · intro token vt hvt _
    unfold unregisterClient at hvt
    simp only at hvt
    repeat' split at hvt
    all_goals exact hvt

theorem placesNobody_foldl_closeClient (cs : List ClientID) :
    ∀ acc : Backend Addr × List Broadcast, PlacesNobody acc.1 (cs.foldl closeClient acc).1 := by
  induction cs with
  | nil => exact fun acc => .refl acc.1
  | cons c cs ih => exact fun acc => (placesNobody_unregisterClient acc.1 c).trans (ih (closeClient acc c))

theorem placesNobody_handleKickMember : PlacesNobody b (b.handleKickMember go x c params).backend := by
  unfold handleKickMember
  simp only
  split
  · exact .refl b
  split
  · exact .refl b
  refine PlacesNobody.trans ?_ (placesNobody_foldl_closeClient _ (_, []))
  refine ⟨.of_eq rfl, ?_, .removeSession _ _, ?_⟩
  · intro v room hv
    unfold Hub.room? at hv ⊢
    rw [(b.hub.kickMember_spec _).2.2.2.2.1] at hv
    split at hv
    · cases hv
    · exact hv
  · intro token vt hvt _
    simp only at hvt
    split at hvt
    · exact hvt
    · rw [get?_revokeVoiceTokens, Option.filter_eq_some_iff] at hvt
      exact hvt.1

/-- A handler puts nobody anywhere and issues nothing, unless it is that of `join_voice`,
`move_member` or `delete_channel`. -/
theorem placesNobody_handleAction (howned : b.sessions.Owned) (a : Action) (hjoin : a ≠ .joinVoice)
    (hmove : a ≠ .moveMember) (hdelete : a ≠ .deleteChannel) :
    PlacesNobody b (b.handleAction go x c params a).backend := by
  cases a with
  | register => exact placesNobody_handleRegister go b x c params
  | login => exact placesNobody_handleLogin go b x c params
  | auth => exact placesNobody_handleAuth go b x c params
  | getChannels =>
    simp only [handleAction, handleGetChannels]
    split <;> exact .refl b
  | createChannel => exact placesNobody_handleCreateChannel go b x c params
  | deleteChannel => exact absurd rfl hdelete
  | sendChat => exact placesNobody_handleSendChat go b x c params
  | getChatHistory =>
    simp only [handleAction, handleGetChatHistory]
    repeat' split
    all_goals exact .refl b
  | joinVoice => exact absurd rfl hjoin
  | leaveVoice => exact placesNobody_handleLeaveVoice b c
  | setVoiceState => exact placesNobody_handleSetVoiceState b x c params
  | getRoster =>
    simp only [handleAction, handleGetRoster]
    split <;> exact .refl b
  | moveMember => exact absurd rfl hmove
  | setServerFlag flag =>
    cases flag with
    | muted => exact placesNobody_handleSetServerFlag b c params howned _ _ _ _
    | deafened => exact placesNobody_handleSetServerFlag b c params howned _ _ _ _
  | kickMember => exact placesNobody_handleKickMember go b x c params
  | ping => exact .refl b

/-- The frame is a request of a connection that has signed in. -/
def Requests (raw : GoBytes) (a : Action) : Prop :=
  (b.hub.conn c).isAuthenticated = true ∧ ∃ env, go.unmarshal raw = some env ∧
    Action.ofString (go.toLower (go.trimSpace env.action)) = some a ∧ params = env.params.getD env.fields

/-- A frame does nothing to the server, or it is handled; only a sign-in or a ping is
before the connection has signed in. -/
theorem handleMessage_backend_cases (raw : GoBytes) :
    (b.handleMessage go x c raw).backend = b ∨ ∃ params a,
      (b.handleMessage go x c raw).backend = (b.handleAction go x c params a).backend ∧
        (b.Requests go c params raw a ∨ a = .auth ∨ a = .login ∨ a = .register ∨ a = .ping) := by
  unfold handleMessage
  split
  · exact .inl rfl
  rename_i env henv
  simp only
  split
  · exact .inl rfl
  split
  · exact .inl rfl
  rename_i hallowed
  split
  · rename_i a ha
    refine .inr ⟨_, a, rfl, ?_⟩
    by_cases hauth : (b.hub.conn c).isAuthenticated = true
    · exact .inl ⟨hauth, env, henv, ha, rfl⟩
    · have hsign : ∀ s, Action.ofString s = some a → s = "auth" ∨ s = "login" ∨ s = "register" ∨ s = "ping" →
          a = .auth ∨ a = .login ∨ a = .register ∨ a = .ping := by
        rintro s hs (rfl | rfl | rfl | rfl)
        all_goals
          cases hs
          simp
      refine .inr (hsign _ ha ?_)
      grind
  · exact .inl rfl

/-- A request is handled. -/
theorem handleMessage_of_requests {raw : GoBytes} {a : Action} (hrequest : b.Requests go c params raw a) :
    (b.handleMessage go x c raw).backend = (b.handleAction go x c params a).backend := by
  obtain ⟨hauth, env, henv, ha, rfl⟩ := hrequest
  have hne : go.toLower (go.trimSpace env.action) ≠ "" := by
    intro hempty
    rw [hempty] at ha
    cases ha
  unfold handleMessage
  simp only [henv, hne, if_false, hauth, Bool.not_true, Bool.false_eq_true, false_and, ha]

end Backend

end low_latency_voice.control
