import LowLatencyVoice.Auth.Registration
import LowLatencyVoice.Control.Handler
import LowLatencyVoice.Control.HubLaws

open low_latency_voice.model low_latency_voice.storage low_latency_voice.audio low_latency_voice.auth

namespace low_latency_voice.control

/-- The connection has none of the permissions over channels and members. -/
def Unprivileged (client : Client) : Prop :=
  ∀ permission ∈ [permManageChannels, permMoveMembers, permMuteMembers, permDeafenMembers, permKickMembers],
    hasPermission client.permissions permission = false

instance (client : Client) : Decidable (Unprivileged client) := List.decidableBAll _ _

/-- The hub keeps the voice states of everybody but `u` and all that belongs to
other connections than `c`. -/
structure Hub.Spares (u : UInt32) (c : ClientID) (h h' : Hub) : Prop where
  voiceState : ∀ v, v ≠ u → h'.voiceStates.get? v = h.voiceStates.get? v
  conn : ∀ c', c' ≠ c → h'.conn c' = h.conn c'
  registered : ∀ c', c' ≠ c → h'.clients.get? c' = h.clients.get? c'
  room : ∀ c', c' ≠ c → ∀ room, h'.voiceChannels.get₂ room c' = h.voiceChannels.get₂ room c'

namespace Backend

variable {Addr : Type}

/-- What a message on connection `c` must leave as it is: the voice state, the audio
session and the pending tokens of everybody who is not the connection's user
before or after it, all that belongs to other connections, the channels, the
roles, and the roles of the users there were. -/
structure Undisturbed (c : ClientID) (b b' : Backend Addr) : Prop where
  voiceState : ∀ v, v ≠ (b.hub.conn c).userID → v ≠ (b'.hub.conn c).userID →
    b'.hub.voiceStates.get? v = b.hub.voiceStates.get? v
  session : ∀ v, v ≠ (b.hub.conn c).userID → v ≠ (b'.hub.conn c).userID →
    b'.sessions.session? v = b.sessions.session? v
  pending : ∀ v, v ≠ (b.hub.conn c).userID → v ≠ (b'.hub.conn c).userID → ∀ token pt, pt.userID = v →
    (b'.sessions.pendingTokens.get? token = some pt ↔ b.sessions.pendingTokens.get? token = some pt)
  conn : ∀ c', c' ≠ c → b'.hub.conn c' = b.hub.conn c'
  registered : ∀ c', c' ≠ c → b'.hub.clients.get? c' = b.hub.clients.get? c'
  room : ∀ c', c' ≠ c → ∀ room, b'.hub.voiceChannels.get₂ room c' = b.hub.voiceChannels.get₂ room c'
  channels : b'.database.channels = b.database.channels
  roles : b'.database.roles = b.database.roles
  userRoles : ∀ id, b.database.users.get? id ≠ none → ∀ role,
    b'.database.userRoles.get₂ id role = b.database.userRoles.get₂ id role

/-- `Register` comes to its insert, and the insert succeeds. -/
def Registers (go : GoLibrary) (b : Backend Addr) (x : Env) (username password : String) : Prop :=
  usernameMatches (go.trimSpace username) ∧ 8 ≤ password.utf8ByteSize ∧ password.utf8ByteSize ≤ 128 ∧
    x.hash ≠ none ∧ x.fails .createUser = false ∧
    b.database.users.rows.pairs.all (fun e => !Database.nocase e.2.username (go.trimSpace username))

/-- The id of the next new user, as Go reads it. -/
def nextUserID (b : Backend Addr) : UInt32 := UInt32.ofNat (b.database.users.seq + 1)

/-- The registration assigns a role to a user there is already: the id of the new
row, cut to 32 bits, is that of a user without the role. -/
def ReassignsRole (go : GoLibrary) (b : Backend Addr) (x : Env) (params : Params) : Prop :=
  b.Registers go x (getString go params "username") (getString go params "password") ∧
    b.database.users.get? b.nextUserID.toNat ≠ none ∧ x.fails .assignUserRole = false ∧
    ∃ role, roleOfNewUser b.database x b.nextUserID = some role ∧
      b.database.userRoles.get₂ b.nextUserID.toNat role.id = none

variable [DecidableEq Addr]

/-- The random token of an admitted `join_voice` is one that is pending for another
user. -/
def OverwritesPending (b : Backend Addr) (x : Env) (c : ClientID) (params : Params) : Prop :=
  ∃ row hub rows vt pt, hasPermission (b.hub.conn c).permissions permConnectVoice ∧
    getUInt32 params "channel_id" ≠ 0 ∧ x.fails .getChannelByID = false ∧
    b.database.getChannelByID (getUInt32 params "channel_id") = some row ∧ row.type = "voice" ∧
    b.hub.joinVoice x.now c (getUInt32 params "channel_id") ⟨row.type, row.userLimit⟩
      (getBool params "self_muted") (getBool params "self_deafened") = .ok hub ∧
    generateUDPToken b.voiceTokens x (b.hub.conn c).userID (getUInt32 params "channel_id") =
      (rows, some vt) ∧
    b.sessions.pendingTokens.get? vt.token = some pt ∧ pt.userID ≠ (b.hub.conn c).userID

/-- The message meets one of the two collisions. -/
def Collides (go : GoLibrary) (b : Backend Addr) (x : Env) (c : ClientID) (raw : GoBytes) : Prop :=
  ∃ env, go.unmarshal raw = some env ∧
    (go.toLower (go.trimSpace env.action) = "register" ∧ b.ReassignsRole go x (env.params.getD env.fields) ∨
      go.toLower (go.trimSpace env.action) = "join_voice" ∧ (b.hub.conn c).isAuthenticated ∧
        b.OverwritesPending x c (env.params.getD env.fields))

end Backend

section hub

variable {h : Hub} {c : ClientID}

theorem Hub.Spares.refl (u : UInt32) (c : ClientID) (h : Hub) : h.Spares u c h where
  voiceState := fun _ _ => rfl
  conn := fun _ _ => rfl
  registered := fun _ _ => rfl
  room := fun _ _ _ => rfl

theorem Hub.spares_joinVoice {now : Time} {room : UInt32} {channel : Channel} {selfMuted selfDeafened : Bool}
    {h' : Hub} (hok : h.joinVoice now c room channel selfMuted selfDeafened = .ok h') :
    h.Spares (h.conn c).userID c h' := by
  obtain ⟨-, -, hclients, -, hconn, ⟨state, hstates, -⟩, hrooms⟩ := Hub.joinVoice_ok hok
  refine ⟨?_, ?_, fun _ _ => by rw [hclients], ?_⟩
  · intro v hv
    simp [hstates, hv]
  · intro c' hc
    simp [hconn, hc]
  · intro c' hc room'
    have hiff : h'.InRoom room' c' ↔ h.InRoom room' c' := by simp [hrooms, hc]
    exact Option.ext fun _ => hiff

theorem Hub.spares_leaveVoice (h : Hub) (c : ClientID) : h.Spares (h.conn c).userID c (h.leaveVoice c) := by
  by_cases hactive : 0 < (h.conn c).activeVoiceChannel
  · rw [Hub.leaveVoice_of_pos hactive]
    refine ⟨?_, ?_, fun _ _ => rfl, ?_⟩
    · intro v hv
      simp [hv]
    · intro c' hc
      simp [hc]
    · intro c' hc room
      simp [hc]
  · rw [Hub.leaveVoice_of_not_pos hactive]
    exact .refl _ _ _

theorem Hub.spares_setVoiceState (h : Hub) (now : Time) (c : ClientID)
    (selfMuted selfDeafened isSpeaking : Bool) :
    h.Spares (h.conn c).userID c (h.setVoiceState now c selfMuted selfDeafened isSpeaking) := by
  obtain ⟨hclients, -, hrooms, hconn⟩ := h.withVoiceState_fields (h.conn c).userID
    fun state => { state with selfMuted, selfDeafened, isSpeaking, updatedAt := now }
  refine ⟨?_, fun _ _ => congrFun hconn _, fun _ _ => congrArg (GoMap.get? · _) hclients,
    fun _ _ _ => congrArg (GoMap.get₂ · _ _) hrooms⟩
  intro v hv
  simp [Hub.setVoiceState, hv]

end hub

namespace Backend

section handlers

variable {Addr : Type} {b b' : Backend Addr} {c : ClientID}

theorem Undisturbed.refl (c : ClientID) (b : Backend Addr) : Undisturbed c b b where
  voiceState := fun _ _ _ => rfl
  session := fun _ _ _ => rfl
  pending := fun _ _ _ _ _ _ => Iff.rfl
  conn := fun _ _ => rfl
  registered := fun _ _ => rfl
  room := fun _ _ _ => rfl
  channels := rfl
  roles := rfl
  userRoles := fun _ _ _ => rfl

/-- A step of the hub alone. -/
theorem undisturbed_of_spares (h : b.hub.Spares (b.hub.conn c).userID c b'.hub)
    (hsessions : b'.sessions = b.sessions) (hdatabase : b'.database = b.database) : Undisturbed c b b' where
  voiceState := fun v hv _ => h.voiceState v hv
  session := fun _ _ _ => by rw [hsessions]
  pending := fun _ _ _ _ _ _ => by rw [hsessions]
  conn := h.conn
  registered := h.registered
  room := h.room
  channels := by rw [hdatabase]
  roles := by rw [hdatabase]
  userRoles := fun _ _ _ => by rw [hdatabase]

/-- A sign-in disturbs as much as the accounts do. -/
theorem undisturbed_signIn (h : Undisturbed c b b') (hhub : b'.hub = b.hub)
    (hsessions : b'.sessions = b.sessions)
    (user : User) : Undisturbed c b (b'.signIn c user) where
  voiceState := fun _ _ _ => by rw [← hhub]; rfl
  session := fun _ _ _ => by rw [← hsessions]; rfl
  pending := fun _ _ _ _ _ _ => by rw [← hsessions]; rfl
  conn := by
    intro c' hc
    simp [signIn, Hub.addUserClient, hc, hhub]
  registered := h.registered
  room := h.room
  channels := h.channels
  roles := h.roles
  userRoles := h.userRoles

/-- Accounts under the same hub and sessions. -/
theorem undisturbed_withAccounts {a : Accounts} (hchannels : a.database.channels = b.database.channels)
    (hroles : a.database.roles = b.database.roles)
    (huserRoles : ∀ id, b.database.users.get? id ≠ none → ∀ role,
      a.database.userRoles.get₂ id role = b.database.userRoles.get₂ id role) :
    Undisturbed c b (b.withAccounts a) where
  voiceState := fun _ _ _ => rfl
  session := fun _ _ _ => rfl
  pending := fun _ _ _ _ _ _ => Iff.rfl
  conn := fun _ _ => rfl
  registered := fun _ _ => rfl
  room := fun _ _ _ => rfl
  channels := hchannels
  roles := hroles
  userRoles := huserRoles

theorem undisturbed_of_database {a : Accounts} (hdatabase : a.database = b.database) :
    Undisturbed c b (b.withAccounts a) :=
  undisturbed_withAccounts (by rw [hdatabase]) (by rw [hdatabase]) fun _ _ _ => by rw [hdatabase]

theorem openSession_database (a : Accounts) (x : Env) (user : User) :
    (openSession a x user).1.database = a.database := by
  unfold openSession
  split
  · rfl
  · split <;> rfl

theorem login_database (trimSpace : String → String) (a : Accounts) (x : Env) (username password : String) :
    (login trimSpace a x username password).1.database = a.database := by
  unfold login
  simp only
  split
  · rfl
  split
  · rfl
  split
  · rfl
  split
  · rfl
  split
  · rfl
  split
  · rfl
  split
  · rfl
  split
  · rfl
  · exact openSession_database _ _ _

theorem validateSession_database (trimSpace : String → String) (a : Accounts) (x : Env) (token : String) :
    (validateSession trimSpace a x token).1.database = a.database := by
  unfold validateSession
  simp only
  split
  · rfl
  · split <;> rfl

/-- What `Register` does to the accounts: nothing, or one new user with a role. -/
theorem register_cases (go : GoLibrary) (b : Backend Addr) (x : Env) (username password : String) :
    (¬ b.Registers go x username password ∧
      (register go.trimSpace b.accounts x username password).1 = b.accounts) ∨
    b.Registers go x username password ∧ ∃ row,
      (register go.trimSpace b.accounts x username password).1.database =
        assignRole { b.database with users := (b.database.users.insert row).1 } x b.nextUserID := by
  by_cases hregisters : b.Registers go x username password
  · obtain ⟨hname, hmin, hmax, hhash, hcall, hfree⟩ := hregisters
    refine .inr ⟨⟨hname, hmin, hmax, hhash, hcall, hfree⟩, ?_⟩
    obtain ⟨hash, hhash⟩ := Option.ne_none_iff_exists'.mp hhash
    have htaken : b.database.users.rows.pairs.any
        (fun e => Database.nocase e.2.username (go.trimSpace username)) = false := by
      simpa [List.any_eq_false] using hfree
    refine ⟨⟨go.trimSpace username, hash, true⟩, ?_⟩
    simp only [register, hname, Bool.not_true, Bool.false_eq_true, if_false, Nat.not_lt.mpr hmin,
      Nat.not_lt.mpr hmax, hhash, hcall, accounts, Database.createUser, htaken, openSession_database]
    rfl
  · refine .inl ⟨hregisters, ?_⟩
    unfold register
    simp only
    split
    · rfl
    rename_i hname
    split
    · rfl
    rename_i hmin
    split
    · rfl
    rename_i hmax
    split
    · rfl
    rename_i hash hhash
    split
    · rfl
    rename_i hcall
    split
    · rfl
    · rename_i created
      refine absurd ⟨by simpa using hname, Nat.not_lt.mp hmin, Nat.not_lt.mp hmax, by simp [hhash],
        by simpa using hcall, ?_⟩ hregisters
      unfold Database.createUser at created
      split at created
      · cases created
      · rename_i htaken
        simpa [List.any_eq_true, accounts] using htaken

theorem handleRegister_backend (go : GoLibrary) (b : Backend Addr) (x : Env) (c : ClientID)
    (params : Params) :
    let a := (register go.trimSpace b.accounts x (getString go params "username")
      (getString go params "password")).1
    (b.handleRegister go x c params).backend = b.withAccounts a ∨
      ∃ user, (b.handleRegister go x c params).backend = (b.withAccounts a).signIn c user := by
  unfold handleRegister
  split
  · rename_i a e hregister
    exact .inl (by rw [hregister]; rfl)
  · rename_i a user token hregister
    exact .inr ⟨user, by rw [hregister]⟩

/-- A registration disturbs somebody exactly when the new id is taken already. -/
theorem undisturbed_handleRegister_iff (go : GoLibrary) (b : Backend Addr) (x : Env) (c : ClientID)
    (params : Params) :
    Undisturbed c b (b.handleRegister go x c params).backend ↔ ¬ b.ReassignsRole go x params := by
  have hbackend := handleRegister_backend go b x c params
  have hcases := register_cases go b x (getString go params "username") (getString go params "password")
  generalize (register go.trimSpace b.accounts x (getString go params "username")
    (getString go params "password")).1 = a at hbackend hcases
  have hdatabase : (b.handleRegister go x c params).backend.database = a.database := by
    obtain heq | ⟨user, heq⟩ := hbackend <;> rw [heq] <;> rfl
  constructor
  · intro hundisturbed hreassigns
    obtain ⟨hregisters, huser, hcall, role, hrole, hnone⟩ := hreassigns
    obtain ⟨hnot, -⟩ | ⟨-, row, hassign⟩ := hcases
    · exact hnot hregisters
    · have hsame := hundisturbed.userRoles _ huser role.id
      rw [hdatabase, hassign, hnone] at hsame
      have hkept : (b.database.users.insert row).1.get? b.nextUserID.toNat ≠ none := by
        rw [Table.get?_insert, if_neg (Table.ne_succ_seq huser)]
        exact huser
      exact @userRoles_assignRole_ne_none
        { b.database with users := (b.database.users.insert row).1 } x _ role
        hkept hcall hrole hsame
  · intro hfree
    have haccounts : Undisturbed c b (b.withAccounts a) := by
      obtain ⟨-, rfl⟩ | ⟨hregisters, row, hassign⟩ := hcases
      · exact undisturbed_withAccounts rfl rfl fun _ _ _ => rfl
      · obtain ⟨hchannels, hroles⟩ := assignRole_tables
          { b.database with users := (b.database.users.insert row).1 } x b.nextUserID
        refine undisturbed_withAccounts (by rw [hassign, hchannels]) (by rw [hassign, hroles]) ?_
        intro id hid roleID
        rw [hassign]
        obtain hsame | ⟨rfl, -, hcall, role, hrole, rfl, hnone⟩ := userRoles_assignRole
          { b.database with users := (b.database.users.insert row).1 } x b.nextUserID id roleID
        · exact hsame
        · exact absurd ⟨hregisters, hid, hcall, role, hrole, hnone⟩ hfree
    obtain heq | ⟨user, heq⟩ := hbackend
    · rw [heq]
      exact haccounts
    · rw [heq]
      exact undisturbed_signIn haccounts rfl rfl user

theorem undisturbed_handleLogin (go : GoLibrary) (b : Backend Addr) (x : Env) (c : ClientID)
    (params : Params) :
    Undisturbed c b (b.handleLogin go x c params).backend := by
  have haccounts := undisturbed_of_database (c := c) (login_database go.trimSpace b.accounts x
    (getString go params "username") (getString go params "password"))
  unfold handleLogin
  split
  · rename_i a e heq
    rw [heq] at haccounts
    exact haccounts
  · rename_i a user token heq
    rw [heq] at haccounts
    exact undisturbed_signIn haccounts rfl rfl user

theorem undisturbed_handleAuth (go : GoLibrary) (b : Backend Addr) (x : Env) (c : ClientID)
    (params : Params) :
    Undisturbed c b (b.handleAuth go x c params).backend := by
  have haccounts := undisturbed_of_database (c := c) (validateSession_database go.trimSpace b.accounts x
    (getString go params "token"))
  unfold handleAuth
  simp only
  split
  · exact .refl c b
  split
  · rename_i a heq
    rw [heq] at haccounts
    exact haccounts
  · rename_i a session heq
    rw [heq] at haccounts
    split
    · exact haccounts
    · rename_i user _
      exact undisturbed_signIn haccounts rfl rfl user

theorem undisturbed_handleSendChat (go : GoLibrary) (b : Backend Addr) (x : Env) (c : ClientID)
    (params : Params) : Undisturbed c b (b.handleSendChat go x c params).backend := by
  unfold handleSendChat
  simp only
  repeat' split
  case h_4 =>
    rename_i database messageID senderName hcreate
    unfold Database.createMessage at hcreate
    repeat' split at hcreate
    all_goals cases hcreate
    exact ⟨fun _ _ _ => rfl, fun _ _ _ => rfl, fun _ _ _ _ _ _ => Iff.rfl, fun _ _ => rfl, fun _ _ => rfl,
      fun _ _ _ => rfl, rfl, rfl, fun _ _ _ => rfl⟩
  all_goals exact .refl c b

/-- Pending tokens of other users stay unless one of them is overwritten. -/
theorem pending_registerPending_iff (sm : SessionManager Addr) (u channelID ssrc : UInt32) (token : Token)
    (expiresAt : Time) :
    (∀ v, v ≠ u → ∀ t pt, pt.userID = v →
      ((sm.registerPending token u channelID ssrc expiresAt).pendingTokens.get? t = some pt ↔
        sm.pendingTokens.get? t = some pt)) ↔
      ∀ pt, sm.pendingTokens.get? token = some pt → pt.userID = u := by
  constructor
  · intro hsame pt hpt
    by_contra hne
    have hafter := (hsame pt.userID hne token pt rfl).mpr hpt
    simp only [SessionManager.registerPending, GoMap.get?_set, if_true, Option.some.injEq] at hafter
    exact hne (by rw [← hafter])
  · intro hown v hv t pt hpt
    simp only [SessionManager.registerPending, GoMap.get?_set]
    split
    · rename_i ht
      subst ht
      constructor
      · intro heq
        cases heq
        exact absurd hpt.symm hv
      · intro heq
        exact absurd (hpt.symm.trans (hown pt heq)) hv
    · exact Iff.rfl

theorem overwritesPending_iff (b : Backend Addr) (x : Env) (c : ClientID) (params : Params) :
    b.OverwritesPending x c params ↔ ∃ row hub, b.JoinsVoice x c params row hub ∧
      ∃ rows vt pt, generateUDPToken b.voiceTokens x (b.hub.conn c).userID (getUInt32 params "channel_id") =
        (rows, some vt) ∧ b.sessions.pendingTokens.get? vt.token = some pt ∧
          pt.userID ≠ (b.hub.conn c).userID := by
  constructor
  · intro hoverwrites
    obtain ⟨row, hub, rows, vt, pt, hallowed, hchannel, hcall, hfound, hvoice, hjoined, htoken⟩ := hoverwrites
    exact ⟨row, hub, ⟨hallowed, hchannel, hcall, hfound, hvoice, hjoined⟩, rows, vt, pt, htoken⟩
  · intro hjoins
    obtain ⟨row, hub, hjoins, rows, vt, pt, htoken⟩ := hjoins
    exact ⟨row, hub, rows, vt, pt, hjoins.allowed, hjoins.channelID, hjoins.lookup, hjoins.found,
      hjoins.voice, hjoins.joined, htoken⟩

/-- A `join_voice` disturbs somebody exactly when its random token is pending for
another user. -/
theorem undisturbed_handleJoinVoice_iff (b : Backend Addr) (x : Env) (c : ClientID) (params : Params) :
    Undisturbed c b (b.handleJoinVoice x c params).backend ↔ ¬ b.OverwritesPending x c params := by
  rw [overwritesPending_iff]
  obtain ⟨hrefused, hbackend, -⟩ | ⟨row, hub, hjoins, hcases⟩ := handleJoinVoice_cases b x c params
  · rw [hbackend]
    exact iff_of_true (.refl c b) fun ⟨row, hub, hjoins, _⟩ => hrefused row hub hjoins
  have hspares := Hub.spares_joinVoice hjoins.joined
  obtain ⟨voiceTokens, htoken, hbackend, -⟩ | ⟨voiceTokens, vt, htoken, hbackend, -⟩ := hcases
  · rw [hbackend]
    refine iff_of_true (undisturbed_of_spares hspares rfl rfl) ?_
    rintro ⟨row', hub', -, rows, vt, pt, htoken', -⟩
    cases htoken.symm.trans htoken'
  rw [hbackend]
  have huser : (hub.conn c).userID = (b.hub.conn c).userID := by
    obtain ⟨-, -, -, -, hconn, -⟩ := Hub.joinVoice_ok hjoins.joined
    simp [hconn]
  have hpending := pending_registerPending_iff b.sessions (b.hub.conn c).userID
    (getUInt32 params "channel_id") vt.ssrc vt.token vt.expiresAt
  constructor
  · intro hundisturbed hoverwrites
    obtain ⟨row', hub', -, rows, vt', pt, htoken', hpt, hother⟩ := hoverwrites
    cases htoken.symm.trans htoken'
    refine hother (hpending.mp ?_ pt hpt)
    exact fun v hv => hundisturbed.pending v hv (by rw [huser]; exact hv)
  · intro hnot
    exact {
      voiceState := fun v hv _ => hspares.voiceState v hv
      session := fun _ _ _ => rfl
      pending := by
        intro v hv _
        refine hpending.mpr ?_ v hv
        intro pt hpt
        by_contra hother
        exact hnot ⟨row, hub, hjoins, voiceTokens, vt, pt, htoken, hpt, hother⟩
      conn := hspares.conn
      registered := hspares.registered
      room := hspares.room
      channels := rfl
      roles := rfl
      userRoles := fun _ _ _ => rfl }

variable [DecidableEq Addr]

theorem undisturbed_handleLeaveVoice (b : Backend Addr) (c : ClientID) :
    Undisturbed c b (b.handleLeaveVoice c).backend := by
  have hspares := b.hub.spares_leaveVoice c
  exact {
    voiceState := fun v hv _ => hspares.voiceState v hv
    session := by
      intro v hv _
      exact (SessionManager.session?_removeSession _ _ _).trans (if_neg hv)
    pending := by
      intro v hv _ token pt hpt
      have hkept : (!(pt.userID == (b.hub.conn c).userID)) = true := by simpa [hpt] using hv
      simp [handleLeaveVoice, Option.filter_eq_some_iff, hkept]
    conn := hspares.conn
    registered := hspares.registered
    room := hspares.room
    channels := rfl
    roles := rfl
    userRoles := fun _ _ _ => rfl }

omit [DecidableEq Addr] in
theorem undisturbed_handleSetVoiceState (b : Backend Addr) (x : Env) (c : ClientID) (params : Params) :
    Undisturbed c b (b.handleSetVoiceState x c params).backend :=
  undisturbed_of_spares (b.hub.spares_setVoiceState _ _ _ _ _) rfl rfl

/-- Without the five permissions the moderators' actions are refused. -/
theorem handleAction_refused (go : GoLibrary) (b : Backend Addr) (x : Env) (c : ClientID) (params : Params)
    (h : Unprivileged (b.hub.conn c)) {a : Action}
    (ha : a ∈ [.createChannel, .deleteChannel, .moveMember, .setServerFlag .muted, .setServerFlag .deafened,
      .kickMember]) : (b.handleAction go x c params a).backend = b := by
  have hdenied : ∀ permission ∈ [permManageChannels, permMoveMembers, permMuteMembers, permDeafenMembers,
      permKickMembers], (!hasPermission (b.hub.conn c).permissions permission) = true := by
    intro permission hmem
    rw [h permission hmem]
    rfl
  simp only [List.mem_cons, List.not_mem_nil, or_false] at ha
  obtain rfl | rfl | rfl | rfl | rfl | rfl := ha
  · simp only [handleAction, handleCreateChannel, hdenied permManageChannels (by simp), if_true, refuse]
  · simp only [handleAction, handleDeleteChannel, hdenied permManageChannels (by simp), if_true, refuse]
  · simp only [handleAction, handleMoveMember, hdenied permMoveMembers (by simp), if_true, refuse]
  · simp only [handleAction, handleSetServerMute, handleSetServerFlag, ModFlag.permission,
      hdenied permMuteMembers (by simp), if_true, refuse]
  · simp only [handleAction, handleSetServerDeafen, handleSetServerFlag, ModFlag.permission,
      hdenied permDeafenMembers (by simp), if_true, refuse]
  · simp only [handleAction, handleKickMember, hdenied permKickMembers (by simp), if_true, refuse]

/-- What an unprivileged action disturbs, action by action. -/
theorem undisturbed_handleAction_iff (go : GoLibrary) (b : Backend Addr) (x : Env) (c : ClientID)
    (params : Params) (h : Unprivileged (b.hub.conn c)) (a : Action) :
    Undisturbed c b (b.handleAction go x c params a).backend ↔
      ¬ (a = .register ∧ b.ReassignsRole go x params ∨ a = .joinVoice ∧ b.OverwritesPending x c params) := by
  have hnever : ∀ {b' : Backend Addr}, Undisturbed c b b' → a ≠ .register → a ≠ .joinVoice →
      (Undisturbed c b b' ↔
        ¬ (a = .register ∧ b.ReassignsRole go x params ∨
          a = .joinVoice ∧ b.OverwritesPending x c params)) := by
    intro b' hundisturbed hregister hjoin
    exact iff_of_true hundisturbed (by simp [hregister, hjoin])
  cases a with
  | register => simpa [handleAction] using undisturbed_handleRegister_iff go b x c params
  | joinVoice => simpa [handleAction] using undisturbed_handleJoinVoice_iff b x c params
  | login => exact hnever (undisturbed_handleLogin go b x c params) (by simp) (by simp)
  | auth => exact hnever (undisturbed_handleAuth go b x c params) (by simp) (by simp)
  | sendChat => exact hnever (undisturbed_handleSendChat go b x c params) (by simp) (by simp)
  | leaveVoice => exact hnever (undisturbed_handleLeaveVoice b c) (by simp) (by simp)
  | setVoiceState => exact hnever (undisturbed_handleSetVoiceState b x c params) (by simp) (by simp)
  | ping => exact hnever (.refl c b) (by simp) (by simp)
  | getChannels =>
    refine hnever ?_ (by simp) (by simp)
    simp only [handleAction, handleGetChannels]
    split <;> exact .refl c b
  | getChatHistory =>
    refine hnever ?_ (by simp) (by simp)
    simp only [handleAction, handleGetChatHistory]
    repeat' split
    all_goals exact .refl c b
  | getRoster =>
    refine hnever ?_ (by simp) (by simp)
    simp only [handleAction, handleGetRoster]
    split <;> exact .refl c b
  | createChannel | deleteChannel | moveMember | kickMember =>
    refine hnever ?_ (by simp) (by simp)
    rw [handleAction_refused go b x c params h (by simp)]
    exact .refl c b
  | setServerFlag flag =>
    refine hnever ?_ (by simp) (by simp)
    rw [handleAction_refused go b x c params h (by cases flag <;> simp)]
    exact .refl c b

theorem ofString_eq_register_iff (s : String) : Action.ofString s = some .register ↔ s = "register" := by
  unfold Action.ofString
  split <;> simp_all

theorem ofString_eq_joinVoice_iff (s : String) : Action.ofString s = some .joinVoice ↔ s = "join_voice" := by
  unfold Action.ofString
  split <;> simp_all

/-- Whatever the message: a connection without permissions over channels and members
disturbs nobody else, unless the id of a new user or the token of a new voice
session is already taken. -/
theorem undisturbed_iff_not_collides (go : GoLibrary) (b : Backend Addr) (x : Env) (c : ClientID)
    (raw : GoBytes) (h : Unprivileged (b.hub.conn c)) :
    Undisturbed c b (b.handleMessage go x c raw).backend ↔ ¬ b.Collides go x c raw := by
  unfold handleMessage Collides
  split
  · rename_i hparse
    exact iff_of_true (.refl c b) (by simp [hparse])
  · rename_i env hparse
    simp only [hparse, Option.some.injEq, exists_eq_left']
    generalize go.toLower (go.trimSpace env.action) = action
    split
    · rename_i hempty
      subst hempty
      exact iff_of_true (.refl c b) (by simp)
    split
    · rename_i hgate
      obtain ⟨hanonymous, -, -, hregister, -⟩ := hgate
      refine iff_of_true (.refl c b) ?_
      simp only [hregister, false_and, false_or]
      intro hjoin
      simp [hjoin.2.1] at hanonymous
    rename_i hgate
    split
    · rename_i a ha
      rw [undisturbed_handleAction_iff go b x c (env.params.getD env.fields) h a]
      have hauthenticated : action = "join_voice" → (b.hub.conn c).isAuthenticated = true := by
        rintro rfl
        by_contra hanonymous
        exact hgate ⟨by simpa using hanonymous, by decide, by decide, by decide, by decide⟩
      have hregister : a = .register ↔ action = "register" := by
        rw [← ofString_eq_register_iff, ha, Option.some.injEq]
      have hjoin : a = .joinVoice ↔ action = "join_voice" := by
        rw [← ofString_eq_joinVoice_iff, ha, Option.some.injEq]
      rw [hregister, hjoin]
      refine not_congr (or_congr Iff.rfl ?_)
      exact ⟨fun hj => ⟨hj.1, hauthenticated hj.1, hj.2⟩, fun hj => ⟨hj.1, hj.2.2⟩⟩
    · rename_i hunknown
      refine iff_of_true (.refl c b) ?_
      rintro (⟨rfl, -⟩ | ⟨rfl, -⟩) <;> cases hunknown

end handlers

/-- The library on messages that are trimmed and in lower case, of which there is
one. -/
def plainLibrary (env : RequestEnvelope) : GoLibrary where
  trimSpace := id
  toLower := id
  unmarshal _ := some env

/-- A request with its parameters. -/
def request (action : String) (params : List (String × JsonValue)) : RequestEnvelope where
  action
  params := some (params.foldl (fun m e => m.set e.1 e.2) ∅)
  fields := ∅

/-- Nothing fails. -/
def calmEnv : Env where
  now := 0
  fault _ := .none
  errorText := ""
  hash := some "hash"
  passwordMatches := true
  sessionToken := some [0x73]
  voiceToken := some ([0x78], 5)
  allowMessage := true
  order := []

/-- User 7 is a moderator, and 4294967302 users have been registered so far. -/
def crowded : Backend Nat where
  toWorld := .new ∅ ∅
  database := { Database.seeded with
    users := ⟨GoMap.set ∅ 7 ⟨"kim", "hash", true⟩, 4294967302, by
      intro id hid
      rw [GoMap.get?_set] at hid
      split at hid
      · omega
      · exact absurd (GoMap.get?_empty id) hid⟩
    userRoles := GoMap.set ∅ 7 (GoMap.set ∅ 2 0) }

/-- A new connection asks for a registration. -/
def registers : RequestEnvelope :=
  request "register" [("username", .string "lee"), ("password", .string "password")]

theorem undisturbed_iff_not_collides_ping :
    Undisturbed 1 crowded (crowded.handleMessage (plainLibrary (request "ping" [])) calmEnv 1 []).backend ↔
      ¬ crowded.Collides (plainLibrary (request "ping" [])) calmEnv 1 [] :=
  undisturbed_iff_not_collides _ crowded calmEnv 1 [] (by decide)

/-- The new user is taken for user 7, who becomes an ordinary member too. -/
theorem registration_assigns_role_to_old_user :
    ¬ ∀ (go : GoLibrary) (b : Backend Nat) (x : Env) (c : ClientID) (raw : GoBytes),
      Unprivileged (b.hub.conn c) → Undisturbed c b (b.handleMessage go x c raw).backend := by
  intro hall
  have hundisturbed := hall (plainLibrary registers) crowded calmEnv 1 [] (by decide)
  have hrole := hundisturbed.userRoles 7 (by decide) 3
  revert hrole
  decide

end Backend

end low_latency_voice.control
