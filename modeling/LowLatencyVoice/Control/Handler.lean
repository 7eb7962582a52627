import LowLatencyVoice.Auth.Service
import LowLatencyVoice.Control.Broadcast
import LowLatencyVoice.Control.Server

open low_latency_voice.model low_latency_voice.storage low_latency_voice.audio low_latency_voice.auth

namespace low_latency_voice.control

/-- A decoded JSON value. The handlers use a number as `int(n)` only; they look
into no null, array or object. -/
inductive JsonValue where
  | bool (b : Bool)
  | number (n : Int64)
  | string (s : String)
  | other
  deriving DecidableEq, Repr

/-- `map[string]interface{}`. -/
abbrev Params := GoMap String JsonValue

/-- What `HandleMessage` reads of a message: the action, the `params` object if
there is one, and the top-level fields. -/
structure RequestEnvelope where
  action : String
  params : Option Params
  fields : Params

/-- The parts of Go's library the handlers use. -/
structure GoLibrary where
  trimSpace : String → String
  toLower : String → String
  unmarshal : GoBytes → Option RequestEnvelope

inductive Action where
  | register
  | login
  | auth
  | getChannels
  | createChannel
  | deleteChannel
  | sendChat
  | getChatHistory
  | joinVoice
  | leaveVoice
  | setVoiceState
  | getRoster
  | moveMember
  | setServerFlag (flag : ModFlag)
  | kickMember
  | ping
  deriving DecidableEq, Repr

/-- The `switch` of `HandleMessage`. -/
def Action.ofString : String → Option Action
  | "register" => some .register
  | "login" => some .login
  | "auth" => some .auth
  | "get_channels" => some .getChannels
  | "list_channels" => some .getChannels
  | "create_channel" => some .createChannel
  | "delete_channel" => some .deleteChannel
  | "send_chat" => some .sendChat
  | "get_chat_history" => some .getChatHistory
  | "join_voice" => some .joinVoice
  | "leave_voice" => some .leaveVoice
  | "set_voice_state" => some .setVoiceState
  | "get_roster" => some .getRoster
  | "move_member" => some .moveMember
  | "set_server_mute" => some (.setServerFlag .muted)
  | "set_server_deafen" => some (.setServerFlag .deafened)
  | "kick_member" => some .kickMember
  | "ping" => some .ping
  | _ => none

/-- The answer to a request; a refusal has its code and text. -/
inductive Reply where
  | success (action : String)
  | error (action : String) (code : Int) (message : String)
  deriving DecidableEq, Repr

/-- Both planes and every table. -/
structure Backend (Addr : Type) extends server.World Addr where
  database : Database

/-- What handling one message does: the state after it, the answer to the sender,
and the broadcasts handed to `Hub.Run`. -/
structure Handled (Addr : Type) where
  backend : Backend Addr
  reply : Option Reply
  broadcasts : List Broadcast

def getString (go : GoLibrary) (params : Params) (key : String) : String :=
  match params.get? key with
  | some (.string s) => go.trimSpace s
  | _ => ""

def getInt (params : Params) (key : String) : Int64 :=
  match params.get? key with
  | some (.number n) => n
  | _ => 0

/-- `uint32(getInt(..))`. -/
def getUInt32 (params : Params) (key : String) : UInt32 := (getInt params key).toUInt64.toUInt32

def getBool (params : Params) (key : String) : Bool :=
  match params.get? key with
  | some (.bool b) => b
  | _ => false

namespace Backend

variable {Addr : Type}

/-- Nothing but an error goes back. -/
def refuse (b : Backend Addr) (action : String) (code : Int) (message : String) : Handled Addr :=
  ⟨b, some (.error action code message), []⟩

def accounts (b : Backend Addr) : Accounts := ⟨b.database, b.userSessions⟩

def withAccounts (b : Backend Addr) (a : Accounts) : Backend Addr :=
  { b with database := a.database, userSessions := a.userSessions }

/-- The tail of the three sign-in handlers. -/
def signIn (b : Backend Addr) (c : ClientID) (user : User) : Backend Addr :=
  { b with hub := (b.hub.updateClient c fun client => client.signIn user).addUserClient user.id c }

/-- The answer to a registration that fails. -/
def registerError (x : Env) (e : AuthError) : Int × String :=
  match e with
  | .duplicateUser => (4004, "Username already exists")
  | .invalidUsernameFormat | .passwordTooShort | .passwordTooLong => (-32602, e.text x)
  | _ => (-32603, e.text x)

/-- The answer to a login that fails. -/
def loginError (x : Env) (e : AuthError) : Int × String :=
  match e with
  | .invalidCredentials => (4002, "Invalid username or password")
  | .userDisabled => (4001, "User account is disabled")
  | _ => (-32603, e.text x)

def handleRegister (go : GoLibrary) (b : Backend Addr) (x : Env) (c : ClientID) (params : Params) :
    Handled Addr :=
  match register go.trimSpace b.accounts x (getString go params "username")
      (getString go params "password") with
  | (a, .error e) => (b.withAccounts a).refuse "register" (registerError x e).1 (registerError x e).2
  | (a, .ok (user, _)) =>
    ⟨(b.withAccounts a).signIn c user, some (.success "register"),
      [broadcastEvent (.memberJoined user.id user.username),
        broadcastEvent (.presenceUpdate user.id user.username true)]⟩

def handleLogin (go : GoLibrary) (b : Backend Addr) (x : Env) (c : ClientID) (params : Params) :
    Handled Addr :=
  match login go.trimSpace b.accounts x (getString go params "username")
      (getString go params "password") with
  | (a, .error e) => (b.withAccounts a).refuse "login" (loginError x e).1 (loginError x e).2
  | (a, .ok (user, _)) =>
    ⟨(b.withAccounts a).signIn c user, some (.success "login"),
      [broadcastEvent (.presenceUpdate user.id user.username true)]⟩

def handleAuth (go : GoLibrary) (b : Backend Addr) (x : Env) (c : ClientID) (params : Params) :
    Handled Addr :=
  let token := getString go params "token"
  if token = "" then b.refuse "auth" 4001 "Missing session token"
  else
    match validateSession go.trimSpace b.accounts x token with
    | (a, none) => (b.withAccounts a).refuse "auth" 4001 "Invalid or expired session token"
    | (a, some session) =>
      let b := b.withAccounts a
      match if x.fails .getUserWithRoles then none else b.database.getUserWithRoles session.userID with
      | none => b.refuse "auth" (-32603) "Failed to load user profile"
      | some user =>
        ⟨b.signIn c user, some (.success "auth"),
          [broadcastEvent (.presenceUpdate user.id user.username true)]⟩

def handleGetChannels (b : Backend Addr) (x : Env) : Handled Addr :=
  if x.fails .getChannels then b.refuse "get_channels" (-32603) "Failed to fetch channels"
  else ⟨b, some (.success "get_channels"), []⟩

/-- The row `create_channel` asks for, with the defaults filled in. -/
def channelRow (go : GoLibrary) (params : Params) : ChannelRow :=
  let type := go.toLower (go.trimSpace (getString go params "type"))
  let category := go.trimSpace (getString go params "category")
  let bitrate := (getInt params "bitrate").toInt
  let userLimit := (getInt params "user_limit").toInt
  { name := go.trimSpace (getString go params "name")
    type
    category :=
      if category = "" then (if type = "voice" then "Voice Channels" else "Text Channels") else category
    position := (getInt params "position").toInt
    bitrate := if bitrate = 0 then 64000 else bitrate
    userLimit := if userLimit = 0 ∧ type = "voice" then 15 else userLimit }

def handleCreateChannel (go : GoLibrary) (b : Backend Addr) (x : Env) (c : ClientID) (params : Params) :
    Handled Addr :=
  if !hasPermission (b.hub.conn c).permissions permManageChannels then
    b.refuse "create_channel" 4003 "Permission denied: ManageChannels required"
  else
    let row := channelRow go params
    if row.name = "" ∨ (row.type ≠ "text" ∧ row.type ≠ "voice") then
      b.refuse "create_channel" (-32602) "Invalid channel name or type ('text' or 'voice' required)"
    else
      match if x.fails .createChannel then none else b.database.createChannel row with
      | none => b.refuse "create_channel" (-32603) x.errorText
      | some (database, channelID) =>
        ⟨{ b with database }, some (.success "create_channel"), [broadcastEvent (.channelCreated channelID)]⟩

/-- The foreign key of `voice_tokens` deletes the tokens of the channel too. -/
def handleDeleteChannel (b : Backend Addr) (x : Env) (c : ClientID) (params : Params) : Handled Addr :=
  if !hasPermission (b.hub.conn c).permissions permManageChannels then
    b.refuse "delete_channel" 4003 "Permission denied: ManageChannels required"
  else
    let channelID := getUInt32 params "channel_id"
    if channelID = 0 then b.refuse "delete_channel" (-32602) "channel_id is required"
    else if x.fails .deleteChannel then b.refuse "delete_channel" (-32603) x.errorText
    else
      match b.database.deleteChannel channelID with
      | none => b.refuse "delete_channel" 4005 "Channel not found"
      | some database =>
        ⟨{ b with
            database
            voiceTokens := b.voiceTokens.deleteWhere fun _ vt => vt.channelID == channelID },
          some (.success "delete_channel"), [broadcastEvent (.channelDeleted channelID)]⟩

def handleSendChat (go : GoLibrary) (b : Backend Addr) (x : Env) (c : ClientID) (params : Params) :
    Handled Addr :=
  let client := b.hub.conn c
  if !hasPermission client.permissions permSendMessages then
    b.refuse "send_chat" 4003 "Permission denied: SendMessages required"
  else
    let channelID := getUInt32 params "channel_id"
    let content := getString go params "content"
    if channelID = 0 then b.refuse "send_chat" (-32602) "channel_id is required"
    else if go.trimSpace content = "" then b.refuse "send_chat" 4007 "Message content cannot be empty"
    else if 4000 < content.length then
      b.refuse "send_chat" 4008 "Message exceeds maximum length of 4000 characters"
    else if !x.allowMessage then b.refuse "send_chat" 4012 "Rate limit exceeded (max 10 messages/sec)"
    else if x.fails .createMessage then b.refuse "send_chat" (-32603) x.errorText
    else
      match b.database.createMessage channelID client.userID content with
      | .error .channelNotFound => b.refuse "send_chat" 4005 "Channel not found"
      | .error .notText => b.refuse "send_chat" (-32603) "cannot post message to non-text channel"
      | .error .userNotFound => b.refuse "send_chat" (-32603) "user not found"
      | .ok (database, messageID, senderName) =>
        ⟨{ b with database }, some (.success "send_chat"),
          [broadcastEvent (.chatMessage messageID channelID client.userID senderName content)]⟩

def handleGetChatHistory (b : Backend Addr) (x : Env) (params : Params) : Handled Addr :=
  let channelID := getUInt32 params "channel_id"
  if channelID = 0 then b.refuse "get_chat_history" (-32602) "channel_id is required"
  else if x.fails .getMessages then b.refuse "get_chat_history" (-32603) x.errorText
  else if b.database.getChannelByID channelID = none then
    b.refuse "get_chat_history" 4005 "Channel not found"
  else ⟨b, some (.success "get_chat_history"), []⟩

variable [DecidableEq Addr]

def handleJoinVoice (b : Backend Addr) (x : Env) (c : ClientID) (params : Params) : Handled Addr :=
  let client := b.hub.conn c
  if !hasPermission client.permissions permConnectVoice then
    b.refuse "join_voice" 4003 "Permission denied: ConnectVoice required"
  else
    let channelID := getUInt32 params "channel_id"
    let selfMuted := getBool params "self_muted"
    let selfDeafened := getBool params "self_deafened"
    if channelID = 0 then b.refuse "join_voice" (-32602) "channel_id is required"
    else
      match if x.fails .getChannelByID then none else b.database.getChannelByID channelID with
      | none => b.refuse "join_voice" 4005 "Voice channel not found"
      | some row =>
        if row.type ≠ "voice" then b.refuse "join_voice" 4006 "Channel is not a voice channel"
        else
          match b.hub.joinVoice x.now c channelID ⟨row.type, row.userLimit⟩ selfMuted selfDeafened with
          | .error .disconnected => ⟨b, none, []⟩
          | .error .channelFull => b.refuse "join_voice" 4009 "Voice channel is full (max 15 users)"
          | .ok hub =>
            match generateUDPToken b.voiceTokens x client.userID channelID with
            | (voiceTokens, none) =>
              { b with hub, voiceTokens }.refuse "join_voice" (-32603) "Failed to issue voice token"
            | (voiceTokens, some vt) =>
              ⟨{ b with
                  hub
                  voiceTokens
                  sessions :=
                    b.sessions.registerPending vt.token client.userID channelID vt.ssrc vt.expiresAt },
                some (.success "join_voice"),
                [broadcastEvent (.voiceStateUpdate
                  (.joined client.userID client.username channelID selfMuted selfDeafened))]⟩

def handleLeaveVoice (b : Backend Addr) (c : ClientID) : Handled Addr :=
  let client := b.hub.conn c
  ⟨{ b with hub := b.hub.leaveVoice c, sessions := b.sessions.removeSession client.userID },
    some (.success "leave_voice"),
    if 0 < client.activeVoiceChannel then
      [broadcastEvent (.voiceStateUpdate (.left client.userID (some client.username)))]
    else []⟩

def handleSetVoiceState (b : Backend Addr) (x : Env) (c : ClientID) (params : Params) : Handled Addr :=
  let client := b.hub.conn c
  let selfMuted := getBool params "self_muted"
  let selfDeafened := getBool params "self_deafened"
  let isSpeaking := getBool params "is_speaking"
  ⟨{ b with hub := b.hub.setVoiceState x.now c selfMuted selfDeafened isSpeaking },
    some (.success "set_voice_state"),
    [broadcastEvent (.voiceStateUpdate (.changed client.userID client.username client.activeVoiceChannel
      selfMuted selfDeafened isSpeaking))]⟩

def handleGetRoster (b : Backend Addr) (x : Env) : Handled Addr :=
  if x.fails .getAllUsersWithRoles then b.refuse "get_roster" (-32603) "Failed to load roster"
  else ⟨b, some (.success "get_roster"), []⟩

def handleMoveMember (b : Backend Addr) (c : ClientID) (params : Params) : Handled Addr :=
  if !hasPermission (b.hub.conn c).permissions permMoveMembers then
    b.refuse "move_member" 4003 "Permission denied: MoveMembers required"
  else
    let targetUserID := getUInt32 params "target_user_id"
    let toChannelID := getUInt32 params "to_channel_id"
    match b.hub.moveMember targetUserID toChannelID with
    | none => b.refuse "move_member" (-32602) "Target user is not currently in a voice channel"
    | some hub =>
      let fromChannelID := ((b.hub.voiceStates.get? targetUserID).map VoiceState.channelID).getD 0
      ⟨{ b with hub, sessions := b.sessions.moveMember targetUserID toChannelID },
        some (.success "move_member"),
        [broadcastEvent (.memberMoved targetUserID fromChannelID toChannelID),
          broadcastEvent (.voiceStateUpdate (.moved targetUserID toChannelID))]⟩

/-- `handleSetServerMute` and `handleSetServerDeafen` up to their texts. -/
def handleSetServerFlag (b : Backend Addr) (c : ClientID) (params : Params) (flag : ModFlag)
    (action key denied : String) : Handled Addr :=
  if !hasPermission (b.hub.conn c).permissions flag.permission then b.refuse action 4003 denied
  else
    let targetUserID := getUInt32 params "target_user_id"
    let value := getBool params key
    ⟨{ b with
        hub := b.hub.setFlag flag targetUserID value
        sessions := b.sessions.withSession targetUserID fun s => flag.setSession value s },
      some (.success action),
      [broadcastEvent (.voiceStateUpdate (.flagged targetUserID flag value))]⟩

def handleSetServerMute (b : Backend Addr) (c : ClientID) (params : Params) : Handled Addr :=
  b.handleSetServerFlag c params .muted "set_server_mute" "muted"
    "Permission denied: MuteMembers required"

def handleSetServerDeafen (b : Backend Addr) (c : ClientID) (params : Params) : Handled Addr :=
  b.handleSetServerFlag c params .deafened "set_server_deafen" "deafened"
    "Permission denied: DeafenMembers required"

/-- `UnregisterClient`, with the broadcasts of the departure. -/
def unregisterClient (b : Backend Addr) (c : ClientID) : Backend Addr × List Broadcast :=
  let client := b.hub.conn c
  if b.hub.clients.get? c = none then (b, [])
  else
    let (hub, departed) := b.hub.handleClientDisconnect c
    if client.isAuthenticated then
      let sessions := if 0 < departed then b.sessions.removeSession client.userID else b.sessions
      ({ b with hub, sessions },
        (if 0 < departed then
          [broadcastEvent (.voiceStateUpdate (.left client.userID (some client.username)))] else []) ++
        if hub.clientsOf client.userID = [] then
          [broadcastEvent (.presenceUpdate client.userID client.username false)] else [])
    else ({ b with hub }, [])

/-- One turn of the loop that closes the connections of a kicked user. -/
def closeClient (acc : Backend Addr × List Broadcast) (c : ClientID) : Backend Addr × List Broadcast :=
  let (b, broadcasts) := acc.1.unregisterClient c
  (b, acc.2 ++ broadcasts)

def handleKickMember (go : GoLibrary) (b : Backend Addr) (x : Env) (c : ClientID) (params : Params) :
    Handled Addr :=
  if !hasPermission (b.hub.conn c).permissions permKickMembers then
    b.refuse "kick_member" 4003 "Permission denied: KickMembers required"
  else
    let targetUserID := getUInt32 params "target_user_id"
    let given := getString go params "reason"
    let reason := if given = "" then "Kicked by moderator" else given
    if targetUserID = 1 then b.refuse "kick_member" 4010 "Cannot kick server creator"
    else
      -- the errors of the two storage calls are ignored
      let userSessions := deleteUserSessions b.userSessions (x.fault .deleteUserSessions) targetUserID
      let voiceTokens := if x.fails .revokeVoiceTokens then b.voiceTokens
        else revokeVoiceTokens b.voiceTokens targetUserID
      let hadVoiceChannel := ((b.hub.voiceStates.get? targetUserID).map VoiceState.channelID).getD 0
      let (hub, clientsToClose) := b.hub.kickMember targetUserID
      let kicked :=
        { b with hub, userSessions, voiceTokens, sessions := b.sessions.removeSession targetUserID }
      let (b, broadcasts) := (visits x.order clientsToClose).foldl closeClient (kicked, [])
      ⟨b, some (.success "kick_member"),
        broadcasts ++ broadcastEvent (.memberKicked targetUserID reason) ::
          if 0 < hadVoiceChannel then
            [broadcastEvent (.voiceStateUpdate (.left targetUserID none))] else []⟩

/-- The handler an action goes to. -/
def handleAction (go : GoLibrary) (b : Backend Addr) (x : Env) (c : ClientID) (params : Params) :
    Action → Handled Addr
  | .register => b.handleRegister go x c params
  | .login => b.handleLogin go x c params
  | .auth => b.handleAuth go x c params
  | .getChannels => b.handleGetChannels x
  | .createChannel => b.handleCreateChannel go x c params
  | .deleteChannel => b.handleDeleteChannel x c params
  | .sendChat => b.handleSendChat go x c params
  | .getChatHistory => b.handleGetChatHistory x params
  | .joinVoice => b.handleJoinVoice x c params
  | .leaveVoice => b.handleLeaveVoice c
  | .setVoiceState => b.handleSetVoiceState x c params
  | .getRoster => b.handleGetRoster x
  | .moveMember => b.handleMoveMember c params
  | .setServerFlag .muted => b.handleSetServerMute c params
  | .setServerFlag .deafened => b.handleSetServerDeafen c params
  | .kickMember => b.handleKickMember go x c params
  | .ping => ⟨b, some (.success "pong"), []⟩

/-- `HandleMessage` on the bytes of one frame. -/
def handleMessage (go : GoLibrary) (b : Backend Addr) (x : Env) (c : ClientID) (raw : GoBytes) :
    Handled Addr :=
  match go.unmarshal raw with
  | none => b.refuse "" (-32700) "Parse error"
  | some env =>
    let action := go.toLower (go.trimSpace env.action)
    let params := env.params.getD env.fields
    if action = "" then b.refuse "" (-32600) "Invalid Request: missing action"
    else if !(b.hub.conn c).isAuthenticated ∧ action ≠ "auth" ∧ action ≠ "login" ∧ action ≠ "register" ∧
        action ≠ "ping" then
      b.refuse action 4001 "Authentication required"
    else
      match Action.ofString action with
      | some a => b.handleAction go x c params a
      | none => b.refuse action (-32601) ("Method not found: " ++ action)

section joinVoice

omit [DecidableEq Addr]

variable (b : Backend Addr) (x : Env) (c : ClientID) (params : Params)

/-- The request passes every check of `handleJoinVoice`, on this row of the channel,
and its hub region leaves `hub`. -/
structure JoinsVoice (row : ChannelRow) (hub : Hub) : Prop where
  allowed : hasPermission (b.hub.conn c).permissions permConnectVoice = true
  channelID : getUInt32 params "channel_id" ≠ 0
  lookup : x.fails .getChannelByID = false
  found : b.database.getChannelByID (getUInt32 params "channel_id") = some row
  voice : row.type = "voice"
  joined : b.hub.joinVoice x.now c (getUInt32 params "channel_id") ⟨row.type, row.userLimit⟩
    (getBool params "self_muted") (getBool params "self_deafened") = .ok hub

/-- A `join_voice` is refused and changes nothing; or it changes the hub, and then
the pending tokens and the broadcasts are those of the voice token it gets, if any. -/
theorem handleJoinVoice_cases :
    (∀ row hub, ¬ b.JoinsVoice x c params row hub) ∧ (b.handleJoinVoice x c params).backend = b ∧
        (b.handleJoinVoice x c params).broadcasts = [] ∨
      ∃ row hub, b.JoinsVoice x c params row hub ∧
        ((∃ voiceTokens, generateUDPToken b.voiceTokens x (b.hub.conn c).userID
              (getUInt32 params "channel_id") = (voiceTokens, none) ∧
            (b.handleJoinVoice x c params).backend = { b with hub, voiceTokens } ∧
            (b.handleJoinVoice x c params).broadcasts = []) ∨
          ∃ voiceTokens vt, generateUDPToken b.voiceTokens x (b.hub.conn c).userID
              (getUInt32 params "channel_id") = (voiceTokens, some vt) ∧
            (b.handleJoinVoice x c params).backend = { b with
              hub
              voiceTokens
              sessions := b.sessions.registerPending vt.token (b.hub.conn c).userID
                (getUInt32 params "channel_id") vt.ssrc vt.expiresAt } ∧
            (b.handleJoinVoice x c params).broadcasts =
              [broadcastEvent (.voiceStateUpdate (.joined (b.hub.conn c).userID (b.hub.conn c).username
                (getUInt32 params "channel_id") (getBool params "self_muted")
                (getBool params "self_deafened")))]) := by
  unfold handleJoinVoice
  simp only
  split
  · rename_i hdenied
    refine .inl ⟨fun row hub hjoins => ?_, rfl, rfl⟩
    simp [hjoins.allowed] at hdenied
  rename_i hallowed
  split
  · rename_i hzero
    exact .inl ⟨fun row hub hjoins => hjoins.channelID hzero, rfl, rfl⟩
  rename_i hchannel
  split
  · rename_i hlookup
    refine .inl ⟨fun row hub hjoins => ?_, rfl, rfl⟩
    simp [hjoins.lookup, hjoins.found] at hlookup
  rename_i row hlookup
  have hcall : x.fails .getChannelByID = false := by
    cases hfails : x.fails .getChannelByID
    · rfl
    · simp [hfails] at hlookup
  have hfound : b.database.getChannelByID (getUInt32 params "channel_id") = some row := by
    simpa [hcall] using hlookup
  have hrow : ∀ {row' hub}, b.JoinsVoice x c params row' hub → row' = row := fun hjoins =>
    Option.some.inj (hjoins.found.symm.trans hfound)
  split
  · rename_i htype
    exact .inl ⟨fun row' hub hjoins => htype (hrow hjoins ▸ hjoins.voice), rfl, rfl⟩
  rename_i htype
  split
  · rename_i hjoin
    refine .inl ⟨fun row' hub hjoins => ?_, rfl, rfl⟩
    obtain rfl := hrow hjoins
    cases hjoin.symm.trans hjoins.joined
  · rename_i hjoin
    refine .inl ⟨fun row' hub hjoins => ?_, rfl, rfl⟩
    obtain rfl := hrow hjoins
    cases hjoin.symm.trans hjoins.joined
  rename_i hub hjoin
  refine .inr ⟨row, hub, ⟨by simpa using hallowed, hchannel, hcall, hfound, by simpa using htype, hjoin⟩, ?_⟩
  split
  · rename_i voiceTokens htoken
    exact .inl ⟨voiceTokens, htoken, rfl, rfl⟩
  · rename_i voiceTokens vt htoken
    exact .inr ⟨voiceTokens, vt, htoken, rfl, rfl⟩

end joinVoice

end Backend

end low_latency_voice.control
