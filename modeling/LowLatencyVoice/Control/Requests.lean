import LowLatencyVoice.Lib.Program
import LowLatencyVoice.Auth.Rights
import LowLatencyVoice.Control.Responses

open low_latency_voice.model low_latency_voice.storage low_latency_voice.auth

namespace low_latency_voice.control

/-- What a connection leaves behind when it goes. -/
structure Departure where
  userID : UInt32
  username : String
  channelID : UInt32
  deriving DecidableEq, Repr

/-- A failure of the repository. -/
inductive StorageError where
  | channelNotFound
  | other (text : String)
  deriving DecidableEq, Repr

/-- The accesses of a request to the hub and to the client objects. Each holds its lock
throughout, or reads what only the handlers of the connection write. -/
inductive Region where
  | client
  | signIn (user : User)
  | addUserClient (userID : UInt32)
  | joinVoice (channelID : UInt32) (channel : Channel) (selfMuted selfDeafened : Bool)
  | leaveVoice
  | setVoiceState (selfMuted selfDeafened isSpeaking : Bool)
  | roster (users : List UserWithRoles)
  | moveMember (targetUserID toChannelID : UInt32)
  | setFlag (flag : ModFlag) (targetUserID : UInt32) (value : Bool)
  | kickMember (targetUserID : UInt32)
  | handleClientDisconnect (client : ClientID)
  | remainingSessions (userID : UInt32)

namespace Region

abbrev Answer : Region → Type
  | .client => Client
  | .joinVoice .. => Except JoinRefusal Unit
  | .leaveVoice => UInt32
  | .setVoiceState .. => UInt32
  | .roster _ => List RosterMember
  | .moveMember .. => Option UInt32
  | .kickMember _ => List ClientID × UInt32
  | .handleClientDisconnect _ => Option Departure
  | .remainingSessions _ => Nat
  | _ => Unit

/-- One round of the loop of `handleGetRoster`. -/
def rosterMember (h : Hub) (u : UserWithRoles) : RosterMember :=
  let isOnline := 0 < (h.clientsOf u.id).length
  let vState := (h.voiceStates.get? u.id).filter fun state => 0 < state.channelID
  ⟨u.id, u.username, u.roles, u.isAdmin, isOnline, vState.map VoiceState.channelID, vState⟩

/-- The access on behalf of `c`, at a time and with an order for its `range` loop. -/
def run (c : ClientID) (now : Time) (order : List ClientID) : (r : Region) → Hub → r.Answer × Hub
  | .client, h => (h.conn c, h)
  | .signIn user, h => ((), h.updateClient c fun client => client.signIn user)
  | .addUserClient userID, h => ((), h.addUserClient userID c)
  | .joinVoice channelID channel selfMuted selfDeafened, h =>
    match h.joinVoice now c channelID channel selfMuted selfDeafened with
    | .error refusal => (.error refusal, h)
    | .ok hub => (.ok (), hub)
  | .leaveVoice, h => ((h.conn c).activeVoiceChannel, h.leaveVoice c)
  | .setVoiceState selfMuted selfDeafened isSpeaking, h =>
    ((h.conn c).activeVoiceChannel, h.setVoiceState now c selfMuted selfDeafened isSpeaking)
  | .roster users, h => (users.map (rosterMember h), h)
  | .moveMember targetUserID toChannelID, h =>
    match h.moveMember targetUserID toChannelID with
    | none => (none, h)
    | some hub => (some (((h.voiceStates.get? targetUserID).map VoiceState.channelID).getD 0), hub)
  | .setFlag flag targetUserID value, h => ((), h.setFlag flag targetUserID value)
  | .kickMember targetUserID, h =>
    let (hub, clientsToClose) := h.kickMember targetUserID
    ((visits order clientsToClose, ((h.voiceStates.get? targetUserID).map VoiceState.channelID).getD 0), hub)
  | .handleClientDisconnect client', h =>
    let (hub, departed) := h.handleClientDisconnect client'
    let k := h.conn client'
    (if h.clients.get? client' = none ∨ !k.isAuthenticated then none else some ⟨k.userID, k.username, departed⟩,
      hub)
  | .remainingSessions userID, h => ((h.clientsOf userID).length, h)

end Region

/-- The calls of the handlers. Calls on the session manager do nothing without a router. -/
inductive Effect where
  | region (r : Region)
  | register (username password clientVersion : String)
  | login (username password clientVersion : String)
  | validateSession (token : String)
  | getUserWithRoles (id : UInt32)
  | udpPort
  | getChannels
  | createChannel (row : ChannelRow)
  | deleteChannel (id : UInt32)
  | allowMessage
  | createMessage (channelID senderID : UInt32) (content : String)
  | getMessages (channelID : UInt32) (beforeID : UInt64) (limit : Int64)
  | getChannelByID (id : UInt32)
  | generateUDPToken (userID channelID : UInt32)
  | registerPending (token : Token) (userID channelID ssrc : UInt32) (expiresAt : Time)
  | removeSession (userID : UInt32)
  | moveSession (userID toChannelID : UInt32)
  | setSessionFlag (flag : ModFlag) (userID : UInt32) (value : Bool)
  | getAllUsersWithRoles
  | deleteUserSessions (userID : UInt32)
  | revokeVoiceTokens (userID : UInt32)
  | writeControl (client : ClientID) (code : Nat) (reason : String)
  | now
  | sendJSON (v : Response)
  | broadcastEvent (event : Event)

/-- What a call returns. An error of the auth service comes with its text, and a message
with its timestamp. -/
abbrev Effect.Answer : Effect → Type
  | .region r => r.Answer
  | .register .. => Except (AuthError × String) AuthResult
  | .login .. => Except (AuthError × String) AuthResult
  | .validateSession _ => Option UserSession
  | .getUserWithRoles _ => Option UserWithRoles
  | .udpPort => Int
  | .getChannels => Option (List StoredChannel)
  | .createChannel _ => Except String StoredChannel
  | .deleteChannel _ => Except StorageError Unit
  | .allowMessage => Bool
  | .createMessage .. => Except StorageError (Message × Int)
  | .getMessages .. => Except StorageError (List Message × Bool)
  | .getChannelByID _ => Option ChannelRow
  | .generateUDPToken .. => Option VoiceToken
  | .getAllUsersWithRoles => Option (List UserWithRoles)
  | .now => Time
  | _ => Unit

abbrev Handler := Program Effect Effect.Answer Unit

namespace Handler

/-- A call of a handler. -/
abbrev call (k : Effect) : Program Effect Effect.Answer k.Answer := .perform k

/-- An access to the hub. -/
abbrev access (r : Region) : Program Effect Effect.Answer r.Answer := call (.region r)

def sendError (reqID : Json) (action : String) (code : Int) (message : String) : Handler :=
  call (.sendJSON (.error (newErrorResponse reqID action code message)))

def sendSuccess (reqID : Json) (action : String) (payload : List (String × Value)) : Handler :=
  call (.sendJSON (.success (newSuccessResponse reqID action (.map payload))))

def handleRegister (go : GoLibrary) (reqID : Json) (params : Params) : Handler := do
  let username := getString go params "username"
  let password := getString go params "password"
  let clientVersion := getString go params "client_version"
  match ← call (.register username password clientVersion) with
  | .error (e, text) =>
    match e with
    | .duplicateUser => sendError reqID "register" 4004 "Username already exists"
    | .invalidUsernameFormat | .passwordTooShort | .passwordTooLong =>
      sendError reqID "register" (-32602) text
    | _ => sendError reqID "register" (-32603) text
  | .ok res =>
    access (.signIn ⟨res.userID, res.username, res.permissions⟩)
    access (.addUserClient res.userID)
    let udpPort ← call .udpPort
    sendSuccess reqID "register" [("user_id", .uint32 res.userID), ("username", .string res.username),
      ("token", .token res.token), ("is_admin", .bool res.isAdmin), ("roles", .strings res.roles),
      ("permissions", .uint32 res.permissions), ("udp_port", .int udpPort)]
    call (.broadcastEvent (.memberJoined res.userID res.username))
    call (.broadcastEvent (.presenceUpdate res.userID res.username true))

def handleLogin (go : GoLibrary) (reqID : Json) (params : Params) : Handler := do
  let username := getString go params "username"
  let password := getString go params "password"
  let clientVersion := getString go params "client_version"
  match ← call (.login username password clientVersion) with
  | .error (e, text) =>
    match e with
    | .invalidCredentials => sendError reqID "login" 4002 "Invalid username or password"
    | .userDisabled => sendError reqID "login" 4001 "User account is disabled"
    | _ => sendError reqID "login" (-32603) text
  | .ok res =>
    access (.signIn ⟨res.userID, res.username, res.permissions⟩)
    access (.addUserClient res.userID)
    let udpPort ← call .udpPort
    sendSuccess reqID "login" [("user_id", .uint32 res.userID), ("username", .string res.username),
      ("token", .token res.token), ("is_admin", .bool res.isAdmin), ("roles", .strings res.roles),
      ("permissions", .uint32 res.permissions), ("udp_port", .int udpPort)]
    call (.broadcastEvent (.presenceUpdate res.userID res.username true))

def handleAuth (go : GoLibrary) (reqID : Json) (params : Params) : Handler :=
  let token := getString go params "token"
  if token = "" then sendError reqID "auth" 4001 "Missing session token"
  else do
    match ← call (.validateSession token) with
    | none => sendError reqID "auth" 4001 "Invalid or expired session token"
    | some session =>
      match ← call (.getUserWithRoles session.userID) with
      | none => sendError reqID "auth" (-32603) "Failed to load user profile"
      | some user =>
        let isAdmin := hasPermission user.permissions permAdmin
        access (.signIn ⟨user.id, user.username, user.permissions⟩)
        access (.addUserClient user.id)
        let udpPort ← call .udpPort
        sendSuccess reqID "auth" [("user_id", .uint32 user.id), ("username", .string user.username),
          ("is_admin", .bool isAdmin), ("roles", .strings user.roles),
          ("permissions", .uint32 user.permissions), ("udp_port", .int udpPort)]
        call (.broadcastEvent (.presenceUpdate user.id user.username true))

def handleGetChannels (reqID : Json) : Handler := do
  match ← call .getChannels with
  | none => sendError reqID "get_channels" (-32603) "Failed to fetch channels"
  | some channels => sendSuccess reqID "get_channels" [("channels", .channels channels)]

def handleCreateChannel (go : GoLibrary) (reqID : Json) (params : Params) : Handler := do
  let client ← access .client
  if !hasPermission client.permissions permManageChannels then
    sendError reqID "create_channel" 4003 "Permission denied: ManageChannels required"
  else
    let row := Backend.channelRow go params
    if row.name = "" ∨ (row.type ≠ "text" ∧ row.type ≠ "voice") then
      sendError reqID "create_channel" (-32602) "Invalid channel name or type ('text' or 'voice' required)"
    else
      match ← call (.createChannel row) with
      | .error text => sendError reqID "create_channel" (-32603) text
      | .ok ch =>
        sendSuccess reqID "create_channel" [("channel", .channel ch)]
        call (.broadcastEvent (.channelCreated ch.id))

def handleDeleteChannel (reqID : Json) (params : Params) : Handler := do
  let client ← access .client
  if !hasPermission client.permissions permManageChannels then
    sendError reqID "delete_channel" 4003 "Permission denied: ManageChannels required"
  else
    let channelID := getUInt32 params "channel_id"
    if channelID = 0 then sendError reqID "delete_channel" (-32602) "channel_id is required"
    else
      match ← call (.deleteChannel channelID) with
      | .error .channelNotFound => sendError reqID "delete_channel" 4005 "Channel not found"
      | .error (.other text) => sendError reqID "delete_channel" (-32603) text
      | .ok () =>
        sendSuccess reqID "delete_channel" [("channel_id", .uint32 channelID)]
        call (.broadcastEvent (.channelDeleted channelID))

def handleSendChat (go : GoLibrary) (reqID : Json) (params : Params) : Handler := do
  let client ← access .client
  if !hasPermission client.permissions permSendMessages then
    sendError reqID "send_chat" 4003 "Permission denied: SendMessages required"
  else
    let channelID := getUInt32 params "channel_id"
    let content := getString go params "content"
    if channelID = 0 then sendError reqID "send_chat" (-32602) "channel_id is required"
    else if go.trimSpace content = "" then
      sendError reqID "send_chat" 4007 "Message content cannot be empty"
    else if 4000 < content.length then
      sendError reqID "send_chat" 4008 "Message exceeds maximum length of 4000 characters"
    else
      let allowed ← call .allowMessage
      if !allowed then sendError reqID "send_chat" 4012 "Rate limit exceeded (max 10 messages/sec)"
      else
        match ← call (.createMessage channelID client.userID content) with
        | .error .channelNotFound => sendError reqID "send_chat" 4005 "Channel not found"
        | .error (.other text) => sendError reqID "send_chat" (-32603) text
        | .ok (msg, timestamp) =>
          sendSuccess reqID "send_chat" [("message_id", .uint64 msg.id), ("channel_id", .uint32 msg.channelID),
            ("sender_id", .uint32 msg.senderID), ("sender_name", .string msg.senderName),
            ("content", .string msg.content), ("timestamp", .int timestamp)]
          call (.broadcastEvent
            (.chatMessage msg.id msg.channelID msg.senderID msg.senderName msg.content))

def handleGetChatHistory (reqID : Json) (params : Params) : Handler :=
  let channelID := getUInt32 params "channel_id"
  let beforeID := (getInt params "before_id").toUInt64
  let limit := getInt params "limit"
  if channelID = 0 then sendError reqID "get_chat_history" (-32602) "channel_id is required"
  else do
    match ← call (.getMessages channelID beforeID limit) with
    | .error .channelNotFound => sendError reqID "get_chat_history" 4005 "Channel not found"
    | .error (.other text) => sendError reqID "get_chat_history" (-32603) text
    | .ok (messages, hasMore) =>
      sendSuccess reqID "get_chat_history" [("channel_id", .uint32 channelID), ("messages", .messages messages),
        ("has_more", .bool hasMore)]

def handleJoinVoice (reqID : Json) (params : Params) : Handler := do
  let client ← access .client
  if !hasPermission client.permissions permConnectVoice then
    sendError reqID "join_voice" 4003 "Permission denied: ConnectVoice required"
  else
    let channelID := getUInt32 params "channel_id"
    let selfMuted := getBool params "self_muted"
    let selfDeafened := getBool params "self_deafened"
    if channelID = 0 then sendError reqID "join_voice" (-32602) "channel_id is required"
    else
      match ← call (.getChannelByID channelID) with
      | none => sendError reqID "join_voice" 4005 "Voice channel not found"
      | some ch =>
        if ch.type ≠ "voice" then sendError reqID "join_voice" 4006 "Channel is not a voice channel"
        else
          match ← access (.joinVoice channelID ⟨ch.type, ch.userLimit⟩ selfMuted selfDeafened) with
          -- the client is gone, and nobody is answered
          | .error .disconnected => pure ()
          | .error .channelFull => sendError reqID "join_voice" 4009 "Voice channel is full (max 15 users)"
          | .ok () =>
            match ← call (.generateUDPToken client.userID channelID) with
            | none => sendError reqID "join_voice" (-32603) "Failed to issue voice token"
            | some vt =>
              call (.registerPending vt.token client.userID channelID vt.ssrc vt.expiresAt)
              let udpPort ← call .udpPort
              sendSuccess reqID "join_voice" [("channel_id", .uint32 channelID), ("udp_token", .token vt.token),
                ("udp_port", .int udpPort), ("ssrc", .uint32 vt.ssrc)]
              call (.broadcastEvent (.voiceStateUpdate
                (.joined client.userID client.username channelID selfMuted selfDeafened)))

def handleLeaveVoice (reqID : Json) : Handler := do
  let client ← access .client
  let chID ← access .leaveVoice
  call (.removeSession client.userID)
  sendSuccess reqID "leave_voice" [("channel_id", .uint32 chID)]
  if 0 < chID then call (.broadcastEvent (.voiceStateUpdate (.left client.userID (some client.username))))
  else pure ()

def handleSetVoiceState (reqID : Json) (params : Params) : Handler := do
  let client ← access .client
  let selfMuted := getBool params "self_muted"
  let selfDeafened := getBool params "self_deafened"
  let isSpeaking := getBool params "is_speaking"
  let chID ← access (.setVoiceState selfMuted selfDeafened isSpeaking)
  sendSuccess reqID "set_voice_state" [("self_muted", .bool selfMuted), ("self_deafened", .bool selfDeafened),
    ("is_speaking", .bool isSpeaking)]
  call (.broadcastEvent (.voiceStateUpdate
    (.changed client.userID client.username chID selfMuted selfDeafened isSpeaking)))

def handleGetRoster (reqID : Json) : Handler := do
  match ← call .getAllUsersWithRoles with
  | none => sendError reqID "get_roster" (-32603) "Failed to load roster"
  | some users =>
    let members ← access (.roster users)
    sendSuccess reqID "get_roster" [("members", .members members)]

def handleMoveMember (reqID : Json) (params : Params) : Handler := do
  let client ← access .client
  if !hasPermission client.permissions permMoveMembers then
    sendError reqID "move_member" 4003 "Permission denied: MoveMembers required"
  else
    let targetUserID := getUInt32 params "target_user_id"
    let toChannelID := getUInt32 params "to_channel_id"
    match ← access (.moveMember targetUserID toChannelID) with
    | none => sendError reqID "move_member" (-32602) "Target user is not currently in a voice channel"
    | some fromChannelID =>
      call (.moveSession targetUserID toChannelID)
      sendSuccess reqID "move_member" [("user_id", .uint32 targetUserID),
        ("from_channel_id", .uint32 fromChannelID), ("to_channel_id", .uint32 toChannelID)]
      call (.broadcastEvent (.memberMoved targetUserID fromChannelID toChannelID))
      call (.broadcastEvent (.voiceStateUpdate (.moved targetUserID toChannelID)))

/-- `handleSetServerMute` and `handleSetServerDeafen` up to their texts. -/
def handleSetServerFlag (reqID : Json) (params : Params) (flag : ModFlag) (action key field denied : String) :
    Handler := do
  let client ← access .client
  if !hasPermission client.permissions flag.permission then sendError reqID action 4003 denied
  else
    let targetUserID := getUInt32 params "target_user_id"
    let value := getBool params key
    access (.setFlag flag targetUserID value)
    call (.setSessionFlag flag targetUserID value)
    sendSuccess reqID action [("user_id", .uint32 targetUserID), (field, .bool value)]
    call (.broadcastEvent (.voiceStateUpdate (.flagged targetUserID flag value)))

def handleSetServerMute (reqID : Json) (params : Params) : Handler :=
  handleSetServerFlag reqID params .muted "set_server_mute" "muted" "server_muted"
    "Permission denied: MuteMembers required"

def handleSetServerDeafen (reqID : Json) (params : Params) : Handler :=
  handleSetServerFlag reqID params .deafened "set_server_deafen" "deafened" "server_deafened"
    "Permission denied: DeafenMembers required"

/-- The part of `handleClientDisconnect` about the voice channel the client leaves. -/
def announceLeft (d : Departure) : Handler :=
  if 0 < d.channelID then do
    call (.removeSession d.userID)
    call (.broadcastEvent (.voiceStateUpdate (.left d.userID (some d.username))))
  else pure ()

/-- `UnregisterClient`. -/
def unregisterClient (client : ClientID) : Handler := do
  match ← access (.handleClientDisconnect client) with
  | none => pure ()
  | some d =>
    announceLeft d
    let remaining ← access (.remainingSessions d.userID)
    if remaining = 0 then call (.broadcastEvent (.presenceUpdate d.userID d.username false))
    else pure ()

/-- One turn of the loop that closes the connections of a kicked user. -/
def closeClient (reason : String) (client : ClientID) : Handler := do
  call (.writeControl client 4001 reason)
  unregisterClient client

def handleKickMember (go : GoLibrary) (reqID : Json) (params : Params) : Handler := do
  let client ← access .client
  if !hasPermission client.permissions permKickMembers then
    sendError reqID "kick_member" 4003 "Permission denied: KickMembers required"
  else
    let targetUserID := getUInt32 params "target_user_id"
    let given := getString go params "reason"
    let reason := if given = "" then "Kicked by moderator" else given
    if targetUserID = 1 then sendError reqID "kick_member" 4010 "Cannot kick server creator"
    else
      call (.deleteUserSessions targetUserID)
      call (.revokeVoiceTokens targetUserID)
      let (clientsToClose, hadVoiceChannel) ← access (.kickMember targetUserID)
      call (.removeSession targetUserID)
      Program.forEach clientsToClose (closeClient reason)
      sendSuccess reqID "kick_member" [("user_id", .uint32 targetUserID), ("reason", .string reason)]
      call (.broadcastEvent (.memberKicked targetUserID reason))
      if 0 < hadVoiceChannel then call (.broadcastEvent (.voiceStateUpdate (.left targetUserID none)))
      else pure ()

def handlePing (reqID : Json) : Handler := do
  let now ← call .now
  sendSuccess reqID "pong" [("action", .string "pong"), ("server_time", .int (now / 1000000000))]

/-- The handler an action goes to. -/
def handleAction (go : GoLibrary) (reqID : Json) (params : Params) : Action → Handler
  | .register => handleRegister go reqID params
  | .login => handleLogin go reqID params
  | .auth => handleAuth go reqID params
  | .getChannels => handleGetChannels reqID
  | .createChannel => handleCreateChannel go reqID params
  | .deleteChannel => handleDeleteChannel reqID params
  | .sendChat => handleSendChat go reqID params
  | .getChatHistory => handleGetChatHistory reqID params
  | .joinVoice => handleJoinVoice reqID params
  | .leaveVoice => handleLeaveVoice reqID
  | .setVoiceState => handleSetVoiceState reqID params
  | .getRoster => handleGetRoster reqID
  | .moveMember => handleMoveMember reqID params
  | .setServerFlag .muted => handleSetServerMute reqID params
  | .setServerFlag .deafened => handleSetServerDeafen reqID params
  | .kickMember => handleKickMember go reqID params
  | .ping => handlePing reqID

end Handler

/-- The parts of `RequestEnvelope` a response repeats, besides what the handlers read. -/
structure Request extends RequestEnvelope where
  id : Json
  requestID : String

/-- `reqID` of `HandleMessage`. -/
def Request.reqID (env : Request) : Json :=
  match env.id with
  | .null => if env.requestID ≠ "" then .string env.requestID else .null
  | id => id

/-- The `id` field. The last member counts, a null too. -/
def idField (values : List Json) : Json := (values.getLast?.getD .null).decoded

/-- `json.Unmarshal` into the envelope. -/
def JsonLibrary.request (json : JsonLibrary) (raw : GoBytes) : Option Request :=
  (json.parse raw).bind fun doc => (json.unmarshal doc).map fun (env : RequestEnvelope) =>
    { env with
      id := idField (json.valuesOf "id" doc.members)
      requestID := JsonLibrary.stringOf (json.valuesOf "request_id" doc.members) }

/-- What the handlers read is decoded as before. -/
theorem JsonLibrary.unmarshal_request (json : JsonLibrary) (raw : GoBytes) :
    json.go.unmarshal raw = (json.request raw).map Request.toRequestEnvelope := by
  change (json.parse raw).bind json.unmarshal = _
  unfold request
  cases json.parse raw with
  | none => rfl
  | some doc =>
    rw [Option.bind_some, Option.bind_some]
    cases json.unmarshal doc <;> rfl

/-- `HandleMessage` on the bytes of one frame. -/
def handleMessage (json : JsonLibrary) (raw : GoBytes) : Handler :=
  match json.request raw with
  | none => Handler.sendError .null "" (-32700) "Parse error"
  | some env =>
    let action := json.toLower (json.trimSpace env.action)
    let reqID := env.reqID
    let params := env.params.getD env.fields
    if action = "" then Handler.sendError reqID "" (-32600) "Invalid Request: missing action"
    else do
      let client ← Handler.access .client
      if !client.isAuthenticated ∧ action ≠ "auth" ∧ action ≠ "login" ∧ action ≠ "register" ∧
          action ≠ "ping" then
        Handler.sendError reqID action 4001 "Authentication required"
      else
        match Action.ofString action with
        | some a => Handler.handleAction json.go reqID params a
        | none => Handler.sendError reqID action (-32601) ("Method not found: " ++ action)

end low_latency_voice.control
