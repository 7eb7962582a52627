import LowLatencyVoice.Audio.RouterLaws
import LowLatencyVoice.Control.HubLaws
import LowLatencyVoice.Lib.Goroutines
import LowLatencyVoice.Storage.Sessions

open low_latency_voice.model low_latency_voice.storage low_latency_voice.audio

namespace low_latency_voice.control

/-- A flag of the pair a session carries. -/
def ModFlag.ofPair : ModFlag → Bool × Bool → Bool
  | .muted, flags => flags.1
  | .deafened, flags => flags.2

/-- `Session.SetServerMute` or `Session.SetServerDeafen`. -/
def ModFlag.setSession {Addr : Type} (flag : ModFlag) (value : Bool) (s : Session Addr) : Session Addr :=
  match flag with
  | .muted => s.setServerMute value
  | .deafened => s.setServerDeafen value

/-- The permission a request to set the flag needs. -/
def ModFlag.permission : ModFlag → Permission
  | .muted => permMuteMembers
  | .deafened => permDeafenMembers

namespace server

/-- What both planes and the database hold. -/
structure World (Addr : Type) where
  hub : Hub
  sessions : SessionManager Addr
  voiceTokens : VoiceTokens
  userSessions : UserSessions

/-- What the environment decides at an action: the clock, a failing statement,
the random bytes, the order of a `range` loop, and the rows of the tables that
are not modelled. -/
structure Choice where
  now : Time
  fault : Fault
  token : Token
  ssrc : UInt32
  channel : Option Channel
  profile : Option (String × Permission)
  order : List ClientID

/-- The atomic actions of the server: a lock region, a storage call, or a call
on the session manager. -/
inductive Act (Addr : Type) where
  | registerClient (c : ClientID)
  | getSession (c : ClientID) (token : Token)
  | deleteSession (token : Token)
  | getUserWithRoles (c : ClientID) (userID : UInt32)
  | createSession (c : ClientID) (user : User)
  | signIn (c : ClientID) (user : User)
  | addUserClient (userID : UInt32) (c : ClientID)
  | getChannelByID (c : ClientID) (channelID : UInt32) (selfMuted selfDeafened : Bool)
  | joinVoice (c : ClientID) (channelID : UInt32) (channel : Channel) (selfMuted selfDeafened : Bool)
  | generateUDPToken (c : ClientID) (channelID : UInt32)
  | registerPending (vt : VoiceToken)
  | leaveVoice (c : ClientID)
  | setVoiceState (c : ClientID) (selfMuted selfDeafened isSpeaking : Bool)
  | removeSession (userID : UInt32)
  | moveMember (targetUserID toChannelID : UInt32)
  | moveSession (targetUserID toChannelID : UInt32)
  | setFlag (flag : ModFlag) (targetUserID : UInt32) (value : Bool)
  | lookupFlag (flag : ModFlag) (targetUserID : UInt32) (value : Bool)
  | writeFlag (flag : ModFlag) (ref : SessionRef) (value : Bool)
  | deleteUserSessions (userID : UInt32)
  | revokeVoiceTokens (userID : UInt32)
  | kickMember (targetUserID : UInt32)
  | handleClientDisconnect (c : ClientID)
  | activatePending (pkt : Packet) (srcAddr : Addr)
  | consumeVoiceToken (pkt : Packet) (srcAddr : Addr)
  | getByUser (pkt : Packet) (srcAddr : Addr)
  | registerSession (session : Session Addr)
  | retune (ref : SessionRef) (channelID : UInt32)
  | updateAddr (userID : UInt32) (srcAddr : Addr)
  | cleanStaleSessions (maxIdle : Time)

/-- A request of a connection, or what else sets a goroutine to work. -/
inductive Request (Addr : Type) where
  | serveWs (n : Nat) (c : ClientID)
  | auth (c : ClientID) (token : Token)
  | login (c : ClientID) (user : User)
  | register (c : ClientID) (user : User)
  | joinVoice (c : ClientID) (channelID : UInt32) (selfMuted selfDeafened : Bool)
  | leaveVoice (c : ClientID)
  | setVoiceState (c : ClientID) (selfMuted selfDeafened isSpeaking : Bool)
  | moveMember (c : ClientID) (targetUserID toChannelID : UInt32)
  | setFlag (c : ClientID) (flag : ModFlag) (targetUserID : UInt32) (value : Bool)
  | kickMember (c : ClientID) (targetUserID : UInt32)
  | hangUp (c : ClientID)
  | unregister (c : ClientID)
  | handshake (pkt : Packet) (srcAddr : Addr)
  | cleanup

variable {Addr : Type}

def Request.owner : Request Addr → Routine
  | .serveWs n _ => .accept n
  | .auth c _ | .login c _ | .register c _ | .joinVoice c _ _ _ | .leaveVoice c
  | .setVoiceState c _ _ _ | .moveMember c _ _ | .setFlag c _ _ _ | .kickMember c _ | .hangUp c =>
    .readPump c
  | .unregister _ => .run
  | .handshake _ _ => .readLoop
  | .cleanup => .cleanupLoop

/-- The connection a request arrives on. -/
def Request.connection? : Request Addr → Option ClientID
  | .auth c _ | .login c _ | .register c _ | .joinVoice c _ _ _ | .leaveVoice c
  | .setVoiceState c _ _ _ | .moveMember c _ _ | .setFlag c _ _ _ | .kickMember c _ | .hangUp c =>
    some c
  | .serveWs _ _ | .unregister _ | .handshake _ _ | .cleanup => none

/-- The gates a request passes before its handler does anything: the connection
is authenticated and has the permission, if one is required. -/
def gated (client : Client) (required : Option Permission) (acts : List (Act Addr)) : List (Act Addr) :=
  if client.isAuthenticated = false then []
  else
    match required with
    | none => acts
    | some permission => if hasPermission client.permissions permission then acts else []

/-- How long a session may be idle: 60 seconds. -/
def sessionMaxIdle : Time := 60000000000

/-- The first actions of a request that is taken up. -/
def handle (w : World Addr) : Request Addr → List (Act Addr)
  | .serveWs _ c => [.registerClient c]
  | .auth c token => [.getSession c token]
  | .login c user | .register c user => [.createSession c user]
  | .joinVoice c channelID selfMuted selfDeafened =>
    gated (w.hub.conn c) (some permConnectVoice)
      (if channelID = 0 then [] else [.getChannelByID c channelID selfMuted selfDeafened])
  | .leaveVoice c => gated (w.hub.conn c) none [.leaveVoice c]
  | .setVoiceState c selfMuted selfDeafened isSpeaking =>
    gated (w.hub.conn c) none [.setVoiceState c selfMuted selfDeafened isSpeaking]
  | .moveMember c targetUserID toChannelID =>
    gated (w.hub.conn c) (some permMoveMembers) [.moveMember targetUserID toChannelID]
  | .setFlag c flag targetUserID value =>
    gated (w.hub.conn c) (some flag.permission) [.setFlag flag targetUserID value]
  | .kickMember c targetUserID =>
    gated (w.hub.conn c) (some permKickMembers)
      (if targetUserID = 1 then []
      else [.deleteUserSessions targetUserID, .revokeVoiceTokens targetUserID, .kickMember targetUserID])
  | .hangUp c | .unregister c => [.handleClientDisconnect c]
  | .handshake pkt srcAddr => [.activatePending pkt srcAddr]
  | .cleanup => [.cleanStaleSessions sessionMaxIdle]

/-- The first actions of a request. A connection that was never set up has no
read pump to take one up. -/
def program (w : World Addr) (r : Request Addr) : List (Act Addr) :=
  match r.connection? with
  | some c => if w.hub.served c then handle w r else []
  | none => handle w r

/-- How long a voice token lives: 30 seconds. -/
def voiceTokenTTL : Time := 30000000000

/-- How long a session token lives: 30 days. -/
def sessionTTL : Time := 2592000000000000

variable [DecidableEq Addr]

/-- One action of a goroutine, with the actions it leads to. -/
def act (w : World Addr) (x : Choice) : Act Addr → World Addr × List (Act Addr)
  | .registerClient c => ({ w with hub := w.hub.registerClient c }, [])
  | .getSession c token =>
    match getSession w.userSessions x.now x.fault token with
    | .found session => (w, [.getUserWithRoles c session.userID])
    | .expired => (w, [.deleteSession token])
    | .failed => (w, [])
  | .deleteSession token => ({ w with userSessions := deleteSession w.userSessions x.fault token }, [])
  | .getUserWithRoles c userID =>
    match x.profile with
    | none => (w, [])
    | some (username, permissions) =>
      (w, [.signIn c ⟨userID, username, permissions⟩, .addUserClient userID c])
  | .createSession c user =>
    match createSession w.userSessions x.now x.fault x.token user.id (x.now + sessionTTL) with
    | none => (w, [])
    | some rows => ({ w with userSessions := rows }, [.signIn c user, .addUserClient user.id c])
  | .signIn c user => ({ w with hub := w.hub.updateClient c fun client => client.signIn user }, [])
  | .addUserClient userID c => ({ w with hub := w.hub.addUserClient userID c }, [])
  | .getChannelByID c channelID selfMuted selfDeafened =>
    match x.channel with
    | none => (w, [])
    | some channel =>
      (w, if channel.type = "voice" then [.joinVoice c channelID channel selfMuted selfDeafened] else [])
  | .joinVoice c channelID channel selfMuted selfDeafened =>
    match w.hub.joinVoice x.now c channelID channel selfMuted selfDeafened with
    | .error _ => (w, [])
    | .ok hub => ({ w with hub }, [.generateUDPToken c channelID])
  | .generateUDPToken c channelID =>
    let ssrc := if x.ssrc = 0 then 100001 else x.ssrc
    match createVoiceToken w.voiceTokens x.now x.fault x.token (w.hub.conn c).userID channelID ssrc
        (x.now + voiceTokenTTL) with
    | (rows, .error _) => ({ w with voiceTokens := rows }, [])
    | (rows, .ok vt) => ({ w with voiceTokens := rows }, [.registerPending vt])
  | .registerPending vt =>
    ({ w with sessions :=
      w.sessions.registerPending vt.token vt.userID vt.channelID vt.ssrc vt.expiresAt }, [])
  | .leaveVoice c => ({ w with hub := w.hub.leaveVoice c }, [.removeSession (w.hub.conn c).userID])
  | .setVoiceState c selfMuted selfDeafened isSpeaking =>
    ({ w with hub := w.hub.setVoiceState x.now c selfMuted selfDeafened isSpeaking }, [])
  | .removeSession userID => ({ w with sessions := w.sessions.removeSession userID }, [])
  | .moveMember targetUserID toChannelID =>
    match w.hub.moveMember targetUserID toChannelID with
    | none => (w, [])
    | some hub => ({ w with hub }, [.moveSession targetUserID toChannelID])
  | .moveSession targetUserID toChannelID =>
    ({ w with sessions := w.sessions.moveMember targetUserID toChannelID }, [])
  | .setFlag flag targetUserID value =>
    ({ w with hub := w.hub.setFlag flag targetUserID value }, [.lookupFlag flag targetUserID value])
  | .lookupFlag flag targetUserID value =>
    match w.sessions.getByUser targetUserID with
    | none => (w, [])
    | some ref => (w, [.writeFlag flag ref value])
  | .writeFlag flag ref value =>
    ({ w with sessions := w.sessions.modify ref fun s => flag.setSession value s }, [])
  -- `kick_member` ignores the errors of its two storage calls
  | .deleteUserSessions userID =>
    ({ w with userSessions := deleteUserSessions w.userSessions x.fault userID }, [])
  | .revokeVoiceTokens userID =>
    ({ w with voiceTokens :=
      if x.fault = .exec then w.voiceTokens else revokeVoiceTokens w.voiceTokens userID }, [])
  | .kickMember targetUserID =>
    let (hub, clientsToClose) := w.hub.kickMember targetUserID
    ({ w with hub },
      .removeSession targetUserID :: (visits x.order clientsToClose).map .handleClientDisconnect)
  | .handleClientDisconnect c =>
    let (hub, departed) := w.hub.handleClientDisconnect c
    ({ w with hub }, if 0 < departed then [.removeSession (w.hub.conn c).userID] else [])
  | .activatePending pkt srcAddr =>
    match w.sessions.activatePending x.now (GoBytes.trimSpace pkt.payload) pkt.senderID pkt.channelID
        (some srcAddr) with
    | (sessions, .ok _) => ({ w with sessions }, [])
    | (sessions, .error _) => ({ w with sessions }, [.consumeVoiceToken pkt srcAddr])
  | .consumeVoiceToken pkt srcAddr =>
    let tokenStr := GoBytes.trimSpace pkt.payload
    if tokenStr = [] then (w, [.getByUser pkt srcAddr])
    else
      match consumeVoiceToken w.voiceTokens x.now x.fault tokenStr with
      | (rows, .error _) => ({ w with voiceTokens := rows }, [.getByUser pkt srcAddr])
      | (rows, .ok vt) =>
        ({ w with voiceTokens := rows },
          if vt.userID = pkt.senderID ∧ vt.channelID = pkt.channelID then
            [.registerSession (newSession x.now vt.userID vt.channelID vt.ssrc (some srcAddr))]
          else [.getByUser pkt srcAddr])
  | .getByUser pkt srcAddr =>
    match w.sessions.getByUser pkt.senderID with
    | some ref => (w, [.retune ref pkt.channelID, .updateAddr pkt.senderID srcAddr])
    | none =>
      (w, [.registerSession (newSession x.now pkt.senderID pkt.channelID 0 (some srcAddr))])
  | .registerSession session => ({ w with sessions := w.sessions.install session }, [])
  | .retune ref channelID =>
    ({ w with sessions := w.sessions.modify ref fun s => { s with channelID } }, [])
  | .updateAddr userID srcAddr =>
    ({ w with sessions := w.sessions.updateAddr x.now userID (some srcAddr) }, [])
  | .cleanStaleSessions maxIdle =>
    ({ w with sessions := (w.sessions.cleanStaleSessions x.now maxIdle).1 }, [])

/-- The server, any number of goroutines at a time. -/
def system : Goroutines Routine (World Addr) (Request Addr) (Act Addr) Choice where
  owner := Request.owner
  program := program
  perform := fun w _ a x => some (act w x a)

/-- Both planes and the goroutines' remaining work. -/
abbrev State (Addr : Type) := Goroutines.Config Routine (World Addr) (Act Addr)

/-- The next thing the scheduler does. -/
abbrev Turn (Addr : Type) := Goroutines.Turn Routine (Request Addr) Choice

/-- A server that has just started, with the rows its database holds. -/
def World.new (voiceTokens : VoiceTokens) (userSessions : UserSessions) : World Addr where
  hub := .new
  sessions := .new
  voiceTokens
  userSessions

/-- The state after a schedule. -/
def after (w : World Addr) (ts : List (Turn Addr)) : State Addr :=
  system.machine.run (Goroutines.idle w) ts

/-- No handler is in progress. -/
abbrev Quiet (k : State Addr) : Prop := Goroutines.Quiet k

/-- The turn performs an action, under what the environment chooses. -/
def Does (k : State Addr) (t : Turn Addr) (a : Act Addr) (x : Choice) : Prop :=
  ∃ g rest, t = .advance g x ∧ k.todo g = a :: rest

end server

end low_latency_voice.control
