import Mathlib.Logic.Function.Basic
import LowLatencyVoice.Lib.GoMap
import LowLatencyVoice.Lib.GoSync
import LowLatencyVoice.Model.User

open low_latency_voice.model

namespace low_latency_voice.control

/-- The address of a `Client` object: one WebSocket connection. -/
abbrev ClientID := Nat

/-- `map[*Client]bool`, which only ever maps to true. -/
abbrev ClientSet := GoMap ClientID Unit

/-- The goroutines of the server: two pumps for each connection, one for each
HTTP upgrade, `Hub.Run`, the two loops of the audio server, and any other caller
of the hub. -/
inductive Routine where
  | readPump (c : ClientID)
  | writePump (c : ClientID)
  | accept (n : Nat)
  | run
  | readLoop
  | cleanupLoop
  | caller (n : Nat)
  deriving DecidableEq, Repr

/-- The order in which a `range` loop visits clients: `order`, if it is one of
the possible orders. -/
def visits (order clients : List ClientID) : List ClientID :=
  if order.Perm clients then order else clients

theorem mem_visits {order clients : List ClientID} {c : ClientID} :
    c ∈ visits order clients ↔ c ∈ clients := by
  unfold visits
  split
  · rename_i hperm
    exact hperm.mem_iff
  · rfl

/-- Capacity of the outbound channel. -/
def sendBufferSize : Nat := 256

/-- `Client`. -/
structure Client where
  send : GoChan GoBytes
  userID : UInt32
  username : String
  permissions : Permission
  isAuthenticated : Bool
  activeVoiceChannel : UInt32
  closed : Bool

namespace Client

/-- `NewClient`. -/
def new : Client where
  send := .make
  userID := 0
  username := ""
  permissions := 0
  isAuthenticated := false
  activeVoiceChannel := 0
  closed := false

/-- The `c.mu` region of the three sign-in handlers. -/
def signIn (k : Client) (user : User) : Client :=
  { k with userID := user.id, username := user.username, permissions := user.permissions,
           isAuthenticated := true }

/-- `Client.Close`. -/
def close (k : Client) : Client :=
  if k.closed then k else { k with closed := true, send := k.send.close }

@[simp] theorem close_userID (k : Client) : k.close.userID = k.userID := by
  unfold close
  split <;> rfl

@[simp] theorem close_isAuthenticated (k : Client) : k.close.isAuthenticated = k.isAuthenticated := by
  unfold close
  split <;> rfl

@[simp] theorem close_activeVoiceChannel (k : Client) :
    k.close.activeVoiceChannel = k.activeVoiceChannel := by
  unfold close
  split <;> rfl

@[simp] theorem close_closed (k : Client) : k.close.closed = true := by
  unfold close
  split
  · assumption
  · rfl

end Client

/-- `Hub`, with the heap its client pointers point into. -/
structure Hub where
  clients : ClientSet
  userClients : GoMap UInt32 ClientSet
  voiceChannels : GoMap UInt32 ClientSet
  voiceStates : GoMap UInt32 VoiceState
  conn : ClientID → Client

/-- Why `join_voice` stops inside its lock region. -/
inductive JoinRefusal where
  | disconnected
  | channelFull
  deriving DecidableEq, Repr

/-- The two flags a moderator sets. -/
inductive ModFlag where
  | muted
  | deafened
  deriving DecidableEq, Repr

/-- The member of a record that a flag names. -/
def ModFlag.ofVoiceState : ModFlag → VoiceState → Bool
  | .muted, state => state.serverMuted
  | .deafened, state => state.serverDeafened

/-- The write through a voice state pointer. -/
def ModFlag.setVoiceState (flag : ModFlag) (value : Bool) (state : VoiceState) : VoiceState :=
  match flag with
  | .muted => { state with serverMuted := value }
  | .deafened => { state with serverDeafened := value }

namespace Hub

/-- `NewHub`. -/
def new : Hub := ⟨∅, ∅, ∅, ∅, fun _ => .new⟩

/-- A write to a client object. -/
def updateClient (h : Hub) (c : ClientID) (f : Client → Client) : Hub :=
  { h with conn := Function.update h.conn c (f (h.conn c)) }

/-- The connections `userClients` lists for a user. -/
def clientsOf (h : Hub) (userID : UInt32) : List ClientID :=
  ((h.userClients.get? userID).getD ∅).pairs.map Prod.fst

/-- `ServeWs` has set the connection up, so its read pump runs or has run. -/
def served (h : Hub) (c : ClientID) : Bool := (h.clients.get? c).isSome || (h.conn c).closed

def registerClient (h : Hub) (c : ClientID) : Hub :=
  if (h.conn c).closed then h else { h with clients := h.clients.set c () }

/-- The hub region of the three sign-in handlers. -/
def addUserClient (h : Hub) (userID : UInt32) (c : ClientID) : Hub :=
  { h with userClients := h.userClients.put₂ userID c () }

/-- The hub region of `handleClientDisconnect`, with the voice channel the user
leaves. -/
def handleClientDisconnect (h : Hub) (c : ClientID) : Hub × UInt32 :=
  if h.clients.get? c = none then (h, 0)
  else
    let h := { h with clients := h.clients.delete c }.updateClient c Client.close
    let client := h.conn c
    if client.isAuthenticated then
      let h := { h with userClients := h.userClients.prune₂ client.userID c }
      let departed := client.activeVoiceChannel
      let h := if 0 < departed then { h with voiceChannels := h.voiceChannels.prune₂ departed c } else h
      if 0 < departed ∨ h.clientsOf client.userID = [] then
        ({ h with voiceStates := h.voiceStates.delete client.userID }, departed)
      else (h, departed)
    else (h, 0)

/-- The limit `join_voice` enforces for a channel. -/
def roomLimit (channel : Channel) : Int := if channel.userLimit = 0 then 15 else channel.userLimit

/-- The hub region of `handleJoinVoice`. The new voice state carries no server
flag. -/
def joinVoice (h : Hub) (now : Time) (c : ClientID) (channelID : UInt32) (channel : Channel)
    (selfMuted selfDeafened : Bool) : Except JoinRefusal Hub :=
  let client := h.conn c
  if h.clients.get? c = none ∨ client.closed then .error .disconnected
  else if roomLimit channel ≤ ((h.voiceChannels.get? channelID).getD ∅).len ∧
      h.voiceChannels.get₂ channelID c = none then .error .channelFull
  else
    let active := client.activeVoiceChannel
    let voiceChannels := if 0 < active ∧ active ≠ channelID then h.voiceChannels.drop₂ active c
      else h.voiceChannels
    let state : VoiceState :=
      { userID := client.userID, username := client.username, channelID, isSpeaking := false,
        selfMuted, selfDeafened, serverMuted := false, serverDeafened := false, updatedAt := now }
    .ok { h with
      voiceChannels := voiceChannels.put₂ channelID c ()
      voiceStates := h.voiceStates.set client.userID state
      conn := Function.update h.conn c { client with activeVoiceChannel := channelID } }

/-- The hub region of `handleLeaveVoice`. -/
def leaveVoice (h : Hub) (c : ClientID) : Hub :=
  let client := h.conn c
  if 0 < client.activeVoiceChannel then
    { h with
      voiceChannels := h.voiceChannels.drop₂ client.activeVoiceChannel c
      voiceStates := h.voiceStates.delete client.userID
      conn := Function.update h.conn c { client with activeVoiceChannel := 0 } }
  else h

/-- A write through the voice state pointer of a user, if there is one. -/
def withVoiceState (h : Hub) (userID : UInt32) (f : VoiceState → VoiceState) : Hub :=
  match h.voiceStates.get? userID with
  | none => h
  | some state => { h with voiceStates := h.voiceStates.set userID (f state) }

/-- The hub region of `handleSetVoiceState`. -/
def setVoiceState (h : Hub) (now : Time) (c : ClientID) (selfMuted selfDeafened isSpeaking : Bool) : Hub :=
  h.withVoiceState (h.conn c).userID fun state =>
    { state with selfMuted, selfDeafened, isSpeaking, updatedAt := now }

/-- The hub region of `handleSetServerMute` and `handleSetServerDeafen`. -/
def setFlag (h : Hub) (flag : ModFlag) (targetUserID : UInt32) (value : Bool) : Hub :=
  h.withVoiceState targetUserID (flag.setVoiceState value)

/-- One turn of the loop in `handleMoveMember`. -/
def moveClient (fromChannelID toChannelID : UInt32) (h : Hub) (c : ClientID) : Hub :=
  { h with voiceChannels := (h.voiceChannels.drop₂ fromChannelID c).put₂ toChannelID c () }.updateClient c
    fun client => { client with activeVoiceChannel := toChannelID }

/-- The hub region of `handleMoveMember`, or `none` for a user outside voice. -/
def moveMember (h : Hub) (targetUserID toChannelID : UInt32) : Option Hub :=
  match h.voiceStates.get? targetUserID with
  | none => none
  | some state =>
    if state.channelID = 0 then none
    else
      let moved := { h with
        voiceStates := h.voiceStates.set targetUserID { state with channelID := toChannelID } }
      some ((h.clientsOf targetUserID).foldl (moveClient state.channelID toChannelID) moved)

/-- The hub region of `handleKickMember`, with the connections to close. -/
def kickMember (h : Hub) (targetUserID : UInt32) : Hub × List ClientID :=
  let clientsToClose := h.clientsOf targetUserID
  match h.voiceStates.get? targetUserID with
  | none => (h, clientsToClose)
  | some state =>
    ({ h with
      voiceChannels := clientsToClose.foldl (fun rooms c => rooms.drop₂ state.channelID c) h.voiceChannels
      voiceStates := h.voiceStates.delete targetUserID }, clientsToClose)

end Hub

end low_latency_voice.control
