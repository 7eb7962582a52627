import LowLatencyVoice.Control.Hub

open low_latency_voice.model

namespace low_latency_voice.control

/-- The data of a `voice_state_update`. A key the server leaves out is `none`;
`channel_id` may be there and null. -/
structure VoiceStateUpdate where
  userID : UInt32
  username : Option String
  channelID : Option (Option UInt32)
  speaking : Option Bool
  isSpeaking : Option Bool
  energy : Option UInt8
  selfMuted : Option Bool
  selfDeafened : Option Bool
  serverMuted : Option Bool
  serverDeafened : Option Bool
  deriving DecidableEq, Repr

/-- The events of the server, with the data their listeners read. -/
inductive Event where
  | memberJoined (userID : UInt32) (username : String)
  | presenceUpdate (userID : UInt32) (username : String) (online : Bool)
  | channelCreated (channelID : UInt32)
  | channelDeleted (channelID : UInt32)
  | chatMessage (messageID : Nat) (channelID senderID : UInt32) (senderName content : String)
  | voiceStateUpdate (update : VoiceStateUpdate)
  | memberMoved (userID fromChannelID toChannelID : UInt32)
  | memberKicked (userID : UInt32) (reason : String)
  deriving DecidableEq, Repr

/-- What goes to `Hub.Run`: an event for one voice channel, or for everybody when
the channel is 0. -/
structure Broadcast where
  channelID : UInt32
  event : Event
  deriving DecidableEq, Repr

/-- `BroadcastEvent`. -/
def broadcastEvent (event : Event) : Broadcast := ⟨0, event⟩

/-- The update of a user who is in no voice channel any more. -/
def VoiceStateUpdate.left (userID : UInt32) (username : Option String) : VoiceStateUpdate where
  userID
  username
  channelID := some none
  speaking := none
  isSpeaking := some false
  energy := none
  selfMuted := some false
  selfDeafened := some false
  serverMuted := some false
  serverDeafened := some false

/-- The update of `join_voice`. -/
def VoiceStateUpdate.joined (userID : UInt32) (username : String) (channelID : UInt32)
    (selfMuted selfDeafened : Bool) : VoiceStateUpdate where
  userID
  username := some username
  channelID := some (some channelID)
  speaking := none
  isSpeaking := none
  energy := none
  selfMuted := some selfMuted
  selfDeafened := some selfDeafened
  serverMuted := some false
  serverDeafened := some false

/-- The update of `set_voice_state`. The server flags are always false in it. -/
def VoiceStateUpdate.changed (userID : UInt32) (username : String) (active : UInt32)
    (selfMuted selfDeafened isSpeaking : Bool) : VoiceStateUpdate where
  userID
  username := some username
  channelID := some (if 0 < active then some active else none)
  speaking := none
  isSpeaking := some isSpeaking
  energy := none
  selfMuted := some selfMuted
  selfDeafened := some selfDeafened
  serverMuted := some false
  serverDeafened := some false

/-- The update of `move_member`. -/
def VoiceStateUpdate.moved (userID toChannelID : UInt32) : VoiceStateUpdate where
  userID
  username := none
  channelID := some (some toChannelID)
  speaking := none
  isSpeaking := none
  energy := none
  selfMuted := none
  selfDeafened := none
  serverMuted := none
  serverDeafened := none

/-- The update of `set_server_mute` and `set_server_deafen`: only the flag that was
set. -/
def VoiceStateUpdate.flagged (userID : UInt32) (flag : ModFlag) (value : Bool) : VoiceStateUpdate where
  userID
  username := none
  channelID := none
  speaking := none
  isSpeaking := none
  energy := none
  selfMuted := none
  selfDeafened := none
  serverMuted := if flag = .muted then some value else none
  serverDeafened := if flag = .deafened then some value else none

/-- The update of a change of the speaking bit. -/
def VoiceStateUpdate.speaks (userID channelID : UInt32) (speaking : Bool) (energy : UInt8) :
    VoiceStateUpdate where
  userID
  username := none
  channelID := some (some channelID)
  speaking := some speaking
  isSpeaking := some speaking
  energy := some energy
  selfMuted := none
  selfDeafened := none
  serverMuted := none
  serverDeafened := none

/-- The value an update has under the key of a flag. -/
def VoiceStateUpdate.flag (update : VoiceStateUpdate) : ModFlag → Option Bool
  | .muted => update.serverMuted
  | .deafened => update.serverDeafened

/-- The user whose channel an event tells, and the channel. -/
def Event.placement : Event → Option (UInt32 × Option UInt32)
  | .voiceStateUpdate update => some (update.userID, update.channelID.join)
  | .memberMoved userID _ toChannelID => some (userID, some toChannelID)
  | .memberKicked userID _ => some (userID, none)
  | _ => none

/-- The event says of nobody but the user that they are in or out of a channel, and
of the user that they are in none. -/
def Event.Frees (userID : UInt32) (event : Event) : Prop :=
  event.placement = none ∨ event.placement = some (userID, none)

/-- `BroadcastVoiceState`, which the audio router calls. -/
def Hub.broadcastVoiceState (h : Hub) (channelID userID : UInt32) (speaking : Bool) (energy : UInt8) :
    Hub × List Broadcast :=
  (h.withVoiceState userID fun state => { state with isSpeaking := speaking },
    [⟨channelID, .voiceStateUpdate (.speaks userID channelID speaking energy)⟩])

end low_latency_voice.control
