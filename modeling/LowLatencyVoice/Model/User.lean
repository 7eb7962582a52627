import LowLatencyVoice.Model.Voice

namespace low_latency_voice.model

/-- A set of permission bits. -/
abbrev Permission := UInt32

def permAdmin : Permission := 0x0001
def permManageChannels : Permission := 0x0002
def permMoveMembers : Permission := 0x0004
def permMuteMembers : Permission := 0x0008
def permDeafenMembers : Permission := 0x0010
def permKickMembers : Permission := 0x0020
def permSendMessages : Permission := 0x0040
def permConnectVoice : Permission := 0x0080
def permSpeak : Permission := 0x0100
def permDefaultMember : Permission := permSendMessages ||| permConnectVoice ||| permSpeak
def permModerator : Permission :=
  permManageChannels ||| permMoveMembers ||| permMuteMembers ||| permDeafenMembers |||
    permKickMembers ||| permSendMessages ||| permConnectVoice ||| permSpeak

/-- `HasPermission`: the admin bit passes every check. -/
def hasPermission (effectivePerms required : Permission) : Bool :=
  effectivePerms &&& permAdmin == permAdmin || effectivePerms &&& required == required

/-- The control plane's record of a user in voice. -/
structure VoiceState where
  userID : UInt32
  username : String
  channelID : UInt32
  isSpeaking : Bool
  selfMuted : Bool
  selfDeafened : Bool
  serverMuted : Bool
  serverDeafened : Bool
  updatedAt : Time
  deriving DecidableEq, Repr

/-- What an authenticated connection learns about its user. -/
structure User where
  id : UInt32
  username : String
  permissions : Permission
  deriving DecidableEq, Repr

/-- A row of `sessions`: the token of a signed-in user. -/
structure UserSession where
  token : Token
  userID : UInt32
  expiresAt : Time
  createdAt : Time
  deriving DecidableEq, Repr

/-- What `join_voice` reads of a row of `channels`. -/
structure Channel where
  type : String
  userLimit : Int
  deriving DecidableEq, Repr

end low_latency_voice.model
