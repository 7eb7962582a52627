import LowLatencyVoice.Lib.GoBytes

namespace low_latency_voice.model

/-- An instant of the server clock, in nanoseconds. -/
abbrev Time := Int

/-- A voice token string, as the bytes Go compares. -/
abbrev Token := GoBytes

/-- A row of `voice_tokens`. -/
structure VoiceToken where
  token : Token
  userID : UInt32
  channelID : UInt32
  ssrc : UInt32
  isConsumed : Bool
  expiresAt : Time
  createdAt : Time
  deriving DecidableEq, Repr

end low_latency_voice.model
