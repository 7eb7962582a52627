import LowLatencyVoice.Audio.SessionIndex
import LowLatencyVoice.Storage.VoiceTokens

open low_latency_voice.model low_latency_voice.storage

namespace low_latency_voice.audio

/-- One `BroadcastVoiceState` call. -/
structure VoiceStateNotice where
  channelID : UInt32
  userID : UInt32
  speaking : Bool
  energy : UInt8
  deriving DecidableEq, Repr

/-- What handling one datagram shows outside: the returned error, the
`WriteTo` calls and the notifier calls. -/
structure Outcome (Addr : Type) where
  result : Except AudioError Unit
  written : List (GoBytes × Addr)
  notified : List VoiceStateNotice

/-- `Router`. The validator is the `voice_tokens` table, nil in standalone
mode; of the notifier and the writer only whether they are set matters. -/
structure Router (Addr : Type) where
  sessions : SessionManager Addr
  validator : Option VoiceTokens
  notifier : Bool
  writer : Bool

variable {Addr : Type} [DecidableEq Addr]

/-- A datagram that is dropped with an error, or needs no answer. -/
def Outcome.silent (result : Except AudioError Unit) : Outcome Addr := ⟨result, [], []⟩

namespace Router

/-- The session a voice packet claims to come from. -/
def voiceSession (sm : SessionManager Addr) (pkt : Packet) (srcAddr : Addr) : Option SessionRef :=
  match sm.getByUser pkt.senderID with
  | some ref => some ref
  | none =>
    match sm.getByAddr (some srcAddr) with
    | some ref => if (sm.heap ref).userID = pkt.senderID then some ref else none
    | none => none

/-- The egress loop: server-deafened peers are skipped. -/
def forward (sm : SessionManager Addr) (peers : List SessionRef) (rawData : GoBytes) :
    List (GoBytes × Addr) :=
  peers.filterMap fun peer =>
    if (sm.heap peer).serverDeafened then none else (sm.heap peer).addr.map fun a => (rawData, a)

/-- Roaming: the sender's session follows the address its voice comes from. -/
def roam (sm : SessionManager Addr) (now : Time) (ref : SessionRef) (senderID : UInt32)
    (srcAddr : Addr) : SessionManager Addr :=
  if (sm.heap ref).addr = some srcAddr then sm else sm.updateAddr now senderID (some srcAddr)

def handleVoice (r : Router Addr) (now : Time) (pkt : Packet) (rawData : GoBytes) (srcAddr : Addr) :
    Router Addr × Outcome Addr :=
  match voiceSession r.sessions pkt srcAddr with
  | none => (r, .silent (.error .sessionNotFound))
  | some ref =>
    if (r.sessions.heap ref).channelID ≠ pkt.channelID then (r, .silent (.error .channelMismatch))
    else
      let sm := roam r.sessions now ref pkt.senderID srcAddr
      if (sm.heap ref).serverMuted then
        ({ r with sessions := sm }, .silent (.error .userServerMuted))
      else
        let (session, changed) := (sm.heap ref).updateSpeakingState now pkt.vad pkt.energyLevel
        let sm := sm.modify ref fun _ => session
        let notified := if changed && r.notifier then
          [⟨pkt.channelID, pkt.senderID, pkt.vad, pkt.energyLevel⟩] else []
        let peers := sm.getChannelPeers pkt.channelID pkt.senderID
        let written := if r.writer then forward sm peers rawData else []
        ({ r with sessions := sm }, ⟨.ok (), written, notified⟩)

/-- The answer to a ping: the payload and timestamp come back from sender 0. -/
def pong (pkt : Packet) : Packet where
  magic := magicByte
  version := protocolVersion
  type := typePong
  flags := 0
  vad := false
  energyLevel := 0
  senderID := 0
  channelID := pkt.channelID
  sequence := pkt.sequence
  payloadLen := UInt16.ofNat pkt.payload.length
  timestamp := pkt.timestamp
  payload := pkt.payload

/-- The keep-alive half of `handlePing`: a silent listener is touched, or
follows its new address. -/
def refresh (sm : SessionManager Addr) (now : Time) (pkt : Packet) (srcAddr : Addr) :
    SessionManager Addr :=
  match (sm.getByUser pkt.senderID).or (sm.getByAddr (some srcAddr)) with
  | none => sm
  | some ref =>
    if (sm.heap ref).addr = some srcAddr then sm.modify ref fun s => s.touch now
    else sm.updateAddr now (sm.heap ref).userID (some srcAddr)

def handlePing (r : Router Addr) (now : Time) (pkt : Packet) (srcAddr : Addr) :
    Router Addr × Outcome Addr :=
  let answer := (pong pkt).encodeInto maxPacketSize
  let written := if r.writer && answer != [] then [(answer, srcAddr)] else []
  ({ r with sessions := refresh r.sessions now pkt srcAddr }, ⟨.ok (), written, []⟩)

/-- Branch 2 of the handshake: the stored token, if a validator is set. The
consumed row counts only when it names the sender and the channel. -/
def consumeStored (r : Router Addr) (now : Time) (fault : Fault) (tokenStr : Token)
    (pkt : Packet) : Router Addr × Option VoiceToken :=
  match r.validator with
  | none => (r, none)
  | some rows =>
    if tokenStr = [] then (r, none)
    else
      match consumeVoiceToken rows now fault tokenStr with
      | (rows', .error _) => ({ r with validator := some rows' }, none)
      | (rows', .ok vt) =>
        ({ r with validator := some rows' },
          if vt.userID = pkt.senderID ∧ vt.channelID = pkt.channelID then some vt else none)

/-- Branch 3 of the handshake, reached with a token neither store accepts: an
existing session follows the datagram, otherwise one is made. -/
def fallback (sm : SessionManager Addr) (now : Time) (pkt : Packet) (srcAddr : Addr) :
    SessionManager Addr :=
  match sm.getByUser pkt.senderID with
  | some ref =>
    (sm.modify ref fun s => { s with channelID := pkt.channelID }).updateAddr now pkt.senderID
      (some srcAddr)
  | none => sm.install (newSession now pkt.senderID pkt.channelID 0 (some srcAddr))

def handleHandshake (r : Router Addr) (now : Time) (fault : Fault) (pkt : Packet) (srcAddr : Addr) :
    Router Addr × Outcome Addr :=
  let tokenStr := GoBytes.trimSpace pkt.payload
  match r.sessions.activatePending now tokenStr pkt.senderID pkt.channelID (some srcAddr) with
  | (sm, .ok _) => ({ r with sessions := sm }, .silent (.ok ()))
  | (sm, .error _) =>
    match consumeStored { r with sessions := sm } now fault tokenStr pkt with
    | (r, some vt) =>
      let session := newSession now vt.userID vt.channelID vt.ssrc (some srcAddr)
      ({ r with sessions := r.sessions.install session }, .silent (.ok ()))
    | (r, none) =>
      ({ r with sessions := fallback r.sessions now pkt srcAddr }, .silent (.ok ()))

/-- `HandlePacket` on one datagram, at one reading of the clock. -/
def handlePacket (r : Router Addr) (now : Time) (fault : Fault) (data : GoBytes) (srcAddr : Addr) :
    Router Addr × Outcome Addr :=
  match decodeInto data with
  | .error e => (r, .silent (.error e))
  | .ok pkt =>
    if pkt.type = typeVoice then r.handleVoice now pkt data srcAddr
    else if pkt.type = typePing then r.handlePing now pkt srcAddr
    else if pkt.type = typeHandshake then r.handleHandshake now fault pkt srcAddr
    else if pkt.type = typePong then (r, .silent (.ok ()))
    else (r, .silent (.error .invalidType))

end Router

end low_latency_voice.audio
