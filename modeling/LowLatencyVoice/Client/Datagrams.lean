import LowLatencyVoice.Client.VoicePipeline
import LowLatencyVoice.Lib.Goroutines

namespace low_latency_voice.client

/-- `AppConstants.packetTypePing`. -/
def packetTypePing : UInt8 := 0x02

/-- `AppConstants.packetTypeHandshake`. -/
def packetTypeHandshake : UInt8 := 0x04

/-- What `VoiceClient.connect` is given; the token as the bytes of its UTF-8. -/
structure ConnectCall where
  userId : UInt32
  channelId : UInt32
  udpToken : List UInt8
  deriving DecidableEq

namespace VoiceClient

/-- The packet of the handshake; its timestamp is the clock's. -/
def handshakePacket (c : VoiceClient) (udpToken : List UInt8) (timestamp : UInt32) : VoicePacket where
  type := packetTypeHandshake
  vad := false
  energyLevel := 0
  senderId := c.userId
  channelId := c.channelId
  sequence := c.sequenceCounter
  timestamp
  payload := udpToken

def pingPacket (c : VoiceClient) (timestamp : UInt32) : VoicePacket where
  type := packetTypePing
  vad := false
  energyLevel := 0
  senderId := c.userId
  channelId := c.channelId
  sequence := c.sequenceCounter
  timestamp
  payload := []

/-- `updateChannel`. -/
def updateChannel (c : VoiceClient) (newChannelId : UInt32) : VoiceClient :=
  { c with channelId := newChannelId }

/-- `connect` behind `RawDatagramSocket.bind`, up to the handshake, for which it takes a
sequence number. -/
def bound (c : VoiceClient) : VoiceClient :=
  { c with hasSocket := true, isConnected := true, sequenceCounter := c.sequenceCounter + 1 }

/-- The tick of the ping timer. -/
def pingTick (c : VoiceClient) (timestamp : UInt32) : VoiceClient × Option (List UInt8) :=
  if c.isConnected = false ∨ c.hasSocket = false ∨ c.hasServerAddress = false then (c, none)
  else
    let c := { c with sequenceCounter := c.sequenceCounter + 1 }
    (c, c.sendPacket (c.pingPacket timestamp))

end VoiceClient

/-- A datagram handed to the socket, and auxiliary what the connection was then. -/
structure Sent where
  datagram : List UInt8
  connection : ConnectCall

/-- `VoiceClient` with its ping timer and, auxiliary, the last connection: the arguments
of the last `connect` that completed, with the channel of the last `updateChannel` since. -/
structure UdpWorld where
  voiceClient : VoiceClient
  pingTimer : Bool
  connection : ConnectCall
  sent : List Sent

/-- A call of `VoiceClient`, or a tick of its ping timer. -/
inductive ClientCall where
  | connect (call : ConnectCall)
  | disconnect
  | updateChannel (newChannelId : UInt32)
  | sendVoiceFrame (opusData : List UInt8) (isSpeaking : Bool) (energyLevel : UInt8)
  | pingTick

/-- A call, what is left of a `connect` after an `await`, or one of its delayed
handshakes. -/
inductive ClientAct where
  | call (c : ClientCall)
  | disconnected (call : ConnectCall)
  | lookedUp (call : ConnectCall)
  | bound (call : ConnectCall)
  | resend (handshakePacket : VoicePacket)

/-- What the environment decides: how an `await` ends, whether the host is an address,
and the time. -/
structure ClientChoice where
  ok : Bool
  isAddress : Bool
  timestamp : UInt32

namespace UdpWorld

def withClient (w : UdpWorld) (f : VoiceClient → VoiceClient) : UdpWorld :=
  { w with voiceClient := f w.voiceClient }

/-- What was sent, if anything. -/
def log (w : UdpWorld) (datagram : Option (List UInt8)) : UdpWorld :=
  { w with sent := w.sent ++ (datagram.map fun d => ⟨d, w.connection⟩).toList }

def disconnect (w : UdpWorld) : UdpWorld := { w.withClient VoiceClient.disconnect with pingTimer := false }

/-- `connect` behind `await disconnect()`. -/
def setTarget (w : UdpWorld) (call : ConnectCall) : UdpWorld :=
  w.withClient fun c => { c with userId := call.userId, channelId := call.channelId }

def setAddress (w : UdpWorld) : UdpWorld := w.withClient fun c => { c with hasServerAddress := true }

/-- `connect` behind `RawDatagramSocket.bind`, with the first handshake. -/
def complete (w : UdpWorld) (call : ConnectCall) (timestamp : UInt32) : UdpWorld :=
  let w := { w.withClient VoiceClient.bound with connection := call }
  { w.log (w.voiceClient.sendPacket (w.voiceClient.handshakePacket call.udpToken timestamp)) with
    pingTimer := true }

def updateChannel (w : UdpWorld) (newChannelId : UInt32) : UdpWorld :=
  { w.withClient (·.updateChannel newChannelId) with
    connection := { w.connection with channelId := newChannelId } }

/-- A step of the client that may send. -/
def sends (w : UdpWorld) (f : VoiceClient → VoiceClient × Option (List UInt8)) : UdpWorld :=
  { w with voiceClient := (f w.voiceClient).1 }.log (f w.voiceClient).2

/-- What runs from one `await` to the next. -/
def perform (w : UdpWorld) (x : ClientChoice) : ClientAct → UdpWorld × List ClientAct
  | .call (.connect call) => (w.disconnect, [.disconnected call])
  | .disconnected call =>
    let w := w.setTarget call
    if x.isAddress then (w.setAddress, [.bound call]) else (w, [.lookedUp call])
  | .lookedUp call => if x.ok then (w.setAddress, [.bound call]) else (w, [])
  | .bound call =>
    if x.ok then
      let handshakePacket := w.voiceClient.bound.handshakePacket call.udpToken x.timestamp
      (w.complete call x.timestamp, [.resend handshakePacket, .resend handshakePacket])
    else (w, [])
  | .resend handshakePacket =>
    if w.voiceClient.isConnected then (w.log (w.voiceClient.sendPacket handshakePacket), []) else (w, [])
  | .call .disconnect => (w.disconnect, [])
  | .call (.updateChannel newChannelId) => (w.updateChannel newChannelId, [])
  | .call (.sendVoiceFrame opusData isSpeaking energyLevel) =>
    (w.sends fun c => c.sendVoiceFrame opusData isSpeaking energyLevel, [])
  | .call .pingTick => if w.pingTimer then (w.sends fun c => c.pingTick x.timestamp, []) else (w, [])

/-- The client with any number of calls and timers at a time. A routine is one call, with
the delayed handshakes it leaves behind. -/
def system : Goroutines Nat UdpWorld (Nat × ClientCall) ClientAct ClientChoice where
  owner := Prod.fst
  program := fun _ request => [.call request.2]
  perform := fun w _ a x => some (w.perform x a)

abbrev State := Goroutines.Config Nat UdpWorld ClientAct

abbrev Turn := Goroutines.Turn Nat (Nat × ClientCall) ClientChoice

/-- A client that has just been made. -/
def new : UdpWorld where
  voiceClient := {
    isConnected := false, hasSocket := false, hasServerAddress := false, userId := 0, channelId := 0,
    sequenceCounter := 0, sampleTimestamp := 0 }
  pingTimer := false
  connection := ⟨0, 0, []⟩
  sent := []

/-- The state after a schedule. -/
def after (ts : List Turn) : State := system.machine.run (Goroutines.idle new) ts

end UdpWorld

/-- The datagram carries the user and the channel of the connection, and a handshake its
token. -/
structure Sent.Current (s : Sent) : Prop where
  senderId : GoBytes.beUint32 s.datagram 4 = s.connection.userId
  channelId : GoBytes.beUint32 s.datagram 8 = s.connection.channelId
  token : s.datagram.getD 2 0 = packetTypeHandshake → s.datagram.drop udpHeaderSize = s.connection.udpToken

instance (s : Sent) : Decidable s.Current :=
  decidable_of_iff (GoBytes.beUint32 s.datagram 4 = s.connection.userId ∧
    GoBytes.beUint32 s.datagram 8 = s.connection.channelId ∧
    (s.datagram.getD 2 0 = packetTypeHandshake → s.datagram.drop udpHeaderSize = s.connection.udpToken))
    ⟨fun h => ⟨h.1, h.2.1, h.2.2⟩, fun h => ⟨h.senderId, h.channelId, h.token⟩⟩

namespace UdpWorld

/-- What resumes finds the client as it left it: a `connect` behind its own `disconnect`
finds it disconnected, behind the bind it finds its own user and channel, and a delayed
handshake finds that the connection is still the one it was made for. -/
def Unovertaken (w : UdpWorld) (x : ClientChoice) : ClientAct → Prop
  | .disconnected _ => w.voiceClient.isConnected = false
  | .bound call => x.ok = true → w.voiceClient.userId = call.userId ∧ w.voiceClient.channelId = call.channelId
  | .resend handshakePacket =>
    w.voiceClient.isConnected = true →
      handshakePacket.senderId = w.connection.userId ∧ handshakePacket.channelId = w.connection.channelId ∧
        handshakePacket.payload = w.connection.udpToken
  | _ => True

/-- Nothing that resumes has been overtaken. -/
def NoneOvertaken (ts : List Turn) : Prop :=
  Machine.Along (fun pre t => ∀ a x, Goroutines.Does (after pre) t a x → (after pre).shared.Unovertaken x a) ts

end UdpWorld

namespace VoicePacket

theorem senderId_encode (p : VoicePacket) : GoBytes.beUint32 p.encode 4 = p.senderId := by
  have hdrop : p.encode.drop 4 = GoBytes.putUint32 p.senderId ++ p.encode.drop 8 := by
    unfold encode
    simp only [List.append_assoc]
    rfl
  exact GoBytes.beUint32_of_drop hdrop

theorem channelId_encode (p : VoicePacket) : GoBytes.beUint32 p.encode 8 = p.channelId := by
  have hdrop : p.encode.drop 8 = GoBytes.putUint32 p.channelId ++ p.encode.drop 12 := by
    unfold encode
    simp only [List.append_assoc]
    rfl
  exact GoBytes.beUint32_of_drop hdrop

theorem type_encode (p : VoicePacket) : p.encode.getD 2 0 = p.type := rfl

end VoicePacket

/-- A packet of the connection makes a datagram of the connection. -/
theorem Sent.Current.of_packet {packet : VoicePacket} {connection : ConnectCall}
    (hsender : packet.senderId = connection.userId) (hchannel : packet.channelId = connection.channelId)
    (htoken : packet.type = packetTypeHandshake → packet.payload = connection.udpToken) :
    Sent.Current ⟨packet.encode, connection⟩ where
  senderId := packet.senderId_encode.trans hsender
  channelId := packet.channelId_encode.trans hchannel
  token htype := packet.drop_encode.trans (htoken (packet.type_encode.symm.trans htype))

namespace VoiceClient

theorem sendPacket_eq_some {c : VoiceClient} {packet : VoicePacket} {d : List UInt8}
    (h : c.sendPacket packet = some d) : d = packet.encode := by
  unfold sendPacket at h
  split at h
  · cases h
  · exact (Option.some.inj h).symm

/-- The step keeps the user and the channel, and what it sends while connected is a
packet of theirs. -/
structure SendsOwn (c : VoiceClient) (type : UInt8) (result : VoiceClient × Option (List UInt8)) : Prop where
  userId : result.1.userId = c.userId
  channelId : result.1.channelId = c.channelId
  isConnected : result.1.isConnected = c.isConnected
  sent : ∀ d, result.2 = some d → c.isConnected = true ∧ ∃ packet : VoicePacket, d = packet.encode ∧
    packet.senderId = c.userId ∧ packet.channelId = c.channelId ∧ packet.type = type

theorem SendsOwn.nothing (c : VoiceClient) (type : UInt8) : c.SendsOwn type (c, none) :=
  ⟨rfl, rfl, rfl, fun d hd => by cases hd⟩

theorem sendVoiceFrame_sendsOwn (c : VoiceClient) (opusData : List UInt8) (isSpeaking : Bool)
    (energyLevel : UInt8) :
    c.SendsOwn packetTypeVoice (c.sendVoiceFrame opusData isSpeaking energyLevel) := by
  unfold sendVoiceFrame
  split
  · exact .nothing c _
  · rename_i hready
    refine ⟨rfl, rfl, rfl, fun d hd => ⟨?_, _, sendPacket_eq_some hd, rfl, rfl, rfl⟩⟩
    exact eq_true_of_ne_false fun hoff => hready (.inl hoff)

theorem pingTick_sendsOwn (c : VoiceClient) (timestamp : UInt32) :
    c.SendsOwn packetTypePing (c.pingTick timestamp) := by
  unfold pingTick
  split
  · exact .nothing c _
  · rename_i hready
    refine ⟨rfl, rfl, rfl, fun d hd => ⟨?_, _, sendPacket_eq_some hd, rfl, rfl, rfl⟩⟩
    exact eq_true_of_ne_false fun hoff => hready (.inl hoff)

end VoiceClient

namespace UdpWorld

/-- Every datagram so far was current, and while it is connected the client has the user
and the channel of the connection. -/
structure Sound (w : UdpWorld) : Prop where
  current : ∀ s ∈ w.sent, s.Current
  target : w.voiceClient.isConnected = true →
    w.voiceClient.userId = w.connection.userId ∧ w.voiceClient.channelId = w.connection.channelId

theorem sound_new : Sound new where
  current s hs := by cases hs
  target hconnected := by cases hconnected

namespace Sound

variable {w : UdpWorld}

/-- Without a connection there is nothing to have right. -/
theorem of_disconnected (h : w.Sound) {w' : UdpWorld} (hsent : w'.sent = w.sent)
    (hoff : w'.voiceClient.isConnected = false) : w'.Sound where
  current := by
    rw [hsent]
    exact h.current
  target hconnected := by
    rw [hoff] at hconnected
    cases hconnected

theorem log (h : w.Sound) {datagram : Option (List UInt8)}
    (hcurrent : ∀ d, datagram = some d → Sent.Current ⟨d, w.connection⟩) : (w.log datagram).Sound where
  current s hs := by
    obtain hold | hnew := List.mem_append.mp hs
    · exact h.current s hold
    · cases hd : datagram with
      | none =>
        rw [hd] at hnew
        cases hnew
      | some d =>
        rw [hd] at hnew
        rw [List.mem_singleton.mp hnew]
        exact hcurrent d hd
  target := h.target

theorem setAddress (h : w.Sound) : w.setAddress.Sound := ⟨h.current, h.target⟩

/-- The frames and the pings go to the connection. -/
theorem sends (h : w.Sound) (f : VoiceClient → VoiceClient × Option (List UInt8)) {type : UInt8}
    (hown : w.voiceClient.SendsOwn type (f w.voiceClient)) (htype : type ≠ packetTypeHandshake) :
    (w.sends f).Sound := by
  have hkept : Sound { w with voiceClient := (f w.voiceClient).1 } := by
    refine ⟨h.current, fun hon => ?_⟩
    rw [hown.isConnected] at hon
    exact ⟨hown.userId.trans (h.target hon).1, hown.channelId.trans (h.target hon).2⟩
  refine hkept.log fun d hd => ?_
  obtain ⟨hon, packet, rfl, hsender, hchannel, hpacket⟩ := hown.sent d hd
  refine .of_packet (hsender.trans (h.target hon).1) (hchannel.trans (h.target hon).2) fun hhandshake => ?_
  exact absurd (hpacket.symm.trans hhandshake) htype

/-- A `connect` that finds its own user and channel completes with them. -/
theorem complete (h : w.Sound) {call : ConnectCall} (huser : w.voiceClient.userId = call.userId)
    (hchannel : w.voiceClient.channelId = call.channelId) (timestamp : UInt32) :
    (w.complete call timestamp).Sound := by
  have hbound : Sound { w.withClient VoiceClient.bound with connection := call } :=
    ⟨h.current, fun _ => ⟨huser, hchannel⟩⟩
  have hhandshake : ∀ d, w.voiceClient.bound.sendPacket
      (w.voiceClient.bound.handshakePacket call.udpToken timestamp) = some d → Sent.Current ⟨d, call⟩ := by
    intro d hd
    rw [VoiceClient.sendPacket_eq_some hd]
    exact .of_packet huser hchannel fun _ => rfl
  have hlog := hbound.log hhandshake
  exact ⟨hlog.current, hlog.target⟩

theorem perform (h : w.Sound) {x : ClientChoice} {a : ClientAct} (hown : w.Unovertaken x a) :
    (w.perform x a).1.Sound := by
  cases a with
  | disconnected call =>
    have hset : (w.setTarget call).Sound := h.of_disconnected rfl hown
    simp only [UdpWorld.perform]
    split
    · exact hset.setAddress
    · exact hset
  | lookedUp call =>
    simp only [UdpWorld.perform]
    split
    · exact h.setAddress
    · exact h
  | bound call =>
    simp only [UdpWorld.perform]
    split
    · rename_i hok
      exact h.complete (hown hok).1 (hown hok).2 x.timestamp
    · exact h
  | resend handshakePacket =>
    simp only [UdpWorld.perform]
    split
    · rename_i hon
      obtain ⟨hsender, hchannel, htoken⟩ := hown hon
      refine h.log fun d hd => ?_
      rw [VoiceClient.sendPacket_eq_some hd]
      exact .of_packet hsender hchannel fun _ => htoken
    · exact h
  | call c =>
    cases c with
    | connect call => exact h.of_disconnected rfl rfl
    | disconnect => exact h.of_disconnected rfl rfl
    | updateChannel newChannelId => exact ⟨h.current, fun hon => ⟨(h.target hon).1, rfl⟩⟩
    | sendVoiceFrame opusData isSpeaking energyLevel =>
      exact h.sends (·.sendVoiceFrame opusData isSpeaking energyLevel)
        (w.voiceClient.sendVoiceFrame_sendsOwn opusData isSpeaking energyLevel) (by decide)
    | pingTick =>
      simp only [UdpWorld.perform]
      split
      · exact h.sends (·.pingTick x.timestamp) (w.voiceClient.pingTick_sendsOwn x.timestamp) (by decide)
      · exact h

end Sound

/-- In a run in which nothing that resumes has been overtaken, every datagram carries the
user and the channel of the connection it goes out on, and every handshake its token. -/
theorem datagrams_current (ts : List Turn) (h : NoneOvertaken ts) :
    ∀ s ∈ (after ts).shared.sent, s.Current := by
  have hsound : (after ts).shared.Sound := by
    refine system.run_rule (fun k t => ∀ a x, Goroutines.Does k t a x → k.shared.Unovertaken x a)
      (fun k => k.shared.Sound) sound_new ?_ ?_ ts h
    · exact fun k r hinv _ _ => hinv
    · intro k t g a s' acts hinv hok hp
      obtain ⟨x, hdoes, hperform⟩ := hp.exists_does
      have hstep := hinv.perform (hok a x hdoes)
      rw [hp.shared]
      have hresult : k.shared.perform x a = (s', acts) := Option.some.inj hperform
      rwa [hresult] at hstep
  exact hsound.current

/-- User 7 connects to channel 2. -/
def connects : List Turn :=
  [.serve (0, .connect ⟨7, 2, [0x61]⟩), .advance 0 ⟨true, true, 0⟩, .advance 0 ⟨true, true, 0⟩,
    .advance 0 ⟨true, true, 0⟩]

/-- Once both delayed handshakes are out, the user is moved and talks. -/
def movedLater : List Turn :=
  connects ++ [.advance 0 ⟨true, true, 0⟩, .advance 0 ⟨true, true, 0⟩, .serve (1, .updateChannel 3),
    .advance 1 ⟨true, true, 0⟩, .serve (1, .sendVoiceFrame [] true 0), .advance 1 ⟨true, true, 0⟩]

theorem datagrams_current_movedLater :
    (after movedLater).shared.sent.length = 4 ∧ ∀ s ∈ (after movedLater).shared.sent, s.Current := by
  refine ⟨by decide, datagrams_current movedLater ?_⟩
  simp only [NoneOvertaken, movedLater, connects, List.cons_append, List.nil_append, Machine.along_cons_iff]
  refine ⟨?_, ?_, ?_, ?_, ?_, ?_, ?_, ?_, ?_, ?_, Machine.along_nil⟩
  all_goals
    intro a x hdoes
    obtain ⟨g, rest, hturn, htodo⟩ := hdoes
    cases hturn <;> cases htodo
  · trivial
  · rfl
  · exact fun _ => ⟨rfl, rfl⟩
  · exact fun _ => ⟨rfl, rfl, rfl⟩
  · exact fun _ => ⟨rfl, rfl, rfl⟩
  · trivial
  · trivial

/-- The user is moved before the first delayed handshake goes out. -/
theorem resend_after_move :
    ¬ ∀ s ∈ (after (connects ++ [.serve (1, .updateChannel 3), .advance 1 ⟨true, true, 0⟩,
      .advance 0 ⟨true, true, 0⟩])).shared.sent, s.Current := by
  decide

end UdpWorld

end low_latency_voice.client
