import LowLatencyVoice.Client.Engine
import LowLatencyVoice.Client.Inbound

namespace low_latency_voice.client

/-- The slot of the microphone test. -/
def loopbackSlot : Fin maxPeers := ⟨0, by decide⟩

/-- A slot nobody has. -/
def PeerStream.clear (p : PeerStream) : PeerStream where
  userId := 0
  isActive := false
  isSpeaking := false
  userVolume := 1.0
  ring := p.ring.reset

/-- The globals of the engine: the capture side, the peer slots and the playback
flags. -/
structure VoiceEngine where
  capture : Engine
  table : PeerTable
  playing : Bool
  localDeafened : Bool

namespace VoiceEngine

/-- The globals at load time. -/
def load : VoiceEngine where
  capture := Engine.init 0
  table := {
    peers := fun _ => {
      userId := 0
      isActive := false
      isSpeaking := false
      userVolume := 0.0
      ring := ⟨fun _ => 0, ⟨0, ringBufferSize_pos⟩, ⟨0, ringBufferSize_pos⟩⟩ }
    speakingCb := false }
  playing := false
  localDeafened := false

def withPeers (g : VoiceEngine) (peers : Fin maxPeers → PeerStream) : VoiceEngine :=
  { g with table := { g.table with peers } }

/-- One slot changed. -/
def setPeer (g : VoiceEngine) (i : Fin maxPeers) (p : PeerStream) : VoiceEngine :=
  g.withPeers (Function.update g.table.peers i p)

/-- Every slot cleared. -/
def clearSlots (g : VoiceEngine) : VoiceEngine := g.withPeers fun i => (g.table.peers i).clear

/-- `voice_engine_init`, with the hangover of its configuration. What was started
stays started. -/
def init (g : VoiceEngine) (vadHangoverMs : UInt32) : VoiceEngine :=
  { g.clearSlots with
    capture := { g.capture with
      vadHangoverMs := if vadHangoverMs = 0 then 200 else vadHangoverMs
      micTestLoopback := false
      ring := g.capture.ring.reset } }

/-- `voice_engine_destroy`. -/
def destroy (g : VoiceEngine) : VoiceEngine :=
  { g with
    capture := { g.capture.stopCapture with micTestLoopback := false }
    playing := false }

def startPlayback (g : VoiceEngine) : VoiceEngine := { g with playing := true }

def stopPlayback (g : VoiceEngine) : VoiceEngine := { g with playing := false }

def setLocalDeafen (g : VoiceEngine) (deafened : Bool) : VoiceEngine := { g with localDeafened := deafened }

/-- `voice_engine_set_user_volume`. -/
def setUserVolume (g : VoiceEngine) (userId : UInt32) (volumeMultiplier : Float32) : VoiceEngine :=
  if userId = 0 then g
  else
    match peerSlots.find? fun i => (g.table.peers i).isActive && (g.table.peers i).userId == userId with
    | some i => g.setPeer i { g.table.peers i with userVolume := volumeMultiplier }
    | none =>
      match peerSlots.find? fun i => !(g.table.peers i).isActive with
      | some i =>
        g.setPeer i { g.table.peers i with
          userId, isActive := true, userVolume := volumeMultiplier, ring := (g.table.peers i).ring.reset }
      | none => g

/-- `voice_engine_clear_peers`. -/
def clearPeers (g : VoiceEngine) : VoiceEngine :=
  { g.clearSlots with capture := { g.capture with micTestLoopback := false } }

/-- `voice_engine_set_mic_test_loopback`. -/
def setMicTestLoopback (g : VoiceEngine) (enabled : Bool) : VoiceEngine :=
  let g := { g with capture := g.capture.setMicTestLoopback enabled }
  if enabled then { g with playing := true }
  else g.setPeer loopbackSlot (g.table.peers loopbackSlot).clear

/-- `voice_engine_feed_inbound_packet`. -/
def feedInboundPacket (g : VoiceEngine) (packetBytes : Option GoBytes) (length : UInt32) :
    VoiceEngine × Option SpeakingChange :=
  let (table, change) := g.table.feedInboundPacket packetBytes length
  ({ g with table }, change)

/-- The microphone test's copy of a captured frame. -/
def copyLoopback (g : VoiceEngine) (pcm : List Int16) : VoiceEngine :=
  g.setPeer loopbackSlot { g.table.peers loopbackSlot with
    userId := 999999
    isActive := true
    userVolume := 1.0
    ring := (g.table.peers loopbackSlot).ring.pushAll pcm }

/-- `voice_engine_capture_frame`, the copy for the microphone test included. -/
def captureFrame (g : VoiceEngine) (hasBuffer : Bool) (maxLen : Nat) : VoiceEngine × Option Frame :=
  let (capture, frame) := g.capture.captureFrame hasBuffer maxLen
  match frame with
  | none => ({ g with capture }, none)
  | some frame =>
    if g.capture.Dequeues ∧ g.capture.micTestLoopback = true then
      (copyLoopback { g with capture } (frame.pcm.map Sample.value), some frame)
    else ({ g with capture }, some frame)

/-- One stream's share of a chunk: a sample for each cell of the accumulator, until the
stream runs dry. -/
def mixPeer (gain : Float32) : List Float32 → RingBuffer Int16 ringBufferSize →
    List Float32 × RingBuffer Int16 ringBufferSize
  | [], r => ([], r)
  | x :: mixAccumulator, r =>
    if r.readIdx ≠ r.writeIdx then
      let (pcm, r) := r.pop
      let (rest, r) := mixPeer gain mixAccumulator r
      ((x + Float32.ofInt pcm.toInt * gain) :: rest, r)
    else
      let (rest, r) := mixPeer gain mixAccumulator r
      (x :: rest, r)

/-- The mixer reads a slot: an active one, the loopback only during a microphone test. -/
def Mixes (g : VoiceEngine) (i : Fin maxPeers) : Prop :=
  (g.table.peers i).isActive = true ∧ (i = loopbackSlot → g.capture.micTestLoopback = true)

instance (g : VoiceEngine) (i : Fin maxPeers) : Decidable (g.Mixes i) := inferInstanceAs (Decidable (_ ∧ _))

/-- The turn of slot `i` in the loop over the peers. -/
def mixSlot (s : VoiceEngine × List Float32) (i : Fin maxPeers) : VoiceEngine × List Float32 :=
  let (g, mixAccumulator) := s
  if g.Mixes i then
    let p := g.table.peers i
    let (mixAccumulator, ring) := mixPeer p.userVolume mixAccumulator p.ring
    (g.setPeer i { p with ring }, mixAccumulator)
  else s

/-- The soft limiter. -/
def softLimit (mixed : Float32) : Int16 :=
  let x := mixed / 32768.0
  let y := if 1.5 ≤ x then 1.0 else if x ≤ -1.5 then -1.0 else x - (4.0 / 27.0) * (x * x * x)
  (y * 32767.0).toInt16

/-- One chunk of the mixer. -/
def mixChunk (g : VoiceEngine) (chunk : Nat) : VoiceEngine × List Int16 :=
  let (g, mixAccumulator) := (List.finRange maxPeers).foldl mixSlot (g, List.replicate chunk 0.0)
  (g, mixAccumulator.map softLimit)

/-- The loop of the mixer over chunks of at most a frame. -/
def mixLoop (g : VoiceEngine) (samplesRemaining : Nat) : VoiceEngine × List Int16 :=
  if samplesRemaining = 0 then (g, [])
  else
    let chunk := min samplesRemaining samplesPerFrame
    let (g, out) := g.mixChunk chunk
    let (g, rest) := g.mixLoop (samplesRemaining - chunk)
    (g, out ++ rest)
termination_by samplesRemaining
decreasing_by
  simp only [samplesPerFrame]
  omega

/-- `mix_audio_streams`, with a buffer. -/
def mixAudioStreams (g : VoiceEngine) (frameSamples : Nat) : VoiceEngine × List Int16 :=
  if frameSamples = 0 ∨ g.localDeafened = true then (g, List.replicate frameSamples 0)
  else g.mixLoop frameSamples

/-- The loop of `ma_playback_callback` for more than one channel. -/
def playbackLoop (g : VoiceEngine) (channels framesRemaining : Nat) : VoiceEngine × List Int16 :=
  if framesRemaining = 0 then (g, [])
  else
    let chunk := min framesRemaining samplesPerFrame
    let (g, monoBuf) := g.mixAudioStreams chunk
    let (g, rest) := g.playbackLoop channels (framesRemaining - chunk)
    (g, monoBuf.flatMap (List.replicate channels) ++ rest)
termination_by framesRemaining
decreasing_by
  simp only [samplesPerFrame]
  omega

/-- `ma_playback_callback`, with what it writes. -/
def playbackCallback (g : VoiceEngine) (hasOutput : Bool) (channels frameCount : Nat) :
    VoiceEngine × List Int16 :=
  if hasOutput = false ∨ frameCount = 0 then (g, [])
  else
    let channels := if 0 < channels then channels else 1
    if g.playing = false ∨ g.localDeafened = true then (g, List.replicate (frameCount * channels) 0)
    else if channels ≤ 1 then g.mixAudioStreams frameCount
    else g.playbackLoop channels frameCount

end VoiceEngine

/-- A call into the engine. -/
inductive EngineCall where
  | init (vadHangoverMs : UInt32)
  | destroy
  | captureCallback (pInput : Option (List Int16)) (channels frameCount : Nat)
  | playbackCallback (hasOutput : Bool) (channels frameCount : Nat)
  | startCapture
  | stopCapture
  | startPlayback
  | stopPlayback
  | setPttState (pressed : Bool)
  | setVadMode (enabled : Bool) (thresholdDb : Float32)
  | setLocalMute (muted : Bool)
  | setLocalDeafen (deafened : Bool)
  | setUserVolume (userId : UInt32) (volumeMultiplier : Float32)
  | clearPeers
  | setMicTestLoopback (enabled : Bool)
  | feedInboundPacket (packetBytes : Option GoBytes) (length : UInt32)
  | captureFrame (hasBuffer : Bool) (maxLen : Nat)
  | mixAudioStreams (frameSamples : Nat)

/-- The engine after a call. Every call holds the lock while it touches a ring. -/
def VoiceEngine.call (g : VoiceEngine) : EngineCall → VoiceEngine
  | .init vadHangoverMs => g.init vadHangoverMs
  | .destroy => g.destroy
  | .captureCallback pInput channels frameCount =>
    { g with capture := g.capture.captureCallback pInput channels frameCount }
  | .playbackCallback hasOutput channels frameCount => (g.playbackCallback hasOutput channels frameCount).1
  | .startCapture => { g with capture := g.capture.startCapture }
  | .stopCapture => { g with capture := g.capture.stopCapture }
  | .startPlayback => g.startPlayback
  | .stopPlayback => g.stopPlayback
  | .setPttState pressed => { g with capture := g.capture.setPttState pressed }
  | .setVadMode enabled thresholdDb => { g with capture := g.capture.setVadMode enabled thresholdDb }
  | .setLocalMute muted => { g with capture := g.capture.setLocalMute muted }
  | .setLocalDeafen deafened => g.setLocalDeafen deafened
  | .setUserVolume userId volumeMultiplier => g.setUserVolume userId volumeMultiplier
  | .clearPeers => g.clearPeers
  | .setMicTestLoopback enabled => g.setMicTestLoopback enabled
  | .feedInboundPacket packetBytes length => (g.feedInboundPacket packetBytes length).1
  | .captureFrame hasBuffer maxLen => (g.captureFrame hasBuffer maxLen).1
  | .mixAudioStreams frameSamples => (g.mixAudioStreams frameSamples).1

end low_latency_voice.client
