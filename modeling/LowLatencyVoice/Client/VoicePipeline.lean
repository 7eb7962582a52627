import LowLatencyVoice.Client.CapturePrivacy
import LowLatencyVoice.Lib.GoBytes

namespace low_latency_voice.client

/-- `AppConstants.udpHeaderSize`. -/
def udpHeaderSize : Nat := 20

def udpMagicByte : UInt8 := 0x56
def udpProtocolVersion : UInt8 := 0x01
def packetTypeVoice : UInt8 := 0x01
def flagVad : UInt8 := 0x01

/-- The fields of an outbound `VoicePacket`; magic and version take their
defaults. -/
structure VoicePacket where
  type : UInt8
  vad : Bool
  energyLevel : UInt8
  senderId : UInt32
  channelId : UInt32
  sequence : UInt16
  timestamp : UInt32
  payload : List UInt8
  deriving DecidableEq, Repr

/-- `VoicePacket.encode`. -/
def VoicePacket.encode (p : VoicePacket) : List UInt8 :=
  [udpMagicByte, udpProtocolVersion, p.type,
    (if p.vad then flagVad else 0) ||| ((p.energyLevel &&& 0x0F) <<< 4)] ++
    GoBytes.putUint32 p.senderId ++ GoBytes.putUint32 p.channelId ++ GoBytes.putUint16 p.sequence ++
    GoBytes.putUint16 (UInt16.ofNat p.payload.length) ++ GoBytes.putUint32 p.timestamp ++ p.payload

theorem VoicePacket.drop_encode (p : VoicePacket) : p.encode.drop udpHeaderSize = p.payload := rfl

/-- The sending side of `VoiceClient`. -/
structure VoiceClient where
  isConnected : Bool
  hasSocket : Bool
  hasServerAddress : Bool
  userId : UInt32
  channelId : UInt32
  sequenceCounter : UInt16
  sampleTimestamp : UInt32

namespace VoiceClient

/-- `sendPacket`: the datagram handed to the socket. -/
def sendPacket (c : VoiceClient) (packet : VoicePacket) : Option (List UInt8) :=
  if c.hasSocket = false ∨ c.hasServerAddress = false then none else some packet.encode

/-- `sendVoiceFrame`. It sends what it is given, speaking or not. -/
def sendVoiceFrame (c : VoiceClient) (opusData : List UInt8) (isSpeaking : Bool) (energyLevel : UInt8) :
    VoiceClient × Option (List UInt8) :=
  if c.isConnected = false ∨ c.hasSocket = false ∨ c.hasServerAddress = false then (c, none)
  else
    let c := { c with
      sampleTimestamp := c.sampleTimestamp + UInt32.ofNat samplesPerFrame
      sequenceCounter := c.sequenceCounter + 1 }
    let packet : VoicePacket :=
      { type := packetTypeVoice, vad := isSpeaking, energyLevel, senderId := c.userId,
        channelId := c.channelId, sequence := c.sequenceCounter, timestamp := c.sampleTimestamp,
        payload := opusData }
    (c, c.sendPacket packet)

def disconnect (c : VoiceClient) : VoiceClient :=
  { c with isConnected := false, userId := 0, channelId := 0, hasSocket := false }

/-- `connect`, once the socket is bound; the handshake takes a sequence number. -/
def connect (c : VoiceClient) (userId channelId : UInt32) : VoiceClient :=
  { c.disconnect with
    isConnected := true, hasSocket := true, hasServerAddress := true, userId, channelId
    sequenceCounter := c.sequenceCounter + 1 }

end VoiceClient

/-- The capture side of `AudioEngineService`; `hasLibrary` says whether the
native library was found. -/
structure AudioEngineService where
  engine : Engine
  hasLibrary : Bool
  isCapturing : Bool
  isTestingMic : Bool
  isLocalMuted : Bool

/-- An `AudioCapturedFrame` on the capture stream. -/
structure AudioCapturedFrame where
  data : List UInt8
  isSpeaking : Bool
  energyLevel : UInt8
  deriving DecidableEq, Repr

/-- The bytes of a frame: 16-bit PCM, little-endian. -/
def pcmBytes (pcm : List Sample) : List UInt8 :=
  pcm.flatMap fun s => (GoBytes.putUint16 s.value.toUInt16).reverse

namespace AudioEngineService

/-- A call of the native library, skipped when there is none. -/
def native (a : AudioEngineService) (f : Engine → Engine) : AudioEngineService :=
  if a.hasLibrary then { a with engine := f a.engine } else a

theorem native_of_library {a : AudioEngineService} (h : a.hasLibrary = true) (f : Engine → Engine) :
    a.native f = { a with engine := f a.engine } := if_pos h

def startCapture (a : AudioEngineService) : AudioEngineService :=
  { a with isCapturing := true }.native Engine.startCapture

def stopCapture (a : AudioEngineService) : AudioEngineService :=
  { a with isCapturing := false }.native Engine.stopCapture

def setPttState (a : AudioEngineService) (isPressed : Bool) : AudioEngineService :=
  a.native fun e => e.setPttState isPressed

def setVadMode (a : AudioEngineService) (enabled : Bool) (thresholdDb : Float32) : AudioEngineService :=
  a.native fun e => e.setVadMode enabled thresholdDb

def setLocalMute (a : AudioEngineService) (muted : Bool) : AudioEngineService :=
  { a with isLocalMuted := muted }.native fun e => e.setLocalMute muted

def startMicTest (a : AudioEngineService) : AudioEngineService :=
  { a with isTestingMic := true }.native fun e => (e.setMicTestLoopback true).startCapture

def stopMicTest (a : AudioEngineService) : AudioEngineService :=
  { a with isTestingMic := false }.native fun e =>
    if a.isCapturing then e.setMicTestLoopback false else (e.setMicTestLoopback false).stopCapture

/-- The frame a tick fetches: silence without the library. -/
def fetch (a : AudioEngineService) : AudioEngineService × AudioCapturedFrame :=
  if a.hasLibrary then
    match a.engine.captureFrame true (samplesPerFrame * 2) with
    | (e, some frame) => ({ a with engine := e }, ⟨pcmBytes frame.pcm, frame.isSpeaking, frame.energyLevel⟩)
    | (e, none) => ({ a with engine := e }, ⟨List.replicate (samplesPerFrame * 2) 0, false, 0⟩)
  else (a, ⟨List.replicate (samplesPerFrame * 2) 0, false, 0⟩)

/-- `_onFramePumpTick`: the frame that goes on the capture stream, if any. -/
def onFramePumpTick (a : AudioEngineService) : AudioEngineService × Option AudioCapturedFrame :=
  if a.isCapturing = false ∧ a.isTestingMic = false then (a, none)
  else
    let (a, frame) := a.fetch
    (a, if a.isCapturing && !a.isLocalMuted then some frame else none)

end AudioEngineService

inductive InputActivationMode where
  | voiceActivity
  | pushToTalk
  deriving DecidableEq, Repr

inductive KeyEvent where
  | down
  | up
  | repeat
  deriving DecidableEq, Repr

/-- `PttService`; keys are compared by their id. -/
structure PttService where
  mode : InputActivationMode
  hotkey : Nat
  isPressed : Bool

/-- `handleKeyEvent`. Its stream of states has no listener. -/
def PttService.handleKeyEvent (p : PttService) (event : KeyEvent) (logicalKey : Nat) : PttService :=
  if p.mode ≠ .pushToTalk ∨ logicalKey ≠ p.hotkey then p
  else
    match event with
    | .down => { p with isPressed := true }
    | .up => { p with isPressed := false }
    | .repeat => p

/-- `VoiceNotifier` with the services it drives; `captureSub` is whether it
listens to the capture stream. -/
structure VoiceNotifier where
  audioEngine : AudioEngineService
  voiceClient : VoiceClient
  pttService : PttService
  captureSub : Bool
  selfMuted : Bool
  selfDeafened : Bool
  serverMuted : Bool
  serverDeafened : Bool

namespace VoiceNotifier

/-- `VoiceStateModel.isMuted`. -/
def isMuted (v : VoiceNotifier) : Bool :=
  v.selfMuted || v.serverMuted || (v.selfDeafened || v.serverDeafened)

/-- The listener `joinVoice` puts on the capture stream. It asks whether the
user is muted, and only passes `isSpeaking` on. -/
def onAudioCaptured (v : VoiceNotifier) (frame : AudioCapturedFrame) :
    VoiceNotifier × Option (List UInt8) :=
  if v.captureSub = false ∨ v.isMuted = true then (v, none)
  else
    let (c, sent) := v.voiceClient.sendVoiceFrame frame.data frame.isSpeaking frame.energyLevel
    ({ v with voiceClient := c }, sent)

/-- One tick of the frame pump through all three layers. -/
def tick (v : VoiceNotifier) : VoiceNotifier × Option (List UInt8) :=
  match v.audioEngine.onFramePumpTick with
  | (a, some frame) => { v with audioEngine := a }.onAudioCaptured frame
  | (a, none) => ({ v with audioEngine := a }, none)

/-- `joinVoice`, when the server admits the user. -/
def joinVoice (v : VoiceNotifier) (userId channelId : UInt32) : VoiceNotifier :=
  { v with
    audioEngine := v.audioEngine.stopMicTest.startCapture
    voiceClient := v.voiceClient.connect userId channelId
    captureSub := true }

def disconnect (v : VoiceNotifier) : VoiceNotifier :=
  { v with
    audioEngine := v.audioEngine.stopCapture
    voiceClient := v.voiceClient.disconnect
    captureSub := false }

def toggleMute (v : VoiceNotifier) : VoiceNotifier :=
  { v with
    selfMuted := !v.selfMuted
    audioEngine := v.audioEngine.setLocalMute !v.selfMuted }

/-- `toggleDeafen`: deafening also mutes. -/
def toggleDeafen (v : VoiceNotifier) : VoiceNotifier :=
  let nextDeafened := !v.selfDeafened
  let nextMuted := nextDeafened || v.selfMuted
  { v with
    selfDeafened := nextDeafened
    selfMuted := nextMuted
    audioEngine := v.audioEngine.setLocalMute nextMuted }

end VoiceNotifier

/-- What happens to the client. -/
inductive ClientEvent where
  | captureCallback (pInput : Option (List Int16)) (channels frameCount : Nat)
  | key (event : KeyEvent) (logicalKey : Nat)
  | setPttState (isPressed : Bool)
  | setVadMode (enabled : Bool) (thresholdDb : Float32)
  | framePumpTick
  | joinVoice (userId channelId : UInt32)
  | disconnect
  | toggleMute
  | toggleDeafen
  | voiceStateUpdate (serverMuted serverDeafened : Bool)
  | startMicTest
  | stopMicTest

def clientStep (v : VoiceNotifier) : ClientEvent → VoiceNotifier × Option (List UInt8)
  | .captureCallback pInput channels frameCount =>
    ({ v with audioEngine := v.audioEngine.native fun e => e.captureCallback pInput channels frameCount },
      none)
  | .key event logicalKey => ({ v with pttService := v.pttService.handleKeyEvent event logicalKey }, none)
  | .setPttState isPressed => ({ v with audioEngine := v.audioEngine.setPttState isPressed }, none)
  | .setVadMode enabled thresholdDb =>
    ({ v with audioEngine := v.audioEngine.setVadMode enabled thresholdDb }, none)
  | .framePumpTick => v.tick
  | .joinVoice userId channelId => (v.joinVoice userId channelId, none)
  | .disconnect => (v.disconnect, none)
  | .toggleMute => (v.toggleMute, none)
  | .toggleDeafen => (v.toggleDeafen, none)
  | .voiceStateUpdate serverMuted serverDeafened => ({ v with serverMuted, serverDeafened }, none)
  | .startMicTest => ({ v with audioEngine := v.audioEngine.startMicTest }, none)
  | .stopMicTest => ({ v with audioEngine := v.audioEngine.stopMicTest }, none)

/-- The client under arbitrary events; it shows the voice datagrams it sends. -/
def voiceClient : Machine VoiceNotifier ClientEvent (Option (List UInt8)) := ⟨clientStep⟩

/-- The client after start-up. -/
def VoiceNotifier.init (hasLibrary : Bool) (vadHangoverMs : UInt32) (mode : InputActivationMode)
    (hotkey : Nat) : VoiceNotifier where
  audioEngine :=
    { engine := .init vadHangoverMs, hasLibrary, isCapturing := false, isTestingMic := false,
      isLocalMuted := false }
  voiceClient :=
    { isConnected := false, hasSocket := false, hasServerAddress := false, userId := 0, channelId := 0,
      sequenceCounter := 0, sampleTimestamp := 0 }
  pttService := { mode, hotkey, isPressed := false }
  captureSub := false
  selfMuted := false
  selfDeafened := false
  serverMuted := false
  serverDeafened := false

end low_latency_voice.client
