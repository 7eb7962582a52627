import LowLatencyVoice.Client.VoicePipeline

namespace low_latency_voice.client

/-- The payload of the datagram has a non-zero 16-bit sample. -/
def CarriesSound (datagram : List UInt8) : Prop := ∃ b ∈ datagram.drop udpHeaderSize, b ≠ 0

/-- In push-to-talk mode sound is sent only while the key is held. -/
def PushToTalkGated (v₀ : VoiceNotifier) : List ClientEvent → Prop :=
  Machine.Along fun pre ev => (voiceClient.run v₀ pre).audioEngine.engine.vadMode = false →
    ∀ datagram, voiceClient.out (voiceClient.run v₀ pre) ev = some datagram → CarriesSound datagram →
      (voiceClient.run v₀ pre).audioEngine.engine.pttPressed = true

/-- Capture, network and mute switches let the next frame out. -/
def VoiceNotifier.Transmits (v : VoiceNotifier) : Prop :=
  (v.audioEngine.isCapturing = true ∧ v.audioEngine.isLocalMuted = false ∧
    v.audioEngine.hasLibrary = true) ∧
  (v.captureSub = true ∧ v.isMuted = false) ∧
  v.voiceClient.isConnected = true ∧ v.voiceClient.hasSocket = true ∧
    v.voiceClient.hasServerAddress = true

/-- The engine has a frame ready, and the frame is not silent. -/
def Engine.HasSound (e : Engine) : Prop :=
  e.Dequeues ∧ ∃ x ∈ e.ring.queued.take samplesPerFrame, x.value ≠ 0

/-- In push-to-talk mode, whenever the pump ticks while the client transmits and
a frame with sound is ready, the key is held. -/
def KeyHeldOnSound (v₀ : VoiceNotifier) : List ClientEvent → Prop :=
  Machine.Along fun pre ev => (voiceClient.run v₀ pre).audioEngine.engine.vadMode = false →
    ev = .framePumpTick → (voiceClient.run v₀ pre).Transmits →
      (voiceClient.run v₀ pre).audioEngine.engine.HasSound →
      (voiceClient.run v₀ pre).audioEngine.engine.pttPressed = true

theorem exists_putUint16_ne_zero_iff (v : UInt16) : (∃ b ∈ GoBytes.putUint16 v, b ≠ 0) ↔ v ≠ 0 := by
  have hbytes : (v >>> 8).toUInt8.toNat = v.toNat / 256 % 256 ∧ v.toUInt8.toNat = v.toNat % 256 := by
    simp [Nat.shiftRight_eq_div_pow]
  have hlt : v.toNat < 65536 := v.toNat_lt
  simp only [GoBytes.putUint16, List.exists_mem_cons_iff, List.not_mem_nil, false_and, exists_false,
    or_false, ne_eq, ← UInt8.toNat_inj, ← UInt16.toNat_inj, hbytes, UInt8.toNat_zero, UInt16.toNat_zero]
  omega

/-- A frame has a non-zero byte exactly when it has a non-zero sample. -/
theorem exists_pcmBytes_ne_zero_iff {pcm : List Sample} :
    (∃ b ∈ pcmBytes pcm, b ≠ 0) ↔ ∃ x ∈ pcm, x.value ≠ 0 := by
  have hsample : ∀ x : Sample, (∃ b ∈ (GoBytes.putUint16 x.value.toUInt16).reverse, b ≠ 0) ↔
      x.value ≠ 0 := by
    intro x
    simp only [List.mem_reverse]
    rw [exists_putUint16_ne_zero_iff]
    refine not_congr ⟨fun h => ?_, fun h => congrArg Int16.toUInt16 h⟩
    rw [← Int16.toInt16_toUInt16 x.value, h]
    rfl
  simp only [pcmBytes, List.mem_flatMap]
  constructor
  · rintro ⟨b, ⟨x, hx, hb⟩, hne⟩
    exact ⟨x, hx, (hsample x).mp ⟨b, hb, hne⟩⟩
  · rintro ⟨x, hx, hsound⟩
    obtain ⟨b, hb, hne⟩ := (hsample x).mpr hsound
    exact ⟨b, ⟨x, hx, hb⟩, hne⟩

/-- A fetched frame has sound exactly when the engine is there and has some. -/
theorem AudioEngineService.fetch_sound_iff (a : AudioEngineService) :
    (∃ b ∈ a.fetch.2.data, b ≠ 0) ↔ a.hasLibrary = true ∧ a.engine.HasSound := by
  cases hlib : a.hasLibrary with
  | false =>
    have hsilent : a.fetch.2.data = List.replicate (samplesPerFrame * 2) 0 := by
      simp [AudioEngineService.fetch, hlib]
    rw [hsilent]
    constructor
    · rintro ⟨b, hb, hne⟩
      exact absurd (List.eq_of_mem_replicate hb) hne
    · rintro ⟨⟨⟩, -⟩
  | true =>
    obtain ⟨frame, hframe⟩ := Option.isSome_iff_exists.mp
      (a.engine.captureFrame_isSome _ (Nat.le_refl (samplesPerFrame * 2)))
    have hdata : a.fetch.2.data = pcmBytes frame.pcm := by
      simp only [AudioEngineService.fetch, hlib, if_true]
      rw [← Prod.eta (a.engine.captureFrame true (samplesPerFrame * 2)), hframe]
    rw [hdata, exists_pcmBytes_ne_zero_iff, Engine.captureFrame_pcm hframe]
    by_cases hdeq : a.engine.Dequeues
    · simp [Engine.HasSound, hdeq]
    · simp only [hdeq, if_false, Engine.HasSound, false_and, and_false, iff_false]
      rintro ⟨x, hx, hsound⟩
      rw [List.eq_of_mem_replicate hx] at hsound
      exact hsound rfl

/-- What reaches the capture stream. -/
theorem AudioEngineService.onFramePumpTick_eq (a : AudioEngineService) :
    a.onFramePumpTick.2 =
      if a.isCapturing = true ∧ a.isLocalMuted = false then some a.fetch.2 else none := by
  have hkept : a.fetch.1.isCapturing = a.isCapturing ∧ a.fetch.1.isLocalMuted = a.isLocalMuted := by
    unfold AudioEngineService.fetch
    split
    · split <;> exact ⟨rfl, rfl⟩
    · exact ⟨rfl, rfl⟩
  unfold AudioEngineService.onFramePumpTick
  cases hcapturing : a.isCapturing <;> cases htesting : a.isTestingMic <;>
    cases hmuted : a.isLocalMuted <;> simp [hkept, hcapturing, hmuted]

/-- What the listener sends of a frame. -/
theorem VoiceNotifier.onAudioCaptured_sound_iff (v : VoiceNotifier) (frame : AudioCapturedFrame) :
    (∃ datagram, (v.onAudioCaptured frame).2 = some datagram ∧ CarriesSound datagram) ↔
      (v.captureSub = true ∧ v.isMuted = false) ∧
      (v.voiceClient.isConnected = true ∧ v.voiceClient.hasSocket = true ∧
        v.voiceClient.hasServerAddress = true) ∧ ∃ b ∈ frame.data, b ≠ 0 := by
  unfold VoiceNotifier.onAudioCaptured VoiceClient.sendVoiceFrame
  by_cases hlistening : v.captureSub = false ∨ v.isMuted = true
  · simp only [hlistening, if_true]
    constructor
    · rintro ⟨_, ⟨⟩, -⟩
    · rintro ⟨⟨hsub, hmuted⟩, -⟩
      simp [hsub, hmuted] at hlistening
  · simp only [hlistening, if_false]
    rw [not_or, Bool.not_eq_false, Bool.not_eq_true] at hlistening
    by_cases hdown : v.voiceClient.isConnected = false ∨ v.voiceClient.hasSocket = false ∨
        v.voiceClient.hasServerAddress = false
    · simp only [hdown, if_true]
      constructor
      · rintro ⟨_, ⟨⟩, -⟩
      · rintro ⟨-, ⟨hconnected, hsocket, haddress⟩, -⟩
        simp [hconnected, hsocket, haddress] at hdown
    · simp only [hdown, if_false]
      simp only [not_or, Bool.not_eq_false] at hdown
      simp [VoiceClient.sendPacket, hdown, hlistening, CarriesSound, VoicePacket.drop_encode]

/-- What one tick sends, and when. -/
theorem tick_sound_iff (v : VoiceNotifier) :
    (∃ datagram, v.tick.2 = some datagram ∧ CarriesSound datagram) ↔
      v.Transmits ∧ v.audioEngine.engine.HasSound := by
  have hpump := v.audioEngine.onFramePumpTick_eq
  unfold VoiceNotifier.tick
  cases htick : v.audioEngine.onFramePumpTick with
  | mk a emitted =>
    rw [htick] at hpump
    simp only at hpump
    subst hpump
    by_cases hon : v.audioEngine.isCapturing = true ∧ v.audioEngine.isLocalMuted = false
    · simp only [hon, and_self, if_true]
      rw [VoiceNotifier.onAudioCaptured_sound_iff, AudioEngineService.fetch_sound_iff]
      have hmuted : { v with audioEngine := a }.isMuted = v.isMuted := rfl
      rw [hmuted]
      unfold VoiceNotifier.Transmits
      tauto
    · simp only [hon, if_false]
      constructor
      · rintro ⟨_, ⟨⟩, -⟩
      · rintro ⟨⟨⟨hcapturing, hmuted, -⟩, -⟩, -⟩
        exact absurd ⟨hcapturing, hmuted⟩ hon

/-- User 7 in channel 3, push-to-talk on and the key up, is recorded. -/
def recordedKeyUp (samples : List Int16) (frameCount : Nat) : List ClientEvent :=
  [.setVadMode false (-45.0), .joinVoice 7 3, .captureCallback (some samples) 1 frameCount]

theorem run_recordedKeyUp (samples : List Int16) (frameCount : Nat) (hpos : frameCount ≠ 0)
    (hroom : frameCount < ringBufferSize) :
    let v := voiceClient.run (.init true 200 .pushToTalk 0) (recordedKeyUp samples frameCount)
    v.Transmits ∧ (v.audioEngine.engine.vadMode = false ∧ v.audioEngine.engine.pttPressed = false) ∧
      (v.audioEngine.engine.capturing = true ∧ v.audioEngine.engine.localMuted = false) ∧
      v.audioEngine.engine.ring.queued =
        (List.range frameCount).map fun i => ⟨Engine.mixDown samples 1 i, false, 1⟩ := by
  have hqueued := Engine.queued_init_pushAll 200
    ((Engine.init 200).startCapture.delivered samples 1 frameCount) (by simpa [Engine.delivered])
  have hstate : voiceClient.run (.init true 200 .pushToTalk 0) (recordedKeyUp samples frameCount) =
      (clientStep (voiceClient.run (.init true 200 .pushToTalk 0) [.setVadMode false (-45.0),
        .joinVoice 7 3]) (.captureCallback (some samples) 1 frameCount)).1 := rfl
  rw [hstate]
  simp only [clientStep]
  rw [AudioEngineService.native_of_library rfl, Engine.captureCallback_eq rfl samples 1 hpos]
  exact ⟨⟨⟨rfl, rfl, rfl⟩, ⟨rfl, rfl⟩, rfl, rfl, rfl⟩, ⟨rfl, rfl⟩, ⟨rfl, rfl⟩, hqueued⟩

end low_latency_voice.client
